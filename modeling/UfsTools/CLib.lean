/-
The part of the C library that command line tools lean on: the integer
conversions of the language, the numerals `printf` writes and the ones
`strtol` and its relatives read.
-/
import Mathlib

namespace CLib

/-- The characters of a C string, without its terminator. -/
abbrev Text := List Char

/-- A string literal of the source.  Unlike `String.toList` it stays folded
when a proof rewrites around it. -/
def lit (s : String) : Text := s.toList

/-- The kernel takes a literal apart through this at once, where it would decode
one character after the other. -/
theorem lit_ofList (l : List Char) : lit (String.ofList l) = l :=
  String.toList_ofList

theorem lit_append (s t : String) : lit (s ++ t) = lit s ++ lit t :=
  String.toList_append

def intMax : Int := 2147483647

/-- The value of a 32-bit signed object that was assigned `x`. -/
def toInt (x : Int) : Int := (x + 2147483648) % 4294967296 - 2147483648

/-- A 32-bit unsigned value taken as a signed one. -/
def signed (x : UInt32) : Int := toInt x.toNat

theorem toInt_of_range {x : Int} (hlo : -2147483648 ≤ x) (hhi : x ≤ intMax) :
    toInt x = x := by
  simp only [toInt, intMax] at *
  omega

theorem toInt_le (x : Int) : toInt x ≤ intMax := by
  simp only [toInt, intMax]
  omega

theorem signed_of_lt {x : UInt32} (h : x.toNat < 2147483648) :
    signed x = x.toNat := by
  simp only [signed, toInt]
  omega

theorem signed_nonneg_iff (x : UInt32) :
    0 ≤ signed x ↔ x.toNat < 2147483648 := by
  have := x.toNat_lt
  simp only [signed, toInt]
  omega

theorem signed_eq_neg_two_iff (x : UInt32) :
    signed x = -2 ↔ x.toNat = 4294967294 := by
  have := x.toNat_lt
  simp only [signed, toInt]
  omega

/-- Taking a register value as a signed one and back loses nothing. -/
theorem ofInt_signed (x : UInt32) : UInt32.ofInt (signed x) = x := by
  have hlt := x.toNat_lt
  apply UInt32.toNat_inj.mp
  have hmod : signed x % 4294967296 = x.toNat := by
    simp only [signed, toInt]
    omega
  simp only [UInt32.ofInt]
  rw [show ((2 : Int) ^ 32) = 4294967296 by norm_num, hmod]
  simp

/-- The value of an `int` expression; an overflow leaves it undefined. -/
def intValue (x : Int) : Option Int :=
  if -2147483648 ≤ x ∧ x ≤ intMax then some x else none

theorem intValue_eq_some_iff {x y : Int} :
    intValue x = some y ↔ (-2147483648 ≤ x ∧ x ≤ intMax) ∧ x = y := by
  rw [intValue, Option.ite_none_right_eq_some, Option.some_inj]

/-! Numerals. -/

/-- The value of a character as a digit; 36 for what is no digit. -/
def digitVal (c : Char) : Nat :=
  if '0' ≤ c ∧ c ≤ '9' then c.toNat - '0'.toNat
  else if 'a' ≤ c ∧ c ≤ 'z' then c.toNat - 'a'.toNat + 10
  else if 'A' ≤ c ∧ c ≤ 'Z' then c.toNat - 'A'.toNat + 10
  else 36

def valueOf (base : Nat) (digits : Text) : Nat :=
  digits.foldl (fun acc c => acc * base + digitVal c) 0

/-- `%d` -/
def showInt (n : Int) : Text :=
  if n < 0 then '-' :: Nat.toDigits 10 n.natAbs else Nat.toDigits 10 n.natAbs

/-- `%x` -/
def showHex (n : Nat) : Text := Nat.toDigits 16 n

/-- `%X` -/
def showUpperHex (n : Nat) : Text := (showHex n).map Char.toUpper

/-- The `0` flag with a minimum width. -/
def padZero (width : Nat) (text : Text) : Text :=
  List.replicate (width - text.length) '0' ++ text

/-- The `-` flag with a minimum width. -/
def padRight (width : Nat) (text : Text) : Text :=
  text ++ List.replicate (width - text.length) ' '

theorem digitVal_digitChar {d : Nat} (h : d < 16) :
    digitVal d.digitChar = d := by
  interval_cases d <;> decide

theorem valueOf_append_singleton (base : Nat) (digits : Text) (c : Char) :
    valueOf base (digits ++ [c]) = valueOf base digits * base + digitVal c := by
  simp [valueOf]

/-- Reading a written numeral gives the number back. -/
theorem valueOf_toDigits {base : Nat} (hlo : 1 < base) (hhi : base ≤ 16)
    (n : Nat) : valueOf base (Nat.toDigits base n) = n := by
  induction n using Nat.strong_induction_on with
  | h n ih =>
      rw [Nat.toDigits_eq_if hlo]
      split
      · next hsmall =>
          simp [valueOf, digitVal_digitChar (Nat.lt_of_lt_of_le hsmall hhi)]
      · next hlarge =>
          have hpos : 0 < n := by omega
          have hmod : n % base < 16 :=
            Nat.lt_of_lt_of_le (Nat.mod_lt n (by omega)) hhi
          rw [valueOf_append_singleton, ih _ (Nat.div_lt_self hpos hlo),
            digitVal_digitChar hmod, Nat.mul_comm]
          exact Nat.div_add_mod n base

theorem mem_toDigits {base : Nat} (hlo : 1 < base) (n : Nat) :
    ∀ c ∈ Nat.toDigits base n, ∃ d < base, c = d.digitChar := by
  induction n using Nat.strong_induction_on with
  | h n ih =>
      intro c hc
      rw [Nat.toDigits_eq_if hlo] at hc
      split at hc
      · next hsmall => exact ⟨n, hsmall, List.mem_singleton.mp hc⟩
      · next hlarge =>
          have hpos : 0 < n := by omega
          rcases List.mem_append.mp hc with hc | hc
          · exact ih _ (Nat.div_lt_self hpos hlo) c hc
          · exact ⟨n % base, Nat.mod_lt n (by omega), List.mem_singleton.mp hc⟩

/-! `strtol` and its relatives, for a 64-bit `long`. -/

def isSpace (c : Char) : Bool :=
  c ∈ [' ', '\t', '\n', '\x0b', '\x0c', '\x0d']

def splitSign : Text → Bool × Text
  | '-' :: rest => (true, rest)
  | '+' :: rest => (false, rest)
  | text => (false, text)

/-- The base a numeral is read in and the text behind its prefix.  `0x` counts
as a prefix only in front of a hexadecimal digit. -/
def splitBase (base : Nat) : Text → Nat × Text
  | '0' :: x :: d :: rest =>
      if (base = 0 ∨ base = 16) ∧ (x = 'x' ∨ x = 'X') ∧ digitVal d < 16 then
        (16, d :: rest)
      else (if base = 0 then 8 else base, '0' :: x :: d :: rest)
  | '0' :: rest => (if base = 0 then 8 else base, '0' :: rest)
  | text => (if base = 0 then 10 else base, text)

/-- Sign, magnitude and unread text of the numeral `text` starts with. -/
def scanInteger (base : Nat) (text : Text) : Option (Bool × Nat × Text) :=
  let (negative, unsigned) := splitSign (text.dropWhile isSpace)
  let (base, body) := splitBase base unsigned
  let digits := body.takeWhile fun c => decide (digitVal c < base)
  if digits = [] then none
  else some (negative, valueOf base digits, body.drop digits.length)

def strtol (base : Nat) (text : Text) : Int × Text :=
  match scanInteger base text with
  | none => (0, text)
  | some (negative, magnitude, rest) =>
      let value : Int := if negative then -magnitude else magnitude
      (max (-2 ^ 63) (min value (2 ^ 63 - 1)), rest)

def strtoull (base : Nat) (text : Text) : Nat × Text :=
  match scanInteger base text with
  | none => (0, text)
  | some (negative, magnitude, rest) =>
      if 2 ^ 64 ≤ magnitude then (2 ^ 64 - 1, rest)
      else if negative then ((2 ^ 64 - magnitude) % 2 ^ 64, rest)
      else (magnitude, rest)

def atoi (text : Text) : Int := toInt (strtol 10 text).1

def atoll (text : Text) : Int := (strtol 10 text).1

/-- A written hexadecimal numeral is read in full. -/
theorem scanInteger_hex (n : Nat) :
    scanInteger 0 ('0' :: 'x' :: showHex n) = some (false, n, []) := by
  have hdigits : ∀ c ∈ showHex n, digitVal c < 16 := by
    intro c hc
    obtain ⟨d, hd, rfl⟩ := mem_toDigits (by decide) n c hc
    rwa [digitVal_digitChar hd]
  have hvalue := valueOf_toDigits (by decide : 1 < 16) le_rfl n
  rw [← showHex] at hvalue
  cases hshow : showHex n with
  | nil => exact absurd hshow Nat.toDigits_ne_nil
  | cons d rest =>
      rw [hshow] at hdigits hvalue
      have hd := hdigits d List.mem_cons_self
      have htake : ((d :: rest).takeWhile fun c => decide (digitVal c < 16)) =
          d :: rest := by
        apply List.takeWhile_eq_self_iff.mpr
        intro c hc
        exact decide_eq_true (hdigits c hc)
      have hspace : ('0' :: 'x' :: d :: rest).dropWhile isSpace =
          '0' :: 'x' :: d :: rest := rfl
      have hsign : splitSign ('0' :: 'x' :: d :: rest) =
          (false, '0' :: 'x' :: d :: rest) := rfl
      have hbase : splitBase 0 ('0' :: 'x' :: d :: rest) =
          (16, d :: rest) := by simp [splitBase, hd]
      rw [scanInteger, hspace]
      simp only [hsign, hbase, htake, hvalue, List.drop_length, reduceCtorEq,
        if_false]

theorem strtol_hex {n : Nat} (h : n < 2 ^ 63) :
    strtol 0 ('0' :: 'x' :: showHex n) = ((n : Int), []) := by
  have hint : (n : Int) < 2 ^ 63 := by exact_mod_cast h
  simp only [strtol, scanInteger_hex, Bool.false_eq_true, if_false,
    Prod.mk.injEq, and_true]
  omega

end CLib
