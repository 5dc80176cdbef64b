/-
The numerals `strtol` and its relatives read as a whole, and what the two
parsers of `common.c` make of them.
-/
import UfsTools.Common

namespace CLib

/-- Digits that stand for `n`. -/
structure Digits (base : Nat) (digits : Text) (n : Nat) : Prop where
  nonempty : digits ≠ []
  below : ∀ c ∈ digits, digitVal c < base
  value : valueOf base digits = n

/-- A decimal numeral, or a hexadecimal one behind `0x` or `0X`. -/
inductive Unsigned : Text → Nat → Prop
  | decimal {digits : Text} {n : Nat} (hdigits : Digits 10 digits n) :
      Unsigned digits n
  | hex {x : Char} {digits : Text} {n : Nat} (hx : x = 'x' ∨ x = 'X')
      (hdigits : Digits 16 digits n) : Unsigned ('0' :: x :: digits) n

/-- `text` is, as a whole, a numeral for `n`: blanks, a `+` and the rest of it
a numeral without sign. -/
def Denotes (text : Text) (n : Nat) : Prop :=
  ∃ blanks sign body, text = blanks ++ (sign ++ body) ∧
    (∀ c ∈ blanks, isSpace c = true) ∧ (sign = [] ∨ sign = ['+']) ∧
      Unsigned body n

/-- The text has a `0x` or `0X` somewhere. -/
def mentionsHex (text : Text) : Prop :=
  lit "0x" <:+: text ∨ lit "0X" <:+: text

instance (text : Text) : Decidable (mentionsHex text) :=
  inferInstanceAs (Decidable (_ ∨ _))

/-- Sign, magnitude and unread text of the numeral `text` starts with, in the
base the parsers choose for it. -/
def cliNumeral (text : Text) : Option (Bool × Nat × Text) :=
  scanInteger (if mentionsHex text then 0 else 10) text

/-! Characters. -/

theorem digitVal_of_isSpace {c : Char} (h : isSpace c = true) :
    digitVal c = 36 := by
  simp only [isSpace, List.mem_cons, List.not_mem_nil, or_false,
    decide_eq_true_eq] at h
  rcases h with rfl | rfl | rfl | rfl | rfl | rfl <;> decide

/-- A digit is neither a blank nor a sign nor the letter of a prefix. -/
theorem not_isSpace_of_digit {c : Char} (h : digitVal c < 16) :
    isSpace c = false := by
  cases hspace : isSpace c with
  | false => rfl
  | true =>
      rw [digitVal_of_isSpace hspace] at h
      contradiction

theorem splitSign_of_digit {c : Char} (h : digitVal c < 16) (rest : Text) :
    splitSign (c :: rest) = (false, c :: rest) := by
  rw [splitSign]
  · rintro r ⟨rfl, -⟩
    exact absurd h (by decide)
  · rintro r ⟨rfl, -⟩
    exact absurd h (by decide)

theorem splitSign_eq_false {text unsigned : Text}
    (h : splitSign text = (false, unsigned)) :
    ∃ sign, (sign = [] ∨ sign = ['+']) ∧ text = sign ++ unsigned := by
  simp only [splitSign] at h
  split at h
  · simp at h
  · obtain ⟨-, rfl⟩ := Prod.mk.inj h
    exact ⟨['+'], .inr rfl, rfl⟩
  · obtain ⟨-, rfl⟩ := Prod.mk.inj h
    exact ⟨[], .inl rfl, rfl⟩

theorem splitBase_ten (text : Text) : splitBase 10 text = (10, text) := by
  rw [splitBase.eq_def]
  split <;> simp

theorem exists_x_of_mentionsHex {text : Text} (h : mentionsHex text) :
    'x' ∈ text ∨ 'X' ∈ text := by
  rcases h with h | h
  · exact .inl (h.subset (by decide))
  · exact .inr (h.subset (by decide))

/-! Whole numerals. -/

theorem Digits.takeWhile_eq {base : Nat} {digits : Text} {n : Nat}
    (h : Digits base digits n) :
    (digits.takeWhile fun c => decide (digitVal c < base)) = digits :=
  List.takeWhile_eq_self_iff.mpr fun c hc => decide_eq_true (h.below c hc)

/-- Blanks and a `+` do not count. -/
theorem scanInteger_signed {base base' : Nat} {blanks sign body digits : Text}
    {n : Nat} (hblanks : ∀ c ∈ blanks, isSpace c = true)
    (hsign : sign = [] ∨ sign = ['+'])
    (hhead : ∃ c rest, body = c :: rest ∧ digitVal c < 16)
    (hbase : splitBase base body = (base', digits))
    (hdigits : Digits base' digits n) :
    scanInteger base (blanks ++ (sign ++ body)) = some (false, n, []) := by
  obtain ⟨c, rest, rfl, hc⟩ := hhead
  have hspace : (blanks ++ (sign ++ c :: rest)).dropWhile isSpace =
      sign ++ c :: rest := by
    rw [List.dropWhile_append_of_pos hblanks]
    rcases hsign with rfl | rfl
    · simp [not_isSpace_of_digit hc]
    · rfl
  have hunsigned : splitSign (sign ++ c :: rest) = (false, c :: rest) := by
    rcases hsign with rfl | rfl
    · exact splitSign_of_digit hc rest
    · rfl
  rw [scanInteger, hspace]
  simp only [hunsigned, hbase, hdigits.takeWhile_eq, hdigits.nonempty,
    hdigits.value, List.drop_length, if_false]

/-- What a numeral without sign that is read to its end looks like. -/
theorem scanInteger_whole {base : Nat} {text : Text} {n : Nat}
    (h : scanInteger base text = some (false, n, [])) :
    ∃ blanks sign body base' digits, text = blanks ++ (sign ++ body) ∧
      (∀ c ∈ blanks, isSpace c = true) ∧ (sign = [] ∨ sign = ['+']) ∧
        splitBase base body = (base', digits) ∧ Digits base' digits n := by
  rw [scanInteger] at h
  cases hsplit : splitSign (text.dropWhile isSpace) with
  | mk negative unsigned =>
      cases hbase : splitBase base unsigned with
      | mk base' digits =>
          simp only [hsplit, hbase] at h
          split_ifs at h with hnone
          simp only [Option.some.injEq, Prod.mk.injEq] at h
          obtain ⟨rfl, hvalue, hrest⟩ := h
          obtain ⟨sign, hsign, htext⟩ := splitSign_eq_false hsplit
          have hwhole :
              (digits.takeWhile fun c => decide (digitVal c < base')) =
                digits := by
            apply (List.takeWhile_prefix _).eq_of_length
            have hle := List.drop_eq_nil_iff.mp hrest
            have hge := (List.takeWhile_prefix (l := digits)
              fun c => decide (digitVal c < base')).length_le
            omega
          rw [hwhole] at hvalue hnone
          refine ⟨text.takeWhile isSpace, sign, unsigned, base', digits, ?_,
            fun c hc => List.mem_takeWhile_imp hc, hsign, hbase, hnone, ?_,
            hvalue⟩
          · rw [← htext, List.takeWhile_append_dropWhile]
          · intro c hc
            rw [← hwhole] at hc
            have hdigit := List.mem_takeWhile_imp hc
            exact of_decide_eq_true hdigit

theorem Digits.cons {base : Nat} {digits : Text} {n : Nat}
    (h : Digits base digits n) :
    ∃ d rest, digits = d :: rest ∧ digitVal d < base := by
  cases digits with
  | nil => exact absurd rfl h.nonempty
  | cons d rest => exact ⟨d, rest, rfl, h.below d List.mem_cons_self⟩

/-- Digits have no letter of a prefix among them, nor have the blanks and the
sign before them. -/
theorem not_mentionsHex_of_digits {base : Nat} {blanks sign digits : Text}
    {n : Nat} (hbase : base ≤ 16) (hblanks : ∀ c ∈ blanks, isSpace c = true)
    (hsign : sign = [] ∨ sign = ['+']) (hdigits : Digits base digits n) :
    ¬ mentionsHex (blanks ++ (sign ++ digits)) := by
  have hnone : ∀ x, 16 ≤ digitVal x → isSpace x = false → x ≠ '+' →
      x ∉ blanks ++ (sign ++ digits) := by
    intro x hval hspace hplus hmem
    simp only [List.mem_append] at hmem
    rcases hmem with hmem | hmem | hmem
    · rw [hblanks x hmem] at hspace
      contradiction
    · rcases hsign with rfl | rfl
      · contradiction
      · exact hplus (List.mem_singleton.mp hmem)
    · have hlt := hdigits.below x hmem
      omega
  intro h
  rcases exists_x_of_mentionsHex h with hx | hx
  · exact hnone 'x' (by decide) (by decide) (by decide) hx
  · exact hnone 'X' (by decide) (by decide) (by decide) hx

/-- Behind a prefix the digits are hexadecimal; without one they are the whole
text, in octal if it starts with a zero. -/
theorem splitBase_zero_cases {body digits : Text} {base : Nat}
    (h : splitBase 0 body = (base, digits)) :
    (base = 16 ∧ ∃ x, (x = 'x' ∨ x = 'X') ∧ body = '0' :: x :: digits) ∨
      (base ≤ 10 ∧ body = digits) := by
  rw [splitBase.eq_def] at h
  simp only [true_or, true_and, if_true] at h
  split at h
  · split_ifs at h with hprefix
    · obtain ⟨rfl, rfl⟩ := Prod.mk.inj h
      exact .inl ⟨rfl, _, hprefix.1, rfl⟩
    · obtain ⟨rfl, rfl⟩ := Prod.mk.inj h
      exact .inr ⟨by decide, rfl⟩
  · obtain ⟨rfl, rfl⟩ := Prod.mk.inj h
    exact .inr ⟨by decide, rfl⟩
  · obtain ⟨rfl, rfl⟩ := Prod.mk.inj h
    exact .inr ⟨by decide, rfl⟩

theorem mentionsHex_prefix {x : Char} (hx : x = 'x' ∨ x = 'X')
    (left digits : Text) : mentionsHex (left ++ '0' :: x :: digits) := by
  rcases hx with rfl | rfl
  · exact .inl ⟨left, digits, by simp [lit]⟩
  · exact .inr ⟨left, digits, by simp [lit]⟩

/-- A text is a numeral as a whole exactly if the C library reads it to its
end without a sign, in the base the parsers choose. -/
theorem denotes_iff {text : Text} {n : Nat} :
    Denotes text n ↔ cliNumeral text = some (false, n, []) := by
  constructor
  · rintro ⟨blanks, sign, body, rfl, hblanks, hsign, hbody⟩
    cases hbody with
    | decimal hdigits =>
        have hten := not_mentionsHex_of_digits (by decide) hblanks hsign hdigits
        obtain ⟨d, rest, hcons, hd⟩ := hdigits.cons
        rw [cliNumeral, if_neg hten]
        exact scanInteger_signed hblanks hsign ⟨d, rest, hcons, by omega⟩
          (splitBase_ten body) hdigits
    | @hex x digits n hx hdigits =>
        obtain ⟨d, rest, rfl, hd⟩ := hdigits.cons
        have hbase : splitBase 0 ('0' :: x :: d :: rest) =
            (16, d :: rest) := by
          simp [splitBase, hx, hd]
        have hmentions := mentionsHex_prefix hx (blanks ++ sign) (d :: rest)
        rw [List.append_assoc] at hmentions
        rw [cliNumeral, if_pos hmentions]
        exact scanInteger_signed hblanks hsign ⟨'0', _, rfl, by decide⟩ hbase
          hdigits
  · intro h
    rw [cliNumeral] at h
    split_ifs at h with hmentions
    · obtain ⟨blanks, sign, body, base, digits, rfl, hblanks, hsign, hbase,
        hdigits⟩ := scanInteger_whole h
      refine ⟨blanks, sign, body, rfl, hblanks, hsign, ?_⟩
      rcases splitBase_zero_cases hbase with ⟨rfl, x, hx, rfl⟩ | ⟨hle, rfl⟩
      · exact .hex hx hdigits
      · exact absurd hmentions
          (not_mentionsHex_of_digits (by omega) hblanks hsign hdigits)
    · obtain ⟨blanks, sign, body, base, digits, rfl, hblanks, hsign, hbase,
        hdigits⟩ := scanInteger_whole h
      rw [splitBase_ten] at hbase
      obtain ⟨rfl, rfl⟩ := Prod.mk.inj hbase
      exact ⟨blanks, sign, body, rfl, hblanks, hsign, .decimal hdigits⟩

theorem splitBase_zero_head {base base' : Nat} {rest digits : Text}
    (hbase : base = 0 ∨ base = 10)
    (h : splitBase base ('0' :: rest) = (base', digits)) :
    ∃ d tail, digits = d :: tail ∧ digitVal d < base' := by
  rcases hbase with rfl | rfl
  · cases rest with
    | nil =>
        obtain ⟨rfl, rfl⟩ := Prod.mk.inj h
        exact ⟨_, _, rfl, by decide⟩
    | cons x tail =>
        cases tail with
        | nil =>
            obtain ⟨rfl, rfl⟩ := Prod.mk.inj h
            exact ⟨_, _, rfl, by decide⟩
        | cons d tail =>
            simp only [splitBase, true_or, true_and, if_true] at h
            split_ifs at h with hprefix
            · obtain ⟨rfl, rfl⟩ := Prod.mk.inj h
              exact ⟨_, _, rfl, hprefix.2⟩
            · obtain ⟨rfl, rfl⟩ := Prod.mk.inj h
              exact ⟨_, _, rfl, by decide⟩
  · rw [splitBase_ten] at h
    obtain ⟨rfl, rfl⟩ := Prod.mk.inj h
    exact ⟨_, _, rfl, by decide⟩

/-- A text that starts with a zero starts with a numeral without sign. -/
theorem cliNumeral_zero {text : Text} (hzero : text.head? = some '0') :
    ∃ n rest, cliNumeral text = some (false, n, rest) := by
  obtain ⟨tail, rfl⟩ : ∃ tail, text = '0' :: tail := by
    cases text with
    | nil => contradiction
    | cons c tail => exact ⟨tail, by rw [Option.some.inj hzero]⟩
  have hspace : ('0' :: tail).dropWhile isSpace = '0' :: tail := rfl
  have hsign : splitSign ('0' :: tail) = (false, '0' :: tail) := rfl
  have hchosen : (if mentionsHex ('0' :: tail) then 0 else 10) = 0 ∨
      (if mentionsHex ('0' :: tail) then 0 else 10) = 10 := by
    split_ifs
    · exact .inl rfl
    · exact .inr rfl
  rw [cliNumeral]
  generalize (if mentionsHex ('0' :: tail) then 0 else 10) = base at *
  cases hbase : splitBase base ('0' :: tail) with
  | mk base' digits =>
      obtain ⟨d, rest, rfl, hd⟩ := splitBase_zero_head hchosen hbase
      rw [scanInteger, hspace]
      simp only [hsign, hbase, List.takeWhile_cons, decide_eq_true hd,
        if_true, reduceCtorEq, if_false]
      exact ⟨_, _, rfl⟩

end CLib

namespace UfsTools

open CLib

/-- The magnitude with its sign. -/
def withSign (negative : Bool) (magnitude : Nat) : Int :=
  if negative then -magnitude else magnitude

/-- What `strtol` returns for it. -/
def longOf (negative : Bool) (magnitude : Nat) : Int :=
  max (-2 ^ 63) (min (withSign negative magnitude) (2 ^ 63 - 1))

/-- What `get_ull_from_cli` stores for it. -/
def ullOf (hex negative : Bool) (magnitude : Nat) : UInt64 :=
  if hex then
    UInt64.ofNat (if 2 ^ 64 ≤ magnitude then 2 ^ 64 - 1
      else if negative then (2 ^ 64 - magnitude) % 2 ^ 64 else magnitude)
  else UInt64.ofInt (longOf negative magnitude)

theorem mentionsHex_ne_nil {text : Text} (h : mentionsHex text) :
    text ≠ [] := by
  rintro rfl
  exact absurd h (by decide)

theorem strtol_of_some {base magnitude : Nat} {text rest : Text}
    {negative : Bool}
    (h : scanInteger base text = some (negative, magnitude, rest)) :
    strtol base text = (longOf negative magnitude, rest) := by
  rw [strtol, h]
  rfl

theorem strtol_of_none {base : Nat} {text : Text}
    (h : scanInteger base text = none) : strtol base text = (0, text) := by
  rw [strtol, h]

theorem convertCli_hex {text : Text} (h : mentionsHex text) :
    convertCli text = if (strtol 0 text).2 ≠ [] then none
      else some (toInt (strtol 0 text).1) :=
  if_pos h

theorem convertCli_decimal {text : Text} (h : ¬ mentionsHex text) :
    convertCli text = some (toInt (strtol 10 text).1) :=
  if_neg h

/-- The conversion takes a numeral in front of the text, one that is not the
whole of it only without a prefix; without any numeral it gives zero. -/
theorem convertCli_eq_some_iff {text : Text} {v : Int} :
    convertCli text = some v ↔
      (∃ negative magnitude rest,
        cliNumeral text = some (negative, magnitude, rest) ∧
          (mentionsHex text → rest = []) ∧
            v = toInt (longOf negative magnitude)) ∨
      cliNumeral text = none ∧ ¬ mentionsHex text ∧ v = 0 := by
  by_cases hhex : mentionsHex text
  · rw [convertCli_hex hhex, cliNumeral, if_pos hhex]
    cases hscan : scanInteger 0 text with
    | none =>
        rw [strtol_of_none hscan, if_pos (mentionsHex_ne_nil hhex)]
        simp [hhex]
    | some found =>
        obtain ⟨negative, magnitude, rest⟩ := found
        rw [strtol_of_some hscan]
        simp only [hhex, ne_eq, ite_not, Option.ite_none_right_eq_some,
          Option.some.injEq, Prod.mk.injEq, reduceCtorEq, false_and, or_false,
          forall_const]
        constructor
        · rintro ⟨hrest, rfl⟩
          exact ⟨_, _, _, ⟨rfl, rfl, rfl⟩, hrest, rfl⟩
        · rintro ⟨_, _, _, ⟨rfl, rfl, rfl⟩, hrest, rfl⟩
          exact ⟨hrest, rfl⟩
  · rw [convertCli_decimal hhex, cliNumeral, if_neg hhex]
    cases hscan : scanInteger 10 text with
    | none =>
        have hzero : toInt 0 = 0 := by decide
        rw [strtol_of_none hscan]
        simp [hhex, hzero, eq_comm]
    | some found =>
        obtain ⟨negative, magnitude, rest⟩ := found
        rw [strtol_of_some hscan]
        simp only [hhex, Option.some.injEq, Prod.mk.injEq, reduceCtorEq,
          false_and, or_false, false_imp_iff, true_and]
        constructor
        · rintro rfl
          exact ⟨_, _, _, ⟨rfl, rfl, rfl⟩, rfl⟩
        · rintro ⟨_, _, _, ⟨rfl, rfl, rfl⟩, rfl⟩
          rfl

theorem getValueFromCli_eq_some_iff {text : Text} {v : Int} :
    getValueFromCli text = some v ↔
      ∃ negative magnitude rest,
        cliNumeral text = some (negative, magnitude, rest) ∧
          (mentionsHex text → rest = []) ∧
            v = toInt (longOf negative magnitude) ∧ 0 ≤ v ∧
              (v = 0 → text.head? = some '0') := by
  have hkept : getValueFromCli text = some v ↔
      convertCli text = some v ∧ 0 ≤ v ∧ (v = 0 → text.head? = some '0') := by
    rw [getValueFromCli]
    cases convertCli text with
    | none => simp
    | some w =>
        simp only [spuriousZero, decide_eq_true_eq, Option.ite_none_left_eq_some,
          Option.some.injEq, not_or, not_and, not_not, not_lt]
        constructor
        · rintro ⟨⟨hzero, hpos⟩, rfl⟩
          exact ⟨rfl, hpos, hzero⟩
        · rintro ⟨rfl, hpos, hzero⟩
          exact ⟨⟨hzero, hpos⟩, rfl⟩
  rw [hkept, convertCli_eq_some_iff]
  constructor
  · rintro ⟨⟨negative, magnitude, rest, hnum, hrest, hv⟩ | ⟨hnone, -, rfl⟩,
      hpos, hzero⟩
    · exact ⟨negative, magnitude, rest, hnum, hrest, hv, hpos, hzero⟩
    · obtain ⟨n, rest, hsome⟩ := cliNumeral_zero (hzero rfl)
      rw [hnone] at hsome
      contradiction
  · rintro ⟨negative, magnitude, rest, hnum, hrest, hv, hpos, hzero⟩
    exact ⟨.inl ⟨negative, magnitude, rest, hnum, hrest, hv⟩, hpos, hzero⟩

theorem strtoull_of_some {base magnitude : Nat} {text rest : Text}
    {negative : Bool}
    (h : scanInteger base text = some (negative, magnitude, rest)) :
    strtoull base text = ((ullOf true negative magnitude).toNat, rest) := by
  rw [strtoull, h]
  simp only [ullOf, if_true, UInt64.toNat_ofNat']
  split_ifs with hlarge hneg
  · rfl
  · rw [Nat.mod_mod]
  · rw [Nat.mod_eq_of_lt (not_le.mp hlarge)]

theorem strtoull_of_none {base : Nat} {text : Text}
    (h : scanInteger base text = none) : strtoull base text = (0, text) := by
  rw [strtoull, h]

theorem getUllFromCli_hex {text : Text} (h : mentionsHex text) :
    getUllFromCli text = if (strtoull 0 text).2 ≠ [] then none
      else if spuriousZero (strtoull 0 text).1 text then none
      else some (UInt64.ofNat (strtoull 0 text).1) :=
  if_pos h

theorem getUllFromCli_decimal {text : Text} (h : ¬ mentionsHex text) :
    getUllFromCli text =
      if spuriousZero (UInt64.ofInt (strtol 10 text).1).toNat text then none
      else some (UInt64.ofInt (strtol 10 text).1) :=
  if_neg h

theorem keepNonzero_eq_some_iff {text : Text} {v w : UInt64} :
    (if spuriousZero w.toNat text then none else some w) = some v ↔
      v = w ∧ (v = 0 → text.head? = some '0') := by
  have hzero : ((w.toNat : Int) = 0) ↔ w = 0 := by
    rw [Nat.cast_eq_zero, ← UInt64.toNat_inj]
    rfl
  simp only [spuriousZero, hzero, decide_eq_true_eq,
    Option.ite_none_left_eq_some, Option.some.injEq, not_and, not_not]
  constructor
  · rintro ⟨hkeep, rfl⟩
    exact ⟨rfl, hkeep⟩
  · rintro ⟨rfl, hkeep⟩
    exact ⟨hkeep, rfl⟩

theorem getUllFromCli_eq_some_iff {text : Text} {v : UInt64} :
    getUllFromCli text = some v ↔
      ∃ negative magnitude rest,
        cliNumeral text = some (negative, magnitude, rest) ∧
          (mentionsHex text → rest = []) ∧
            v = ullOf (decide (mentionsHex text)) negative magnitude ∧
              (v = 0 → text.head? = some '0') := by
  have hnonzero : cliNumeral text = none → text.head? ≠ some '0' := by
    intro hnone hzero
    obtain ⟨n, rest, hsome⟩ := cliNumeral_zero hzero
    rw [hnone] at hsome
    contradiction
  by_cases hhex : mentionsHex text
  · rw [getUllFromCli_hex hhex]
    rw [cliNumeral, if_pos hhex] at hnonzero ⊢
    cases hscan : scanInteger 0 text with
    | none =>
        rw [strtoull_of_none hscan, if_pos (mentionsHex_ne_nil hhex)]
        simp
    | some found =>
        obtain ⟨negative, magnitude, rest⟩ := found
        rw [strtoull_of_some hscan, UInt64.ofNat_toNat]
        simp only [hhex, decide_true, Option.some.injEq, Prod.mk.injEq,
          forall_const]
        constructor
        · intro h
          split_ifs at h with hrest hspurious
          have hkeep := keepNonzero_eq_some_iff.mp
            ((if_neg hspurious).trans h)
          exact ⟨_, _, _, ⟨rfl, rfl, rfl⟩, not_not.mp hrest, hkeep⟩
        · rintro ⟨_, _, _, ⟨rfl, rfl, rfl⟩, rfl, hkeep⟩
          rw [if_neg (not_not.mpr rfl)]
          exact keepNonzero_eq_some_iff.mpr hkeep
  · rw [getUllFromCli_decimal hhex, keepNonzero_eq_some_iff]
    rw [cliNumeral, if_neg hhex] at hnonzero ⊢
    cases hscan : scanInteger 10 text with
    | none =>
        rw [strtol_of_none hscan]
        simp only [reduceCtorEq, false_and, exists_false, iff_false, not_and]
        rintro rfl hzero
        exact hnonzero hscan (hzero rfl)
    | some found =>
        obtain ⟨negative, magnitude, rest⟩ := found
        rw [strtol_of_some hscan]
        simp only [hhex, decide_false, Option.some.injEq, Prod.mk.injEq,
          false_imp_iff, true_and]
        constructor
        · rintro ⟨rfl, hkeep⟩
          exact ⟨_, _, _, ⟨rfl, rfl, rfl⟩, rfl, hkeep⟩
        · rintro ⟨_, _, _, ⟨rfl, rfl, rfl⟩, rfl, hkeep⟩
          exact ⟨rfl, hkeep⟩

/-! Written hexadecimal numerals. -/

theorem cliNumeral_hex (n : Nat) :
    cliNumeral (lit "0x" ++ showHex n) = some (false, n, []) := by
  have hmentions : mentionsHex (lit "0x" ++ showHex n) :=
    .inl (List.prefix_append _ _).isInfix
  rw [cliNumeral, if_pos hmentions]
  exact scanInteger_hex n

/-- From bit 31 on a 32-bit value is no `int`. -/
theorem getValueFromCli_hex_large {n : Nat} (hlow : 2 ^ 31 ≤ n)
    (hhigh : n < 2 ^ 32) : getValueFromCli (lit "0x" ++ showHex n) = none := by
  rw [Option.eq_none_iff_forall_ne_some]
  intro v haccepted
  obtain ⟨negative, magnitude, rest, hnum, -, rfl, hpos, -⟩ :=
    getValueFromCli_eq_some_iff.mp haccepted
  rw [cliNumeral_hex] at hnum
  simp only [Option.some.injEq, Prod.mk.injEq] at hnum
  obtain ⟨rfl, rfl, rfl⟩ := hnum
  simp only [longOf, withSign, toInt, Bool.false_eq_true, if_false] at hpos
  omega

theorem getUllFromCli_hex_numeral {n : Nat} (h : n < 2 ^ 64) :
    getUllFromCli (lit "0x" ++ showHex n) = some (UInt64.ofNat n) := by
  have hmentions : mentionsHex (lit "0x" ++ showHex n) :=
    .inl (List.prefix_append _ _).isInfix
  refine getUllFromCli_eq_some_iff.mpr
    ⟨false, n, [], cliNumeral_hex n, fun _ => rfl, ?_, fun _ => rfl⟩
  simp only [hmentions, decide_true, ullOf, if_true, if_neg (not_le.mpr h),
    Bool.false_eq_true, if_false]

/-! Sound and misread numerals. -/

/-- What `get_value_from_cli` accepts is a numeral for its result. -/
def ValueSound (text : Text) : Prop :=
  ∀ v, getValueFromCli text = some v →
    ∃ n : Nat, Denotes text n ∧ v = n ∧ v ≤ intMax

/-- What `get_ull_from_cli` accepts is a numeral for its result. -/
def UllSound (text : Text) : Prop :=
  ∀ v, getUllFromCli text = some v → Denotes text v.toNat

/-- A numeral that is no sound input: more text, a sign or too large a
magnitude.  Only with a prefix does the code look behind the numeral. -/
structure Unsound (text : Text) (limit : Nat) (negative : Bool)
    (magnitude : Nat) (rest : Text) : Prop where
  unseen : mentionsHex text → rest = []
  unsound : rest ≠ [] ∨ negative = true ∨ limit ≤ magnitude

/-- Unsound, and what is left of its value in 32 bits passes as positive or as
a zero that was typed. -/
def MisreadValue (text : Text) : Prop :=
  ∃ negative magnitude rest,
    cliNumeral text = some (negative, magnitude, rest) ∧
      Unsound text (2 ^ 31) negative magnitude rest ∧ magnitude < 2 ^ 63 ∧
        withSign negative magnitude % 2 ^ 32 < 2 ^ 31 ∧
          (withSign negative magnitude % 2 ^ 32 = 0 →
            text.head? = some '0')

/-- Unsound, and not a zero that was not typed. -/
def MisreadUll (text : Text) : Prop :=
  ∃ negative magnitude rest,
    cliNumeral text = some (negative, magnitude, rest) ∧
      Unsound text (if mentionsHex text then 2 ^ 64 else 2 ^ 63) negative
        magnitude rest ∧
        (magnitude = 0 → text.head? = some '0')

/-- A negative numeral does not start with a zero. -/
theorem head_ne_zero_of_negative {text rest : Text} {magnitude : Nat}
    (h : cliNumeral text = some (true, magnitude, rest)) :
    text.head? ≠ some '0' := by
  intro hzero
  obtain ⟨n, rest', hsome⟩ := cliNumeral_zero hzero
  rw [h] at hsome
  simp at hsome

/-- `long` to `int`, where no saturation is in between. -/
theorem toInt_longOf {negative : Bool} {magnitude : Nat}
    (h : magnitude < 2 ^ 63) :
    toInt (longOf negative magnitude) = toInt (withSign negative magnitude) := by
  congr 1
  simp only [longOf, withSign]
  split <;> omega

theorem toInt_nonneg_iff (x : Int) : 0 ≤ toInt x ↔ x % 2 ^ 32 < 2 ^ 31 := by
  simp only [toInt]
  omega

theorem toInt_of_nonneg {x : Int} (h : 0 ≤ toInt x) :
    toInt x = x % 2 ^ 32 := by
  simp only [toInt] at *
  omega

/-- Saturated values of a `long` are no values of an `int`. -/
theorem toInt_longOf_saturated {negative : Bool} {magnitude : Nat}
    (h : 2 ^ 63 ≤ magnitude) :
    toInt (longOf negative magnitude) = if negative then 0 else -1 := by
  simp only [longOf, withSign, toInt]
  split <;> omega

theorem valueSound_iff (text : Text) :
    ValueSound text ↔ ¬ MisreadValue text := by
  constructor
  · rintro hsound ⟨negative, magnitude, rest, hnum, ⟨hseen, hunsound⟩, hlong,
      hlow, hzero⟩
    have hresult : 0 ≤ toInt (withSign negative magnitude) :=
      (toInt_nonneg_iff _).mpr hlow
    have haccepted : getValueFromCli text =
        some (toInt (longOf negative magnitude)) := by
      refine getValueFromCli_eq_some_iff.mpr
        ⟨negative, magnitude, rest, hnum, hseen, rfl, ?_⟩
      rw [toInt_longOf hlong]
      exact ⟨hresult, fun h => hzero ((toInt_of_nonneg hresult).symm.trans h)⟩
    obtain ⟨n, hdenotes, hvalue, hle⟩ := hsound _ haccepted
    rw [denotes_iff, hnum] at hdenotes
    simp only [Option.some.injEq, Prod.mk.injEq] at hdenotes
    obtain ⟨rfl, rfl, rfl⟩ := hdenotes
    have hlarge : 2 ^ 31 ≤ magnitude := by simpa using hunsound
    have hmax : intMax = 2147483647 := rfl
    omega
  · intro hread v haccepted
    obtain ⟨negative, magnitude, rest, hnum, hseen, rfl, hpos, hzero⟩ :=
      getValueFromCli_eq_some_iff.mp haccepted
    have hlong : magnitude < 2 ^ 63 := by
      by_contra hge
      rw [toInt_longOf_saturated (not_lt.mp hge)] at hpos hzero
      cases negative with
      | true => exact head_ne_zero_of_negative hnum (hzero rfl)
      | false => exact absurd hpos (by decide)
    rw [toInt_longOf hlong] at hpos hzero ⊢
    have hvalue := toInt_of_nonneg hpos
    by_cases hunsound : rest ≠ [] ∨ negative = true ∨ 2 ^ 31 ≤ magnitude
    · refine absurd ⟨negative, magnitude, rest, hnum, ⟨hseen, hunsound⟩,
        hlong, (toInt_nonneg_iff _).mp hpos, ?_⟩ hread
      exact fun h => hzero (hvalue.trans h)
    · simp only [ne_eq, not_or, not_not, Bool.not_eq_true, not_le] at hunsound
      obtain ⟨rfl, rfl, hsmall⟩ := hunsound
      refine ⟨magnitude, denotes_iff.mpr hnum, ?_, toInt_le _⟩
      simp only [withSign, Bool.false_eq_true, if_false] at hvalue ⊢
      omega

theorem ullOf_eq_zero_iff (hex negative : Bool) (magnitude : Nat) :
    ullOf hex negative magnitude = 0 ↔ magnitude = 0 := by
  have hzero : (0 : UInt64).toNat = 0 := rfl
  rw [← UInt64.toNat_inj, hzero]
  cases hex with
  | true =>
      simp only [ullOf, if_true, UInt64.toNat_ofNat']
      split_ifs with hlarge hneg
      · refine iff_of_false (by decide) (by omega)
      · omega
      · omega
  | false =>
      simp only [ullOf, Bool.false_eq_true, if_false, longOf, withSign,
        UInt64.ofInt, UInt64.toNat_ofNat']
      split <;> omega

/-- A numeral below the limit of its base is stored as it is. -/
theorem toNat_ullOf {text : Text} {magnitude : Nat}
    (h : magnitude < if mentionsHex text then 2 ^ 64 else 2 ^ 63) :
    (ullOf (decide (mentionsHex text)) false magnitude).toNat = magnitude := by
  split_ifs at h with hhex
  · simp only [hhex, decide_true, ullOf, if_true, UInt64.toNat_ofNat',
      Bool.false_eq_true, if_false]
    split_ifs <;> omega
  · simp only [hhex, decide_false, ullOf, longOf, withSign, UInt64.ofInt,
      UInt64.toNat_ofNat', Bool.false_eq_true, if_false]
    omega

/-- One from the limit on is stored as a smaller one. -/
theorem toNat_ullOf_lt {text : Text} {magnitude : Nat}
    (h : (if mentionsHex text then 2 ^ 64 else 2 ^ 63) ≤ magnitude) :
    (ullOf (decide (mentionsHex text)) false magnitude).toNat <
      magnitude := by
  split_ifs at h with hhex
  · exact (UInt64.toNat_lt _).trans_le h
  · simp only [hhex, decide_false, ullOf, longOf, withSign, UInt64.ofInt,
      UInt64.toNat_ofNat', Bool.false_eq_true, if_false]
    omega

theorem ullSound_iff (text : Text) : UllSound text ↔ ¬ MisreadUll text := by
  constructor
  · rintro hsound ⟨negative, magnitude, rest, hnum, ⟨hseen, hunsound⟩, hzero⟩
    have hdenotes := hsound _ (getUllFromCli_eq_some_iff.mpr
      ⟨negative, magnitude, rest, hnum, hseen, rfl,
        fun h => hzero ((ullOf_eq_zero_iff _ _ _).mp h)⟩)
    rw [denotes_iff, hnum] at hdenotes
    simp only [Option.some.injEq, Prod.mk.injEq] at hdenotes
    obtain ⟨rfl, hvalue, rfl⟩ := hdenotes
    have hlarge : (if mentionsHex text then 2 ^ 64 else 2 ^ 63) ≤ magnitude :=
      by simpa using hunsound
    have hlt := toNat_ullOf_lt hlarge
    omega
  · intro hread v haccepted
    obtain ⟨negative, magnitude, rest, hnum, hseen, rfl, hzero⟩ :=
      getUllFromCli_eq_some_iff.mp haccepted
    by_cases hunsound : rest ≠ [] ∨ negative = true ∨
        (if mentionsHex text then 2 ^ 64 else 2 ^ 63) ≤ magnitude
    · refine absurd ⟨negative, magnitude, rest, hnum, ⟨hseen, hunsound⟩, ?_⟩
        hread
      exact fun h => hzero ((ullOf_eq_zero_iff _ _ _).mpr h)
    · simp only [ne_eq, not_or, not_not, Bool.not_eq_true, not_le] at hunsound
      obtain ⟨rfl, rfl, hsmall⟩ := hunsound
      rw [toNat_ullOf hsmall]
      exact denotes_iff.mpr hnum

/-- Either parser is sound on a text if and only if it does not misread the
numeral the text starts with. -/
theorem cliNumerals_sound_iff (text : Text) :
    (ValueSound text ↔ ¬ MisreadValue text) ∧
      (UllSound text ↔ ¬ MisreadUll text) :=
  ⟨valueSound_iff text, ullSound_iff text⟩

/-- The text behind a decimal numeral is not looked at. -/
theorem trailing_garbage_accepted :
    ¬ ∀ text : Text, ValueSound text ∧ UllSound text := by
  intro h
  obtain ⟨n, hdenotes, -⟩ := (h (lit "12abc")).1 12 (by decide +kernel)
  rw [denotes_iff] at hdenotes
  have hread : cliNumeral (lit "12abc") = some (false, 12, lit "abc") := by
    decide +kernel
  rw [hread] at hdenotes
  simp only [Option.some.injEq, Prod.mk.injEq] at hdenotes
  exact absurd hdenotes.2.2 (by decide)

end UfsTools
