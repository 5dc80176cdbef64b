/-
Arithmetic that rounds: a number format holds some of the rational numbers,
and the result of every operation is rounded to one of these.
-/
import Mathlib

/-- A format of numbers that can hold small halves as they are and is right up
to a factor of two around one.  Exact arithmetic is one of them. -/
class NumberFormat (R : Type*) where
  /-- The rational number that is meant. -/
  val : R → Rat
  round : Rat → R
  /-- The number is too large for the format. -/
  overflows : Rat → Bool
  val_half : ∀ n : Int, |n| ≤ 2 ^ 52 → val (round (n / 2)) = n / 2
  val_near : ∀ q : Rat, 1 / 2 ^ 64 ≤ q → q ≤ 2 ^ 64 →
    q / 2 ≤ val (round q) ∧ val (round q) ≤ 2 * q
  fits : ∀ q : Rat, |q| ≤ 2 ^ 64 → overflows q = false

namespace NumberFormat

/-- The nearest integer, and of two the even one. -/
def roundEven (x : Rat) : Int :=
  if x - ⌊x⌋ < 1 / 2 then ⌊x⌋
  else if x - ⌊x⌋ > 1 / 2 then ⌊x⌋ + 1
  else if ⌊x⌋ % 2 = 0 then ⌊x⌋
  else ⌊x⌋ + 1

@[simp]
theorem roundEven_intCast (n : Int) : roundEven n = n := by
  norm_num [roundEven]

theorem abs_roundEven_sub (x : Rat) : |roundEven x - x| ≤ 1 / 2 := by
  have hlo := Int.floor_le x
  have hhi := Int.lt_floor_add_one x
  rw [roundEven, abs_le]
  split_ifs
  · constructor <;> linarith
  · push_cast
    constructor <;> linarith
  · constructor <;> linarith
  · push_cast
    constructor <;> linarith

section Operations

variable {R : Type*} [NumberFormat R]

/-! The operations. -/

def add (x y : R) : R := round (val x + val y)

def sub (x y : R) : R := round (val x - val y)

def mul (x y : R) : R := round (val x * val y)

def div (x y : R) : R := round (val x / val y)

def abs (x : R) : R := round |val x|

/-- Rounded to so many decimal places first, and then to the format. -/
def roundTo (digits : Nat) (x : R) : R :=
  round (roundEven (val x * 10 ^ digits) / 10 ^ digits)

/-! What the laws of a format say of them. -/

theorem val_int {n : Int} (h : |n| ≤ 2 ^ 51) : val (round n : R) = n := by
  have hdouble : |2 * n| ≤ 2 ^ 52 := by
    rw [abs_mul, abs_two]
    omega
  have hhalf := val_half (R := R) (2 * n) hdouble
  have hcast : ((2 * n : Int) : Rat) / 2 = n := by
    push_cast
    ring
  rwa [hcast] at hhalf

@[simp]
theorem val_zero : val (round 0 : R) = 0 := by
  exact_mod_cast val_int (R := R) (n := 0) (by norm_num)

/-- A number around one is not rounded to zero. -/
theorem val_pos {q : Rat} (hlo : 1 / 2 ^ 64 ≤ q) (hhi : q ≤ 2 ^ 64) :
    0 < val (round q : R) := by
  have hq : 0 < q := lt_of_lt_of_le (by norm_num) hlo
  have hnear := (val_near (R := R) q hlo hhi).1
  linarith

theorem roundTo_zero {digits : Nat} {x : R} (h : val x = 0) :
    val (roundTo digits x) = 0 := by
  have hzero : roundEven 0 = 0 := by exact_mod_cast roundEven_intCast 0
  rw [roundTo, h, zero_mul, hzero, Int.cast_zero, zero_div, val_zero]

end Operations

theorem near_self {q : Rat} (h : 1 / 2 ^ 64 ≤ q) : q / 2 ≤ q ∧ q ≤ 2 * q := by
  have hq : 0 < q := lt_of_lt_of_le (by norm_num) h
  constructor <;> linarith

/-- Exact arithmetic. -/
instance exact : NumberFormat Rat where
  val x := x
  round x := x
  overflows _ := false
  val_half _ _ := rfl
  val_near _ h _ := near_self h
  fits _ _ := rfl

end NumberFormat
