/-
The floating-point numbers of 64 bits: 53 significant bits, a least place and
a greatest number, and rounding to the nearest.
-/
import UfsTools.NumberFormat

namespace Binary64

open NumberFormat

/-- The place of the last bit that is kept next to `q`. -/
def lastPlace (q : Rat) : Int := max (Int.log 2 |q| - 52) (-1074)

/-- The nearest number with 53 significant bits, however large. -/
def nearest (q : Rat) : Rat :=
  roundEven (q / 2 ^ lastPlace q) * 2 ^ lastPlace q

/-- No number is as large, and it stands for infinity. -/
def infinity : Rat := 2 ^ 1024

/-- The number a result is rounded to, or infinity with its sign. -/
def toDouble (q : Rat) : Rat :=
  if infinity ≤ nearest q then infinity
  else if nearest q ≤ -infinity then -infinity
  else nearest q

theorem place_pos (q : Rat) : (0 : Rat) < 2 ^ lastPlace q := by positivity

theorem abs_nearest_sub (q : Rat) :
    |nearest q - q| ≤ 2 ^ lastPlace q / 2 := by
  have hplace := place_pos q
  have herror := abs_roundEven_sub (q / 2 ^ lastPlace q)
  have hscaled : nearest q - q =
      (roundEven (q / 2 ^ lastPlace q) - q / 2 ^ lastPlace q) *
        2 ^ lastPlace q := by
    rw [nearest, sub_mul, div_mul_cancel₀ _ hplace.ne']
  rw [hscaled, abs_mul, abs_of_pos hplace]
  calc |(roundEven (q / 2 ^ lastPlace q) : Rat) - q / 2 ^ lastPlace q| *
        2 ^ lastPlace q ≤ 1 / 2 * 2 ^ lastPlace q :=
        mul_le_mul_of_nonneg_right herror hplace.le
    _ = 2 ^ lastPlace q / 2 := by ring

/-- A whole number of last places is kept. -/
theorem nearest_of_places {q : Rat} {n k : Int} (hq : q = n * 2 ^ k)
    (hplace : lastPlace q ≤ k) : nearest q = q := by
  obtain ⟨j, hj⟩ := Int.le.dest hplace
  have hwhole : q / 2 ^ lastPlace q = ((n * 2 ^ j : Int) : Rat) := by
    rw [div_eq_iff (place_pos q).ne']
    calc q = n * 2 ^ k := hq
      _ = n * (2 ^ j * 2 ^ lastPlace q) := by
          rw [← hj, add_comm, zpow_add₀ two_ne_zero, zpow_natCast]
      _ = ((n * 2 ^ j : Int) : Rat) * 2 ^ lastPlace q := by
          push_cast
          ring
  rw [nearest, hwhole, roundEven_intCast, ← hwhole,
    div_mul_cancel₀ _ (place_pos q).ne']

/-- A number below `2 ^ e` has its last place 53 bits further down. -/
theorem lastPlace_le {q : Rat} {e : Int} (hq : q ≠ 0) (h : |q| < 2 ^ e)
    (hleast : -1021 ≤ e) : lastPlace q ≤ e - 53 := by
  have hlog : Int.log 2 |q| < e :=
    (Int.lt_zpow_iff_log_lt one_lt_two (abs_pos.mpr hq)).mp
      (by exact_mod_cast h)
  rw [lastPlace]
  omega

theorem abs_lt_places (q : Rat) : |q| < 2 ^ (lastPlace q + 53) := by
  have hlog := Int.lt_zpow_succ_log_self one_lt_two |q|
  refine lt_of_lt_of_le (by exact_mod_cast hlog)
    (zpow_le_zpow_right₀ one_le_two ?_)
  rw [lastPlace]
  omega

/-- Numbers of 53 bits are kept. -/
theorem nearest_of_bits {n k : Int} (hn : |n| ≤ 2 ^ 53) (hk : -1074 ≤ k) :
    nearest (n * 2 ^ k) = n * 2 ^ k := by
  have hscale : (0 : Rat) < 2 ^ k := by positivity
  have habs : |(n : Rat) * 2 ^ k| = |n| * 2 ^ k := by
    rw [abs_mul, abs_of_pos hscale, Int.cast_abs]
  rcases eq_or_ne n 0 with rfl | hne
  · apply nearest_of_places (n := 0) (k := lastPlace _) _ le_rfl
    simp
  · have hnonzero : (n : Rat) * 2 ^ k ≠ 0 :=
      mul_ne_zero (Int.cast_ne_zero.mpr hne) hscale.ne'
    rcases hn.lt_or_eq with hlt | heq
    · apply nearest_of_places rfl
      have hbound : |(n : Rat) * 2 ^ k| < 2 ^ (k + 53) := by
        rw [habs, add_comm, zpow_add₀ two_ne_zero]
        apply mul_lt_mul_of_pos_right _ hscale
        exact_mod_cast hlt
      have hlast := lastPlace_le hnonzero hbound (by omega)
      omega
    · -- The one number of 54 bits: half of it is counted in doubled places.
      have heven : n = 2 * (n / 2) := by
        rcases (abs_eq (by norm_num)).mp heq with rfl | rfl <;> norm_num
      apply nearest_of_places (n := n / 2) (k := k + 1)
      · rw [zpow_add_one₀ two_ne_zero]
        conv_lhs => rw [heven]
        push_cast
        ring
      · have hbound : |(n : Rat) * 2 ^ k| < 2 ^ (k + 54) := by
          rw [habs, heq, add_comm, zpow_add₀ two_ne_zero]
          apply mul_lt_mul_of_pos_right _ hscale
          norm_num
        have hlast := lastPlace_le hnonzero hbound (by omega)
        omega

theorem abs_bits_le (q : Rat) : |roundEven (q / 2 ^ lastPlace q)| ≤ 2 ^ 53 := by
  have hplace := place_pos q
  have herror := abs_roundEven_sub (q / 2 ^ lastPlace q)
  have hbits : |q / 2 ^ lastPlace q| < 2 ^ 53 := by
    rw [abs_div, abs_of_pos hplace, div_lt_iff₀ hplace, ← zpow_natCast,
      ← zpow_add₀ two_ne_zero, add_comm]
    exact abs_lt_places q
  rw [abs_le] at herror
  rw [abs_lt] at hbits
  have hlo : (-2 ^ 53 - 1 : Rat) < roundEven (q / 2 ^ lastPlace q) := by
    linarith
  have hhi : (roundEven (q / 2 ^ lastPlace q) : Rat) < 2 ^ 53 + 1 := by
    linarith
  have hlo' : (-2 ^ 53 - 1 : Int) < roundEven (q / 2 ^ lastPlace q) := by
    exact_mod_cast hlo
  have hhi' : roundEven (q / 2 ^ lastPlace q) < 2 ^ 53 + 1 := by
    exact_mod_cast hhi
  rw [abs_le]
  omega

/-- What is rounded once is not rounded again. -/
theorem nearest_nearest (q : Rat) : nearest (nearest q) = nearest q :=
  nearest_of_bits (abs_bits_le q) (le_max_right _ _)

theorem nearest_infinity : nearest infinity = infinity := by
  have hbits : infinity = ((1 : Int) : Rat) * 2 ^ (1024 : Int) := by
    norm_num [infinity]
  rw [hbits]
  exact nearest_of_bits (by norm_num) (by norm_num)

theorem nearest_neg_infinity : nearest (-infinity) = -infinity := by
  have hbits : -infinity = ((-1 : Int) : Rat) * 2 ^ (1024 : Int) := by
    norm_num [infinity]
  rw [hbits]
  exact nearest_of_bits (by norm_num) (by norm_num)

theorem toDouble_toDouble (q : Rat) : toDouble (toDouble q) = toDouble q := by
  have hpos : (0 : Rat) < infinity := by norm_num [infinity]
  by_cases hhigh : infinity ≤ nearest q
  · have hq : toDouble q = infinity := if_pos hhigh
    rw [hq, toDouble, nearest_infinity, if_pos le_rfl]
  · by_cases hlow : nearest q ≤ -infinity
    · have hq : toDouble q = -infinity := by
        rw [toDouble, if_neg hhigh, if_pos hlow]
      rw [hq, toDouble, nearest_neg_infinity, if_neg (by linarith),
        if_pos le_rfl]
    · have hq : toDouble q = nearest q := by
        rw [toDouble, if_neg hhigh, if_neg hlow]
      rw [hq, toDouble, nearest_nearest, if_neg hhigh, if_neg hlow]

theorem toDouble_of_small {q : Rat} (h : |nearest q| < infinity) :
    toDouble q = nearest q := by
  rw [abs_lt] at h
  rw [toDouble, if_neg (not_le.mpr h.2), if_neg (not_le.mpr h.1)]

/-! Numbers that are neither very large nor very small. -/

/-- Half a last place is no more than half of the number. -/
theorem place_le_self {q : Rat} (h : 1 / 2 ^ 64 ≤ q) :
    (2 : Rat) ^ lastPlace q ≤ q := by
  have hpos : 0 < q := lt_of_lt_of_le (by norm_num) h
  have hlog : -64 ≤ Int.log 2 |q| := by
    rw [abs_of_pos hpos, ← Int.zpow_le_iff_le_log one_lt_two hpos]
    refine le_trans (le_of_eq ?_) h
    norm_num
  have hself := Int.zpow_log_le_self one_lt_two (abs_pos.mpr hpos.ne')
  rw [abs_of_pos hpos] at hself hlog
  refine le_trans (zpow_le_zpow_right₀ one_le_two ?_) (by exact_mod_cast hself)
  rw [lastPlace, abs_of_pos hpos]
  omega

theorem nearest_near {q : Rat} (h : 1 / 2 ^ 64 ≤ q) :
    q / 2 ≤ nearest q ∧ nearest q ≤ 2 * q := by
  have hplace := place_le_self h
  have herror := abs_nearest_sub q
  rw [abs_le] at herror
  constructor <;> linarith

theorem abs_nearest_lt {q : Rat} (h : |q| ≤ 2 ^ 64) :
    |nearest q| < infinity := by
  have hplace : (2 : Rat) ^ lastPlace q ≤ 2 ^ 64 := by
    rcases eq_or_ne q 0 with rfl | hne
    · norm_num [lastPlace]
    · have hlast := lastPlace_le (e := 65) hne
        (lt_of_le_of_lt h (by norm_num)) (by norm_num)
      exact_mod_cast zpow_le_zpow_right₀ (one_le_two (α := Rat))
        (show lastPlace q ≤ 64 by omega)
  have herror := abs_nearest_sub q
  have hsum := abs_add_le (nearest q - q) q
  rw [sub_add_cancel] at hsum
  have hinfinity : (2 : Rat) ^ 65 + 2 ^ 64 < infinity := by
    refine lt_trans ?_ (pow_lt_pow_right₀ one_lt_two (show 66 < 1024 by simp))
    norm_num
  linarith

end Binary64

/-- A floating-point number of 64 bits, by its value. -/
structure Double where
  val : Rat
  rounded : Binary64.toDouble val = val
deriving DecidableEq

namespace Binary64

open NumberFormat

def ofRat (q : Rat) : Double := ⟨toDouble q, toDouble_toDouble q⟩

@[simp]
theorem val_ofRat (q : Rat) : (ofRat q).val = toDouble q := rfl

theorem val_ofRat_half {n : Int} (h : |n| ≤ 2 ^ 52) :
    (ofRat (n / 2)).val = n / 2 := by
  have hbits : (n : Rat) / 2 = n * 2 ^ (-1 : Int) := by
    rw [zpow_neg_one, div_eq_mul_inv]
  have hnearest : nearest (n / 2) = n / 2 := by
    rw [hbits]
    exact nearest_of_bits (h.trans (by norm_num)) (by norm_num)
  have hsmall : |(n : Rat) / 2| ≤ 2 ^ 64 := by
    have habs : |(n : Rat)| ≤ 2 ^ 52 := by exact_mod_cast h
    rw [abs_div, abs_two]
    linarith
  rw [val_ofRat, toDouble_of_small (abs_nearest_lt hsmall), hnearest]

theorem val_ofRat_near {q : Rat} (hlo : 1 / 2 ^ 64 ≤ q) (hhi : q ≤ 2 ^ 64) :
    q / 2 ≤ (ofRat q).val ∧ (ofRat q).val ≤ 2 * q := by
  have hpos : 0 < q := lt_of_lt_of_le (by norm_num) hlo
  rw [val_ofRat, toDouble_of_small (abs_nearest_lt (by rwa [abs_of_pos hpos]))]
  exact nearest_near hlo

theorem not_infinite {q : Rat} (h : |q| ≤ 2 ^ 64) :
    decide (infinity ≤ |nearest q|) = false :=
  decide_eq_false (not_le.mpr (abs_nearest_lt h))

/-- The arithmetic of processors and of most languages. -/
instance format : NumberFormat Double where
  val := Double.val
  round := ofRat
  overflows q := decide (infinity ≤ |nearest q|)
  val_half _ h := val_ofRat_half h
  val_near _ hlo hhi := val_ofRat_near hlo hhi
  fits _ h := not_infinite h

/-- A tenth is no double, and the doubles next to 14/15 and 1/15 have a sum
above one. -/
example : (ofRat (1 / 10)).val ≠ 1 / 10 ∧
    (add (div (ofRat (14 / 100)) (ofRat (15 / 100)))
      (div (ofRat 2) (ofRat 30))).val > 1 := by
  decide +kernel

end Binary64
