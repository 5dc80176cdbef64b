/-
The data that keeps the link busy while the eye is scanned: words of a linear
congruential generator, which do not repeat.
-/
import UfsTools.LinearCongruence
import UfsTools.UfsEom

namespace UfsTools

open CLib

/-- The result and the seed of the next call. -/
def fastRand64 (seed : UInt64) : UInt64 × UInt64 :=
  let val := 3935559000370003845 * seed + 3037000493
  (val &&& 0x7fffffffffffffff, val)

/-- The word of one round of the loop, and the seed it leaves. -/
def patternWord (seed : UInt64) : UInt32 × UInt64 :=
  let (val, seed) := fastRand64 seed
  ((val &&& 0xffffffff).toUInt32, seed)

/-- The loop of `populate_data_pattern` over `size` words. -/
def patternWords : Nat → UInt64 → List UInt32
  | 0, _ => []
  | size + 1, seed =>
      (patternWord seed).1 :: patternWords size (patternWord seed).2

/-- The words the buffer holds; the seed is what `rand` returned. -/
def populateDataPattern (seed : UInt64) : List UInt32 :=
  patternWords (eomTempDataSize / 4) seed

theorem length_patternWords (size : Nat) (seed : UInt64) :
    (patternWords size seed).length = size := by
  induction size generalizing seed with
  | zero => rfl
  | succ size ih => rw [patternWords, List.length_cons, ih]

/-- The words are the bytes `pwrite` is given, no less and no more. -/
theorem length_populateDataPattern (seed : UInt64) :
    4 * (populateDataPattern seed).length = eomTempDataSize := by
  rw [populateDataPattern, length_patternWords]
  rfl

/-! The generator. -/

open LinearCongruence

def nextSeed (seed : UInt64) : UInt64 := (patternWord seed).2

theorem toNat_nextSeed (seed : UInt64) :
    ((nextSeed seed).toNat : Int) ≡
      next 3935559000370003845 3037000493 seed.toNat [ZMOD 2 ^ 64] := by
  simp only [nextSeed, patternWord, fastRand64, next, UInt64.toNat_add,
    UInt64.toNat_mul, UInt64.reduceToNat, Int.ModEq]
  omega

theorem toNat_iterate_nextSeed (n : Nat) (seed : UInt64) :
    ((nextSeed^[n] seed).toNat : Int) ≡
      (next 3935559000370003845 3037000493)^[n] seed.toNat [ZMOD 2 ^ 64] := by
  induction n with
  | zero => rfl
  | succ n ih =>
      rw [Function.iterate_succ_apply', Function.iterate_succ_apply']
      exact (toNat_nextSeed _).trans (next_modEq ih)

/-- Both masks leave the low half of the seed. -/
theorem toNat_patternWord (seed : UInt64) :
    (patternWord seed).1.toNat = (nextSeed seed).toNat % 2 ^ 32 := by
  have hmask : 0x7fffffffffffffff &&& 0xffffffff = 2 ^ 32 - 1 := by decide
  simp only [nextSeed, patternWord, fastRand64, UInt64.toNat_toUInt32,
    UInt64.toNat_and, UInt64.reduceToNat, Nat.and_assoc, hmask,
    Nat.and_two_pow_sub_one_eq_mod, Nat.mod_mod]

theorem patternWords_eq (size : Nat) (seed : UInt64) :
    patternWords size seed =
      (List.iterate nextSeed seed size).map fun s => (patternWord s).1 := by
  induction size generalizing seed with
  | zero => rfl
  | succ size ih =>
      rw [patternWords, ← nextSeed, ih, List.iterate, List.map_cons]

/-- As long as there are not more words than values of one, none comes twice. -/
theorem nodup_patternWords {size : Nat} (hsize : size ≤ 2 ^ 32)
    (seed : UInt64) : (patternWords size seed).Nodup := by
  rw [patternWords_eq, ← List.range_map_iterate, List.map_map]
  refine List.Nodup.map_on ?_ List.nodup_range
  intro i hi j hj hword
  have hlow := congrArg UInt32.toNat hword
  rw [Function.comp_apply, Function.comp_apply, toNat_patternWord,
    toNat_patternWord, ← Function.iterate_succ_apply' nextSeed,
    ← Function.iterate_succ_apply' nextSeed] at hlow
  have hstate (n : Nat) := (toNat_iterate_nextSeed n seed).of_dvd
    (pow_dvd_pow 2 (by decide : 32 ≤ 64))
  have hseeds : ((nextSeed^[i + 1] seed).toNat : Int) ≡
      (nextSeed^[j + 1] seed).toNat [ZMOD 2 ^ 32] := by
    exact_mod_cast hlow
  have hsame := (hstate (i + 1)).symm.trans (hseeds.trans (hstate (j + 1)))
  rw [iterate_next_modEq_iff (by decide) (by decide)] at hsame
  have hplaces := Nat.ModEq.add_right_cancel' 1 hsame
  rw [List.mem_range] at hi hj
  exact hplaces.eq_of_lt_of_lt (by omega) (by omega)

/-- No word of the pattern comes twice, whatever the seed. -/
theorem populateDataPattern_distinct (seed : UInt64) :
    (populateDataPattern seed).length = 1048576 ∧
      (populateDataPattern seed).Nodup := by
  constructor
  · exact length_patternWords _ seed
  · rw [populateDataPattern]
    exact nodup_patternWords (by decide) seed

end UfsTools
