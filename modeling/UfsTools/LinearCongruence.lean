/-
Linear congruential generators with a power of two as modulus: where the
multiplier is one more than a multiple of four and the increment is odd, two
places of the sequence agree only a whole period apart.
-/
import Mathlib

namespace LinearCongruence

open Finset

section Ring

variable {R : Type*} [CommRing R]

def next (a c x : R) : R := a * x + c

/-- What `n` steps add to the state. -/
theorem iterate_next_sub (a c x : R) (n : Nat) :
    (next a c)^[n] x - x = (∑ i ∈ range n, a ^ i) * ((a - 1) * x + c) := by
  induction n with
  | zero => simp
  | succ n ih =>
      have hstate := sub_eq_iff_eq_add.mp ih
      rw [Function.iterate_succ_apply', hstate, next, geom_sum_succ]
      ring

end Ring

/-! Powers of two. -/

/-- The sum of the powers of the multiplier has as many factors two as its
number of terms. -/
theorem two_pow_dvd_geom_sum_iff {a : Int} (ha : 4 ∣ a - 1) (w n : Nat) :
    (2 : Int) ^ w ∣ ∑ i ∈ range n, a ^ i ↔ 2 ^ w ∣ n := by
  rcases eq_or_ne a 1 with rfl | hne
  · rw [one_geom_sum]
    exact_mod_cast Iff.rfl
  · have hodd : ¬ 2 ∣ a := by omega
    have hlift := Int.two_pow_sub_pow' n ha hodd
    have hfinite : emultiplicity 2 (a - 1) ≠ ⊤ := by
      rw [← finiteMultiplicity_iff_emultiplicity_ne_top,
        Int.finiteMultiplicity_iff]
      exact ⟨by decide, sub_ne_zero.mpr hne⟩
    rw [one_pow, ← mul_geom_sum, emultiplicity_mul Int.prime_two] at hlift
    have hsame := ENat.add_right_injective_of_ne_top hfinite hlift
    rw [pow_dvd_iff_le_emultiplicity, hsame, ← pow_dvd_iff_le_emultiplicity]
    exact_mod_cast Iff.rfl

theorem next_modEq {a c x y m : Int} (h : x ≡ y [ZMOD m]) :
    next a c x ≡ next a c y [ZMOD m] :=
  (h.mul_left a).add_right c

/-- A state comes back to its low `w` bits after the whole period only. -/
theorem iterate_next_modEq_self_iff {a c : Int} (ha : 4 ∣ a - 1) (hc : Odd c)
    (x : Int) (w n : Nat) :
    x ≡ (next a c)^[n] x [ZMOD 2 ^ w] ↔ 2 ^ w ∣ n := by
  have heven : Even (a - 1) := by
    rw [even_iff_two_dvd]
    omega
  have hodd : Odd ((a - 1) * x + c) := (heven.mul_right x).add_odd hc
  have hcoprime : IsCoprime ((2 : Int) ^ w) ((a - 1) * x + c) :=
    (Int.isCoprime_two_left.mpr hodd).pow_left
  rw [Int.modEq_iff_dvd, iterate_next_sub, ← two_pow_dvd_geom_sum_iff ha]
  constructor
  · intro h
    exact hcoprime.dvd_of_dvd_mul_right h
  · intro h
    exact h.mul_right _

/-- Two states agree in their low `w` bits if and only if a number of whole
periods lies between them. -/
theorem iterate_next_modEq_iff {a c : Int} (ha : 4 ∣ a - 1) (hc : Odd c)
    (x : Int) (w i j : Nat) :
    (next a c)^[i] x ≡ (next a c)^[j] x [ZMOD 2 ^ w] ↔
      i ≡ j [MOD 2 ^ w] := by
  have hlater (i n : Nat) :
      (next a c)^[i] x ≡ (next a c)^[i + n] x [ZMOD 2 ^ w] ↔
        i ≡ i + n [MOD 2 ^ w] := by
    rw [Nat.add_comm i n, Function.iterate_add_apply,
      iterate_next_modEq_self_iff ha hc]
    exact Nat.right_modEq_add_iff.symm
  rcases le_total i j with h | h
  · obtain ⟨n, rfl⟩ := Nat.exists_eq_add_of_le h
    exact hlater i n
  · obtain ⟨n, rfl⟩ := Nat.exists_eq_add_of_le h
    rw [Int.modEq_comm, Nat.ModEq.comm]
    exact hlater j n

end LinearCongruence
