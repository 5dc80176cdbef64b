/-
Logs in which some entries open an obligation that a later entry has to close.
-/
import Mathlib

namespace Obligations

variable {α κ : Type}

/-- Behind every opening entry the log holds the closing one, apart from the
excused keys. -/
def Discharged (opens closes : κ → α) (excused : κ → Prop) (log : List α) :
    Prop :=
  ∀ k before after, log = before ++ opens k :: after →
    closes k ∈ after ∨ excused k

/-- Nothing is excused. -/
def unexcused : κ → Prop := fun _ => False

variable {opens closes : κ → α} {excused excused' : κ → Prop}
  {log later : List α} {x : α} {k : κ}

theorem Discharged.mono (h : Discharged opens closes excused log)
    (hexcused : ∀ k, excused k → excused' k) :
    Discharged opens closes excused' log := by
  intro k before after hlog
  exact (h k before after hlog).imp_right (hexcused k)

theorem discharged_nil : Discharged opens closes excused [] := by
  intro k before after hlog
  simp at hlog

theorem discharged_cons_iff :
    Discharged opens closes excused (x :: log) ↔
      (∀ k, x = opens k → closes k ∈ log ∨ excused k) ∧
        Discharged opens closes excused log := by
  constructor
  · intro h
    constructor
    · rintro k rfl
      exact h k [] log rfl
    · intro k before after hlog
      exact h k (x :: before) after (by rw [hlog, List.cons_append])
  · rintro ⟨hfirst, hrest⟩ k before after hlog
    cases before with
    | nil =>
        obtain ⟨hx, rfl⟩ := List.cons.inj hlog
        exact hfirst k hx
    | cons y before =>
        exact hrest k before after (List.cons.inj hlog).2

/-- What comes later may open excused obligations only. -/
theorem Discharged.append (h : Discharged opens closes excused log)
    (hlater : ∀ k, opens k ∈ later → excused k) :
    Discharged opens closes excused (log ++ later) := by
  induction log with
  | nil =>
      intro k before after hlog
      rw [List.nil_append] at hlog
      exact .inr (hlater k (by simp [hlog]))
  | cons x rest ih =>
      rw [discharged_cons_iff] at h
      rw [List.cons_append, discharged_cons_iff]
      constructor
      · intro k hk
        exact (h.1 k hk).imp_left (List.mem_append_left later)
      · exact ih h.2

/-- Closing the one obligation that was excused. -/
theorem Discharged.close (h : Discharged opens closes excused log)
    (hexcused : ∀ k', excused k' → closes k' = closes k)
    (hopens : ∀ k', opens k' ≠ closes k) :
    Discharged opens closes unexcused (log ++ [closes k]) := by
  induction log with
  | nil =>
      rw [List.nil_append, discharged_cons_iff]
      constructor
      · intro k' hk'
        exact absurd hk'.symm (hopens k')
      · exact discharged_nil
  | cons x rest ih =>
      rw [discharged_cons_iff] at h
      rw [List.cons_append, discharged_cons_iff]
      constructor
      · intro k' hk'
        left
        rcases h.1 k' hk' with hmem | hkey
        · exact List.mem_append_left _ hmem
        · simp [hexcused k' hkey]
      · exact ih h.2

/-- An obligation that is opened and not closed any more. -/
theorem not_discharged (hclose : closes k ∉ later) :
    ¬ Discharged opens closes unexcused (log ++ opens k :: later) := by
  intro h
  rcases h k log later rfl with hmem | hfalse
  · exact hclose hmem
  · exact hfalse

/-- Entries that neither open nor close change nothing. -/
theorem discharged_append_iff (hopens : ∀ k, opens k ∉ later)
    (hcloses : ∀ k, closes k ∉ later) :
    Discharged opens closes excused (log ++ later) ↔
      Discharged opens closes excused log := by
  constructor
  · intro h k before after hlog
    have hall := h k before (after ++ later) (by simp [hlog])
    apply hall.imp_left
    intro hmem
    exact (List.mem_append.mp hmem).resolve_right (hcloses k)
  · intro h
    apply h.append
    intro k hk
    exact absurd hk (hopens k)

end Obligations
