/-
Two programs side by side, each with memory of its own: they end alike, in
machines that belong together.
-/
import UfsTools.Process

namespace Process

variable {C R N S T α β γ δ : Type}

/-- Wait for something that has not come yet. -/
def wait : Prog C R N S α := fun m => .halt .waiting m

/-- The machine as a program on a part of its memory finds it. -/
def Machine.part (m : Machine C R N S) (get : S → T) : Machine C R N T :=
  { m with mem := get m.mem }

/-- A program on a part of the memory. -/
def within (get : S → T) (put : S → T → S) (p : Prog C R N T α) :
    Prog C R N S α := fun m =>
  match p (m.part get) with
  | .done a m' => .done a (m'.part (put m.mem))
  | .halt why m' => .halt why (m'.part (put m.mem))

/-- The first `n` rounds of a loop, as far as they are run. -/
def rounds (body : Prog C R N S (Option α)) : Nat → Prog C R N S (Option α)
  | 0 => pure none
  | n + 1 => do
      let out ← body
      match out with
      | some a => pure (some a)
      | none => rounds body n

theorem iterate_succ (body : Prog C R N S (Option α)) (n : Nat)
    (m : Machine C R N S) :
    iterate body (n + 1) m = (do
      let out ← body
      match out with
      | some a => pure a
      | none => iterate body n) m := by
  simp only [iterate, bind]
  cases body m with
  | halt why m' => rfl
  | done out m' => cases out <;> rfl

/-- Both runs return, or both stop for the same reason. -/
def Alike (Q : α → β → Machine C R N S → Machine C R N T → Prop)
    (E : Machine C R N S → Machine C R N T → Prop) :
    Result C R N S α → Result C R N T β → Prop
  | .done a m, .done b m' => Q a b m m'
  | .halt why m, .halt why' m' => why = why' ∧ E m m'
  | .done _ _, .halt _ _ => False
  | .halt _ _, .done _ _ => False

section Alike

variable {Q : α → β → Machine C R N S → Machine C R N T → Prop}
  {Q' : γ → δ → Machine C R N S → Machine C R N T → Prop}
  {E : Machine C R N S → Machine C R N T → Prop}

theorem Alike.mono {r : Result C R N S α} {r' : Result C R N T β}
    {Q₁ : α → β → Machine C R N S → Machine C R N T → Prop}
    {E₁ : Machine C R N S → Machine C R N T → Prop} (h : Alike Q E r r')
    (hQ : ∀ a b n n', Q a b n n' → Q₁ a b n n')
    (hE : ∀ n n', E n n' → E₁ n n') : Alike Q₁ E₁ r r' := by
  cases r with
  | done a n =>
      cases r' with
      | done b n' => exact hQ a b n n' h
      | halt why n' => exact h.elim
  | halt why n =>
      cases r' with
      | done b n' => exact h.elim
      | halt why' n' => exact ⟨h.1, hE n n' h.2⟩

/-- Programs that run alike go on alike. -/
theorem Alike.bind {p : Prog C R N S α} {p' : Prog C R N T β}
    {f : α → Prog C R N S γ} {f' : β → Prog C R N T δ}
    {m : Machine C R N S} {m' : Machine C R N T}
    (h : Alike Q E (p m) (p' m'))
    (hf : ∀ a b n n', Q a b n n' → Alike Q' E (f a n) (f' b n')) :
    Alike Q' E ((p >>= f) m) ((p' >>= f') m') := by
  simp only [Bind.bind]
  cases hp : p m with
  | done a n =>
      cases hp' : p' m' with
      | done b n' =>
          rw [hp, hp'] at h
          exact hf a b n n' h
      | halt why n' =>
          rw [hp, hp'] at h
          exact h.elim
  | halt why n =>
      cases hp' : p' m' with
      | done b n' =>
          rw [hp, hp'] at h
          exact h.elim
      | halt why' n' =>
          rw [hp, hp'] at h
          exact h

theorem Alike.bind_left {p : Prog C R N S α} {f : α → Prog C R N S γ}
    {r : Result C R N T β} {m : Machine C R N S}
    {Q' : γ → β → Machine C R N S → Machine C R N T → Prop}
    (h : Alike Q E (p m) r)
    (hf : ∀ a b n n', Q a b n n' → Alike Q' E (f a n) (.done b n')) :
    Alike Q' E ((p >>= f) m) r := by
  simp only [Bind.bind]
  cases hp : p m with
  | done a n =>
      cases r with
      | done b n' =>
          rw [hp] at h
          exact hf a b n n' h
      | halt why n' =>
          rw [hp] at h
          exact h.elim
  | halt why n =>
      cases r with
      | done b n' =>
          rw [hp] at h
          exact h.elim
      | halt why' n' =>
          rw [hp] at h
          exact h

/-- What is known of the second run is known beside the first. -/
theorem Alike.and_wp {r : Result C R N S α} {p : Prog C R N T β}
    {m : Machine C R N T} {P : β → Machine C R N T → Prop}
    {E' : Halt → Machine C R N T → Prop} (h : Alike Q E r (p m))
    (hwp : wp p P E' m) :
    Alike (fun a b n n' => Q a b n n' ∧ P b n') E r (p m) := by
  cases hp : p m with
  | done b n' =>
      rw [hp] at h
      cases r with
      | done a n => exact ⟨h, wp_done hwp hp⟩
      | halt why n => exact h
  | halt why n' =>
      rw [hp] at h
      cases r with
      | done a n => exact h
      | halt why n => exact h

/-- What is known of both runs is known of the first, where it returns. -/
theorem Alike.wp {p : Prog C R N S α} {r : Result C R N T β}
    {m : Machine C R N S} (h : Alike Q E (p m) r) :
    wp p (fun a n => ∃ b n', r = .done b n' ∧ Q a b n n') (fun _ _ => True)
      m := by
  simp only [Process.wp]
  cases hp : p m with
  | halt why n => trivial
  | done a n =>
      rw [hp] at h
      cases r with
      | done b n' => exact ⟨b, n', rfl, h⟩
      | halt why n' => exact h.elim

/-- A program runs on a part of the memory as it runs on that part alone. -/
theorem alike_within (get : S → T) (put : S → T → S) (p : Prog C R N T α)
    (m : Machine C R N S) :
    Alike (fun a b n n' => a = b ∧ n = n'.part (put m.mem))
      (fun n n' => n = n'.part (put m.mem))
      (within get put p m) (p (m.part get)) := by
  rw [within]
  cases p (m.part get) with
  | done a n' => exact ⟨rfl, rfl⟩
  | halt why n' => exact ⟨rfl, rfl⟩

end Alike

end Process
