/-
Programs that run against an environment which answers one call at a time.
The replies still to come are part of the machine, so a polling loop runs
until it returns or until the environment stays silent; everything the program
asked, was told or left behind on its way is in the trace.
-/
import Mathlib

namespace Process

variable {C R N S α β : Type}

/-- One entry of a trace: a call with the reply it got, or a note of something
the program did without asking the environment. -/
inductive Event (C R N : Type) where
  | call (request : C) (reply : R)
  | note (entry : N)
deriving DecidableEq

/-- The replies still to come, the trace so far, and the program's variables. -/
structure Machine (C R N S : Type) where
  replies : List R
  trace : List (Event C R N)
  mem : S

/-- Why a run stopped before it returned: it waits for a reply that never
comes, or it did something the language leaves undefined. -/
inductive Halt where
  | waiting
  | fault
deriving DecidableEq

inductive Result (C R N S α : Type) where
  | done (value : α) (machine : Machine C R N S)
  | halt (why : Halt) (machine : Machine C R N S)

def Result.machine : Result C R N S α → Machine C R N S
  | .done _ m => m
  | .halt _ m => m

def Result.value? : Result C R N S α → Option α
  | .done a _ => some a
  | .halt _ _ => none

theorem Result.eq_done {r : Result C R N S α} {a : α}
    (h : r.value? = some a) : r = .done a r.machine := by
  cases r with
  | done a' m =>
      obtain rfl := Option.some.inj h
      rfl
  | halt why m => contradiction

def Prog (C R N S α : Type) : Type :=
  Machine C R N S → Result C R N S α

instance : Monad (Prog C R N S) where
  pure a := fun m => .done a m
  bind p f := fun m =>
    match p m with
    | .done a m' => f a m'
    | .halt why m' => .halt why m'

/-- Ask the environment and take its next reply. -/
def call (c : C) : Prog C R N S R := fun m =>
  match m.replies with
  | [] => .halt .waiting m
  | r :: rest => .done r ⟨rest, m.trace ++ [.call c r], m.mem⟩

def notes (ns : List N) : Prog C R N S Unit := fun m =>
  .done () { m with trace := m.trace ++ ns.map .note }

def note (n : N) : Prog C R N S Unit := notes [n]

def get : Prog C R N S S := fun m => .done m.mem m

def modify (f : S → S) : Prog C R N S Unit := fun m =>
  .done () { m with mem := f m.mem }

def fault : Prog C R N S α := fun m => .halt .fault m

/-- One call whose reply decides the result and the notes left behind. -/
def exchange (c : C) (k : R → α × List N) : Prog C R N S α := do
  let r ← call c
  notes (k r).2
  pure (k r).1

/-- At most `n` rounds of `body`; a round that answers `none` asks for another. -/
def iterate (body : Prog C R N S (Option α)) : Nat → Prog C R N S α
  | 0 => fun m => .halt .waiting m
  | n + 1 => fun m =>
      match body m with
      | .done (some a) m' => .done a m'
      | .done none m' => iterate body n m'
      | .halt why m' => .halt why m'

/-- Repeat `body` until it answers.  Every round of a polling loop takes a
reply, so the number of replies left bounds the number of rounds. -/
def loop (body : Prog C R N S (Option α)) : Prog C R N S α := fun m =>
  iterate body (m.replies.length + 1) m

/-- `n` rounds of a counting loop from `x` on, left early when `body` answers.
Stepping the counter past `limit` is undefined. -/
def forCount (limit : Int) (body : Int → Prog C R N S (Option β)) :
    Nat → Int → Prog C R N S (Option β)
  | 0, _ => pure none
  | n + 1, x => do
      let out ← body x
      match out with
      | some b => pure (some b)
      | none => if x = limit then fault else forCount limit body n (x + 1)

/-- `for (x = lo; x <= hi; x++)` with a counter that cannot pass `limit`. -/
def forUpTo (limit lo hi : Int) (body : Int → Prog C R N S (Option β)) :
    Prog C R N S (Option β) :=
  forCount limit body (hi - lo + 1).toNat lo

/-- `for x in xs` -/
def forEach (body : α → Prog C R N S Unit) : List α → Prog C R N S Unit
  | [] => pure ()
  | x :: xs => do
      body x
      forEach body xs

/-! Weakest preconditions: `Q` for a run that returns, `E` for one that stops
before. -/

def wp (p : Prog C R N S α) (Q : α → Machine C R N S → Prop)
    (E : Halt → Machine C R N S → Prop) (m : Machine C R N S) : Prop :=
  match p m with
  | .done a m' => Q a m'
  | .halt why m' => E why m'

variable {Q Q' : α → Machine C R N S → Prop}
  {E E' : Halt → Machine C R N S → Prop} {m : Machine C R N S}

@[simp] theorem wp_pure (a : α) : wp (pure a) Q E m ↔ Q a m := Iff.rfl

theorem wp_bind (p : Prog C R N S α) (f : α → Prog C R N S β)
    {Q : β → Machine C R N S → Prop} :
    wp (p >>= f) Q E m ↔ wp p (fun a => wp (f a) Q E) E m := by
  simp only [wp, bind]
  cases p m <;> rfl

@[simp] theorem wp_notes (ns : List N)
    {Q : Unit → Machine C R N S → Prop} :
    wp (notes ns) Q E m ↔
      Q () { m with trace := m.trace ++ ns.map .note } := Iff.rfl

@[simp] theorem wp_note (n : N) {Q : Unit → Machine C R N S → Prop} :
    wp (note n) Q E m ↔ Q () { m with trace := m.trace ++ [.note n] } :=
  Iff.rfl

@[simp] theorem wp_get {Q : S → Machine C R N S → Prop} :
    wp get Q E m ↔ Q m.mem m := Iff.rfl

@[simp] theorem wp_modify (f : S → S) {Q : Unit → Machine C R N S → Prop} :
    wp (modify f) Q E m ↔ Q () { m with mem := f m.mem } := Iff.rfl

@[simp] theorem wp_fault : wp fault Q E m ↔ E .fault m := Iff.rfl

theorem wp_call (c : C) {Q : R → Machine C R N S → Prop}
    (hwait : m.replies = [] → E .waiting m)
    (hreply : ∀ r rest, m.replies = r :: rest →
      Q r ⟨rest, m.trace ++ [.call c r], m.mem⟩) :
    wp (call c) Q E m := by
  simp only [wp, call]
  cases hreplies : m.replies with
  | nil => exact hwait hreplies
  | cons r rest => exact hreply r rest hreplies

theorem wp_exchange (c : C) (k : R → α × List N)
    (hwait : m.replies = [] → E .waiting m)
    (hreply : ∀ r rest, m.replies = r :: rest →
      Q (k r).1 ⟨rest, m.trace ++ .call c r :: (k r).2.map .note, m.mem⟩) :
    wp (exchange c k) Q E m := by
  rw [exchange, wp_bind]
  refine wp_call c hwait ?_
  intro r rest hreplies
  simpa [wp_bind] using hreply r rest hreplies

theorem wp_mono {p : Prog C R N S α} (h : wp p Q E m)
    (hQ : ∀ a m', Q a m' → Q' a m') (hE : ∀ why m', E why m' → E' why m') :
    wp p Q' E' m := by
  simp only [wp] at h ⊢
  cases hp : p m with
  | done a m' => rw [hp] at h; exact hQ a m' h
  | halt why m' => rw [hp] at h; exact hE why m' h

theorem wp_imp {p : Prog C R N S α} (h : wp p Q E m)
    (hQ : ∀ a m', Q a m' → Q' a m') : wp p Q' E m :=
  wp_mono h hQ fun _ _ hE => hE

theorem wp_trivial (p : Prog C R N S α) :
    wp p (fun _ _ => True) (fun _ _ => True) m := by
  simp only [wp]
  cases p m <;> trivial

theorem wp_and {p : Prog C R N S α} (h : wp p Q E m) (h' : wp p Q' E' m) :
    wp p (fun a m' => Q a m' ∧ Q' a m') (fun why m' => E why m' ∧ E' why m')
      m := by
  simp only [wp] at h h' ⊢
  cases hp : p m with
  | done a m' => rw [hp] at h h'; exact ⟨h, h'⟩
  | halt why m' => rw [hp] at h h'; exact ⟨h, h'⟩

/-! Symbolic runs: `p` returned, so the rest goes on from where it left. -/

theorem bind_done {p : Prog C R N S α} {f : α → Prog C R N S β} {a : α}
    {m' : Machine C R N S} (h : p m = .done a m') : (p >>= f) m = f a m' := by
  simp only [bind, h]

theorem bind_halt {p : Prog C R N S α} {f : α → Prog C R N S β} {why : Halt}
    {m' : Machine C R N S} (h : p m = .halt why m') :
    (p >>= f) m = .halt why m' := by
  simp only [bind, h]

theorem get_bind (f : S → Prog C R N S α) (m : Machine C R N S) :
    (get >>= f) m = f m.mem m := rfl

theorem modify_bind (f : S → S) (p : Prog C R N S α) (m : Machine C R N S) :
    (do modify f; p) m = p { m with mem := f m.mem } := rfl

@[simp] theorem exchange_run (c : C) (k : R → α × List N) (r : R)
    (rest : List R) (trace : List (Event C R N)) (mem : S) :
    exchange c k ⟨r :: rest, trace, mem⟩ =
      .done (k r).1 ⟨rest, trace ++ .call c r :: (k r).2.map .note, mem⟩ := by
  simp [exchange, bind, call, notes, pure]

theorem exchange_map (c : C) (k : R → α × List N) (g : α → β) :
    (do
      let a ← (exchange c k : Prog C R N S α)
      pure (g a)) = exchange c fun r => (g (k r).1, (k r).2) := by
  funext m
  simp only [exchange, bind, call]
  cases m.replies <;> rfl

/-- Notes taken on the result of an exchange belong to the exchange. -/
theorem exchange_bind_notes (c : C) (k : R → α × List N) (f : α → List N)
    (g : α → β) :
    (do
      let a ← (exchange c k : Prog C R N S α)
      notes (f a)
      pure (g a)) =
      exchange c fun r => (g (k r).1, (k r).2 ++ f (k r).1) := by
  funext m
  simp only [exchange, bind, call]
  cases m.replies with
  | nil => rfl
  | cons r rest => simp [notes, pure]

/-- What `wp` says of a run that returned. -/
theorem wp_done {p : Prog C R N S α} (h : wp p Q E m) {a : α}
    {m' : Machine C R N S} (hrun : p m = .done a m') : Q a m' := by
  simpa [wp, hrun] using h

theorem wp_of_done {p : Prog C R N S α} {a : α} {m' : Machine C R N S}
    (hrun : p m = .done a m') (h : Q a m') : wp p Q E m := by
  simpa [wp, hrun] using h

/-- A run that cannot stop early returns. -/
theorem wp_returns {p : Prog C R N S α} (h : wp p Q (fun _ _ => False) m) :
    ∃ a m', p m = .done a m' ∧ Q a m' := by
  simp only [wp] at h
  cases hp : p m with
  | done a m' => rw [hp] at h; exact ⟨a, m', rfl, h⟩
  | halt why m' => rw [hp] at h; exact h.elim

/-- A condition that holds however the run ended. -/
theorem wp_machine {p : Prog C R N S α} {P : Machine C R N S → Prop}
    (h : wp p (fun _ => P) (fun _ => P) m) : P (p m).machine := by
  simp only [wp] at h
  cases hp : p m with
  | done a m' => rw [hp] at h; exact h
  | halt why m' => rw [hp] at h; exact h

/-- A postcondition whose truth is known in advance. -/
theorem wp_iff {p : Prog C R N S α} {P : Prop}
    (h : wp p (fun a m' => Q a m' ↔ P) (fun _ _ => False) m) :
    wp p Q (fun _ _ => False) m ↔ P := by
  obtain ⟨a, m', hrun, hiff⟩ := wp_returns h
  rw [← hiff]
  exact ⟨fun hwp => wp_done hwp hrun, wp_of_done hrun⟩

/-- Every round that asks for another one has taken a reply. -/
def Consumes (body : Prog C R N S (Option α)) : Prop :=
  ∀ m, wp body (fun out m' => out = none →
    m'.replies.length < m.replies.length) (fun _ _ => True) m

theorem iterate_eq_of_lt {body : Prog C R N S (Option α)}
    (hbody : Consumes body) {n k : Nat} {m : Machine C R N S}
    (hn : m.replies.length < n) (hk : m.replies.length < k) :
    iterate body n m = iterate body k m := by
  induction n generalizing k m with
  | zero => omega
  | succ n ih =>
      obtain ⟨k, rfl⟩ : ∃ j, k = j + 1 := ⟨k - 1, by omega⟩
      have hround := hbody m
      simp only [wp] at hround
      simp only [iterate]
      cases hrun : body m with
      | halt why m' => rfl
      | done out m' =>
          rw [hrun] at hround
          cases out with
          | some a => rfl
          | none =>
              have hless := hround rfl
              exact ih (by omega) (by omega)

/-- The bound on the rounds never cuts a loop short: a loop is its first round
and, if that asks for more, the loop again. -/
theorem loop_unfold {body : Prog C R N S (Option α)} (hbody : Consumes body) :
    loop body = (do
      let out ← body
      match out with
      | some a => pure a
      | none => loop body) := by
  funext m
  have hround := hbody m
  simp only [wp] at hround
  simp only [loop, iterate, bind]
  cases hrun : body m with
  | halt why m' => rfl
  | done out m' =>
      rw [hrun] at hround
      cases out with
      | some a => rfl
      | none =>
          have hless := hround rfl
          exact iterate_eq_of_lt hbody hless (Nat.lt_succ_self _)

/-- An invariant of the rounds is an invariant of the loop. -/
theorem wp_loop {body : Prog C R N S (Option α)} (hbody : Consumes body)
    (I : Machine C R N S → Prop)
    (hround : ∀ m, I m → wp body (fun out m' =>
      match out with
      | some a => Q a m'
      | none => I m') E m)
    (hinit : I m) : wp (loop body) Q E m := by
  induction hlen : m.replies.length using Nat.strong_induction_on
      generalizing m with
  | h n ih =>
      rw [loop_unfold hbody, wp_bind]
      refine wp_mono (wp_and (hround m hinit) (hbody m)) ?_ ?_
      · rintro (_ | a) m' ⟨hI, hless⟩
        · exact ih _ (hlen ▸ hless rfl) hI rfl
        · exact hI
      · exact fun why m' h => h.1

/-- The counting loop rule: the invariant `I` is indexed by the counter.  Only
a loop that is to step past `limit` faults, so one that is through did not
count that far. -/
theorem wp_forCount {limit : Int}
    {body : Int → Prog C R N S (Option β)} (I : Int → Machine C R N S → Prop)
    {Q : Option β → Machine C R N S → Prop} (n : Nat) (x : Int)
    (hround : ∀ y m, x ≤ y → y < x + n → I y m → wp (body y) (fun out m' =>
      match out with
      | some b => Q (some b) m'
      | none => I (y + 1) m') E m)
    (hexit : ∀ m, ¬ (x ≤ limit ∧ limit < x + n) → I (x + n) m → Q none m)
    (hover : ∀ m, limit < x + n → I (limit + 1) m → E .fault m)
    {m : Machine C R N S} (hinit : I x m) :
    wp (forCount limit body n x) Q E m := by
  induction n generalizing x m with
  | zero =>
      rw [forCount, wp_pure]
      exact hexit m (by omega) (by simpa using hinit)
  | succ n ih =>
      have hsum : x + ((n + 1 : Nat) : Int) = x + 1 + n := by omega
      rw [forCount, wp_bind]
      apply wp_imp (hround x m le_rfl (by omega) hinit)
      rintro (_ | b) m' hI
      · by_cases hlimit : x = limit
        · simp only [if_pos hlimit, wp_fault]
          exact hover m' (by omega) (hlimit ▸ hI)
        · simp only [if_neg hlimit]
          refine ih (x + 1) ?_ ?_ ?_ hI
          · intro y m hlo hhi hy
            exact hround y m (by omega) (by omega) hy
          · exact fun m hbelow hm => hexit m (by omega) (hsum ▸ hm)
          · exact fun m hlt hm => hover m (hsum ▸ hlt) hm
      · simp only [wp_pure]
        exact hI

/-- The rule for an invariant that does not look at the counter. -/
theorem wp_forCount_invariant {limit : Int}
    {body : Int → Prog C R N S (Option β)} (I : Machine C R N S → Prop)
    {Q : Option β → Machine C R N S → Prop} {n : Nat} {x : Int}
    (hround : ∀ y m, I m → wp (body y) (fun out m' =>
      match out with
      | some b => Q (some b) m'
      | none => I m') E m)
    (hexit : ∀ m, I m → Q none m) (hover : ∀ m, I m → E .fault m)
    {m : Machine C R N S} (hinit : I m) :
    wp (forCount limit body n x) Q E m :=
  wp_forCount (fun _ => I) n x (fun y m _ _ hm => hround y m hm)
    (fun m _ hm => hexit m hm) (fun m _ hm => hover m hm) hinit

theorem wp_forUpTo {limit lo hi : Int}
    {body : Int → Prog C R N S (Option β)} (I : Int → Machine C R N S → Prop)
    {Q : Option β → Machine C R N S → Prop} (hle : lo ≤ hi + 1)
    (hround : ∀ y m, lo ≤ y → y ≤ hi → I y m → wp (body y) (fun out m' =>
      match out with
      | some b => Q (some b) m'
      | none => I (y + 1) m') E m)
    (hexit : ∀ m, ¬ (lo ≤ limit ∧ limit ≤ hi) → I (hi + 1) m → Q none m)
    (hover : ∀ m, limit ≤ hi → I (limit + 1) m → E .fault m)
    (hinit : I lo m) : wp (forUpTo limit lo hi body) Q E m := by
  have hcount : lo + ((hi - lo + 1).toNat : Int) = hi + 1 := by omega
  refine wp_forCount I _ lo ?_ ?_ ?_ hinit
  · intro y m hlo hhi hy
    exact hround y m hlo (by omega) hy
  · exact fun m hbelow hm => hexit m (by omega) (hcount ▸ hm)
  · exact fun m hlt hm => hover m (by omega) hm

/-! Counting loops that neither ask the environment nor leave early. -/

/-- A loop that stays off `limit` applies its round once for each step. -/
theorem forCount_through {limit : Int}
    {body : Int → Prog C R N S (Option β)} {f : S → S}
    (hbody : ∀ y m, body y m = .done none { m with mem := f m.mem }) (n : Nat)
    (x : Int) (hlimit : x + n ≤ limit) (m : Machine C R N S) :
    forCount limit body n x m = .done none { m with mem := f^[n] m.mem } := by
  induction n generalizing x m with
  | zero => rfl
  | succ n ih =>
      have hstay : x ≠ limit := by omega
      rw [forCount, bind_done (hbody x m)]
      simp only [if_neg hstay]
      rw [ih (x + 1) (by omega)]
      rfl

/-- A loop that is to step past `limit` faults. -/
theorem forCount_over {limit : Int} {body : Int → Prog C R N S (Option β)}
    (hbody : ∀ y m, ∃ m', body y m = .done none m') (n : Nat) (x : Int)
    (hx : x ≤ limit) (hover : limit < x + n) (m : Machine C R N S) :
    ∃ m', forCount limit body n x m = .halt .fault m' := by
  induction n generalizing x m with
  | zero => omega
  | succ n ih =>
      obtain ⟨m₁, hround⟩ := hbody x m
      rw [forCount, bind_done hround]
      by_cases hlimit : x = limit
      · exact ⟨m₁, by simp only [if_pos hlimit, fault]⟩
      · simp only [if_neg hlimit]
        exact ih (x + 1) (by omega) (by omega) m₁

/-- A loop whose rounds fault does so in the first. -/
theorem forCount_fault {limit : Int} {body : Int → Prog C R N S (Option β)}
    (hbody : ∀ y m, ∃ m', body y m = .halt .fault m') {n : Nat} (hn : 0 < n)
    (x : Int) (m : Machine C R N S) :
    ∃ m', forCount limit body n x m = .halt .fault m' := by
  obtain ⟨k, rfl⟩ : ∃ k, n = k + 1 := ⟨n - 1, by omega⟩
  obtain ⟨m₁, hround⟩ := hbody x m
  exact ⟨m₁, by simp only [forCount, bind, hround]⟩

/-- An invariant of every round is an invariant of the loop. -/
theorem wp_forEach {body : α → Prog C R N S Unit} {xs : List α}
    (I : Machine C R N S → Prop)
    (hround : ∀ x ∈ xs, ∀ m, I m → wp (body x) (fun _ m' => I m') E m)
    {m : Machine C R N S} (hinit : I m) :
    wp (forEach body xs) (fun _ m' => I m') E m := by
  induction xs generalizing m with
  | nil => exact hinit
  | cons x xs ih =>
      rw [forEach, wp_bind]
      apply wp_imp (hround x (by simp) m hinit)
      intro _ m' hI
      apply ih
      · intro y hy
        exact hround y (by simp [hy])
      · exact hI

/-! Programs that go on as another one without a call. -/

/-- With its variables at `mem`, `p` makes no call before it goes on as `q`; on
its way it leaves the notes `ns`, and its variables at `mem'`. -/
def GoesOn (p q : Prog C R N S α) (mem : S) (ns : List N) (mem' : S) : Prop :=
  ∀ replies trace, p ⟨replies, trace, mem⟩ =
    q ⟨replies, trace ++ ns.map .note, mem'⟩

section

variable {p q : Prog C R N S α} {mem mem' : S} {ns : List N}

/-- No note is left, either. -/
theorem GoesOn.of_run (h : ∀ replies trace,
    p ⟨replies, trace, mem⟩ = q ⟨replies, trace, mem'⟩) :
    GoesOn p q mem [] mem' := by
  intro replies trace
  rw [h, List.map_nil, List.append_nil]


theorem GoesOn.wp (h : GoesOn p q m.mem ns mem')
    (hq : wp q Q E ⟨m.replies, m.trace ++ ns.map .note, mem'⟩) :
    wp p Q E m := by
  rw [Process.wp, h m.replies m.trace]
  exact hq

theorem GoesOn.wp_silent (h : GoesOn p q m.mem [] mem')
    (hq : Process.wp q Q E { m with mem := mem' }) : Process.wp p Q E m := by
  apply h.wp
  rw [List.map_nil, List.append_nil]
  exact hq

end

/-! Programs that leave the variables alone, however they end. -/

def KeepsMem (p : Prog C R N S α) : Prop :=
  ∀ m, wp p (fun _ m' => m'.mem = m.mem) (fun _ m' => m'.mem = m.mem) m

theorem keepsMem_pure (a : α) : KeepsMem (pure a : Prog C R N S α) :=
  fun _ => rfl

theorem KeepsMem.bind {p : Prog C R N S α} {f : α → Prog C R N S β}
    (hp : KeepsMem p) (hf : ∀ a, KeepsMem (f a)) : KeepsMem (p >>= f) := by
  intro m
  rw [wp_bind]
  apply wp_imp (hp m)
  intro a m' hm'
  rw [← hm']
  exact hf a m'

theorem keepsMem_notes (ns : List N) :
    KeepsMem (notes ns : Prog C R N S Unit) := fun _ => rfl

theorem keepsMem_exchange (c : C) (k : R → α × List N) :
    KeepsMem (exchange c k : Prog C R N S α) := by
  intro m
  apply wp_exchange
  · exact fun _ => rfl
  · exact fun _ _ _ => rfl

/-! A run of a concrete program is evaluated when it is asked for, not when a
proof looks at the shape of its goal. -/
attribute [irreducible] wp

end Process
