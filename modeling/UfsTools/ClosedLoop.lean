/-
Programs in a closed loop: the replies are those of a device with a state of
its own.  The rules are total: a program meets its postcondition only if it
returns on what the device answers.
-/
import UfsTools.Process

namespace Process

variable {C R D N S α β : Type}

/-- A device answers a call in the state it is in, and goes on to the next. -/
structure Device (C R D : Type) where
  answer : D → C → R
  next : D → C → D

/-- A machine with the device in place of the replies still to come. -/
structure Closed (C R D N S : Type) where
  device : D
  trace : List (Event C R N)
  mem : S

/-- The machine behind a call. -/
def Device.after (dev : Device C R D) (c : Closed C R D N S) (x : C) :
    Closed C R D N S :=
  ⟨dev.next c.device x, c.trace ++ [.call x (dev.answer c.device x)], c.mem⟩

/-- Each reply is what the device answered, from the first state on to the
last. -/
inductive Device.Serves (dev : Device C R D) :
    D → List (Event C R N) → D → Prop
  | nil (d : D) : Serves dev d [] d
  | call {d d' : D} {c : C} {rest : List (Event C R N)}
      (hrest : Serves dev (dev.next d c) rest d') :
      Serves dev d (.call c (dev.answer d c) :: rest) d'
  | note {d d' : D} {n : N} {rest : List (Event C R N)}
      (hrest : Serves dev d rest d') : Serves dev d (.note n :: rest) d'

def repliesOf (events : List (Event C R N)) : List R :=
  events.filterMap fun
    | .call _ r => some r
    | .note _ => none

@[simp] theorem repliesOf_append (left right : List (Event C R N)) :
    repliesOf (left ++ right) = repliesOf left ++ repliesOf right := by
  simp [repliesOf]

@[simp] theorem repliesOf_map_note (ns : List N) :
    repliesOf (ns.map .note : List (Event C R N)) = [] := by
  simp [repliesOf]

def callsOf (events : List (Event C R N)) : List C :=
  events.filterMap fun
    | .call c _ => some c
    | .note _ => none

@[simp] theorem callsOf_append (left right : List (Event C R N)) :
    callsOf (left ++ right) = callsOf left ++ callsOf right := by
  simp [callsOf]

@[simp] theorem callsOf_map_note (ns : List N) :
    callsOf (ns.map .note : List (Event C R N)) = [] := by
  simp [callsOf]

variable {dev : Device C R D}

@[simp] theorem callsOf_after (c : Closed C R D N S) (x : C) :
    callsOf (dev.after c x).trace = callsOf c.trace ++ [x] := by
  simp [callsOf, Device.after]

/-- What a device serves in two parts it serves as a whole. -/
theorem Device.Serves.append {d d' d'' : D} {left right : List (Event C R N)}
    (hleft : dev.Serves d left d') (hright : dev.Serves d' right d'') :
    dev.Serves d (left ++ right) d'' := by
  induction hleft with
  | nil d => exact hright
  | call hrest ih => exact .call (ih hright)
  | note hrest ih => exact .note (ih hright)

theorem Device.Serves.notes (d : D) (ns : List N) :
    dev.Serves d (ns.map .note) d := by
  induction ns with
  | nil => exact .nil d
  | cons n ns ih => exact .note ih

/-- From `c` to `c'` the program took the device's answers and no other reply,
and returned `a`. -/
structure Runs (dev : Device C R D) (p : Prog C R N S α)
    (c : Closed C R D N S) (a : α) (c' : Closed C R D N S) : Prop where
  events : ∃ events, c'.trace = c.trace ++ events ∧
    dev.Serves c.device events c'.device ∧
    ∀ later, p ⟨repliesOf events ++ later, c.trace, c.mem⟩ =
      .done a ⟨later, c'.trace, c'.mem⟩

/-- The program returns on the device's answers, and then `Q` holds. -/
def meets (dev : Device C R D) (p : Prog C R N S α)
    (Q : α → Closed C R D N S → Prop) (c : Closed C R D N S) : Prop :=
  ∃ a c', Runs dev p c a c' ∧ Q a c'

section

variable {Q Q' : α → Closed C R D N S → Prop} {c : Closed C R D N S}

/-- A program that returns at once. -/
theorem meets_pure {a : α} (h : Q a c) : meets dev (pure a) Q c := by
  refine ⟨a, c, ⟨[], by simp, .nil _, ?_⟩, h⟩
  intro later
  rfl

/-- The run of a program and the run of what follows it. -/
theorem Runs.bind {p : Prog C R N S α} {f : α → Prog C R N S β} {a : α} {b : β}
    {c' c'' : Closed C R D N S} (hp : Runs dev p c a c')
    (hf : Runs dev (f a) c' b c'') : Runs dev (p >>= f) c b c'' := by
  obtain ⟨left, hleft, hserved, hrun⟩ := hp.events
  obtain ⟨right, hright, hserved', hrun'⟩ := hf.events
  refine ⟨left ++ right, ?_, hserved.append hserved', ?_⟩
  · rw [hright, hleft, List.append_assoc]
  · intro later
    rw [repliesOf_append, List.append_assoc, bind_done (hrun _)]
    exact hrun' later

/-- Contracts compose like programs. -/
theorem meets_bind {p : Prog C R N S α} {f : α → Prog C R N S β}
    {Q : β → Closed C R D N S → Prop}
    (h : meets dev p (fun a => meets dev (f a) Q) c) :
    meets dev (p >>= f) Q c := by
  obtain ⟨a, c', hp, b, c'', hf, hQ⟩ := h
  exact ⟨b, c'', hp.bind hf, hQ⟩

/-- A contract may promise less. -/
theorem meets_imp {p : Prog C R N S α} (h : meets dev p Q c)
    (hQ : ∀ a c', Q a c' → Q' a c') : meets dev p Q' c := by
  obtain ⟨a, c', hrun, ha⟩ := h
  exact ⟨a, c', hrun, hQ a c' ha⟩

/-- The device answers a call and moves on. -/
theorem meets_call {x : C} {Q : R → Closed C R D N S → Prop}
    (h : Q (dev.answer c.device x) (dev.after c x)) :
    meets dev (call x) Q c := by
  refine ⟨_, _, ⟨[.call x (dev.answer c.device x)], rfl, .call (.nil _), ?_⟩, h⟩
  intro later
  rfl

theorem meets_notes {ns : List N} {Q : Unit → Closed C R D N S → Prop}
    (h : Q () { c with trace := c.trace ++ ns.map .note }) :
    meets dev (notes ns) Q c := by
  refine ⟨(), { c with trace := c.trace ++ ns.map .note },
    ⟨ns.map .note, rfl, .notes _ ns, ?_⟩, h⟩
  intro later
  rw [repliesOf_map_note]
  rfl

theorem meets_note {n : N} {Q : Unit → Closed C R D N S → Prop}
    (h : Q () { c with trace := c.trace ++ [.note n] }) :
    meets dev (note n) Q c :=
  meets_notes h

theorem meets_get {Q : S → Closed C R D N S → Prop} (h : Q c.mem c) :
    meets dev get Q c := by
  refine ⟨c.mem, c, ⟨[], by simp, .nil _, ?_⟩, h⟩
  intro later
  rfl

theorem meets_modify {f : S → S} {Q : Unit → Closed C R D N S → Prop}
    (h : Q () { c with mem := f c.mem }) : meets dev (modify f) Q c := by
  refine ⟨(), { c with mem := f c.mem }, ⟨[], by simp, .nil _, ?_⟩, h⟩
  intro later
  rfl

/-- A call, and the notes on its answer. -/
theorem meets_exchange {x : C} {k : R → α × List N}
    (h : Q (k (dev.answer c.device x)).1 { dev.after c x with
      trace := (dev.after c x).trace ++
        (k (dev.answer c.device x)).2.map .note }) :
    meets dev (exchange x k) Q c := by
  rw [exchange]
  apply meets_bind
  apply meets_call
  apply meets_bind
  apply meets_notes
  apply meets_pure
  exact h

/-- An exchange that leaves no notes. -/
theorem meets_exchange_silent {x : C} {k : R → α × List N}
    (hsilent : (k (dev.answer c.device x)).2 = [])
    (h : Q (k (dev.answer c.device x)).1 (dev.after c x)) :
    meets dev (exchange x k) Q c := by
  apply meets_exchange
  rw [hsilent, List.map_nil, List.append_nil]
  exact h

/-- A program that goes on silently as another meets what the other does. -/
theorem GoesOn.meets {p q : Prog C R N S α} {ns : List N} {mem' : S}
    (h : GoesOn p q c.mem ns mem')
    (hq : meets dev q Q ⟨c.device, c.trace ++ ns.map .note, mem'⟩) :
    meets dev p Q c := by
  obtain ⟨a, c', hruns, hQ⟩ := hq
  obtain ⟨events, htrace, hserved, hrun⟩ := hruns.events
  refine ⟨a, c', ⟨ns.map .note ++ events, ?_, ?_, ?_⟩, hQ⟩
  · rw [htrace, List.append_assoc]
  · exact (Device.Serves.notes c.device ns).append hserved
  · intro later
    rw [repliesOf_append, repliesOf_map_note, List.nil_append, h]
    exact hrun later

theorem GoesOn.meets_silent {p q : Prog C R N S α} {mem' : S}
    (h : GoesOn p q c.mem [] mem')
    (hq : Process.meets dev q Q { c with mem := mem' }) :
    Process.meets dev p Q c := by
  apply h.meets
  rw [List.map_nil, List.append_nil]
  exact hq

/-! Loops. -/

/-- The end of a round: out with a result, or on to another round. -/
def Onward (Q : α → Closed C R D N S → Prop) (I : Closed C R D N S → Prop) :
    Option α → Closed C R D N S → Prop
  | some a, c => Q a c
  | none, c => I c

/-- A loop whose rounds come closer to their end each time they ask for more
returns. -/
theorem meets_loop {body : Prog C R N S (Option α)} (hbody : Consumes body)
    (I : Closed C R D N S → Prop) (rank : Closed C R D N S → Nat)
    (hround : ∀ c, I c →
      meets dev body (Onward Q fun c' => I c' ∧ rank c' < rank c) c)
    (hinit : I c) : meets dev (loop body) Q c := by
  induction hrank : rank c using Nat.strong_induction_on generalizing c with
  | h n ih =>
      rw [loop_unfold hbody]
      apply meets_bind
      apply meets_imp (hround c hinit)
      rintro (_ | a) c' hc'
      · obtain ⟨hI, hless⟩ := hc'
        exact ih _ (hrank ▸ hless) hI rfl
      · exact meets_pure hc'

/-- A counting loop that stays off its limit goes through its rounds. -/
theorem meets_forCount {limit : Int} {body : Int → Prog C R N S (Option β)}
    (I : Int → Closed C R D N S → Prop)
    {Q : Option β → Closed C R D N S → Prop} (n : Nat) (x : Int)
    (hlimit : x + n ≤ limit)
    (hround : ∀ y c, x ≤ y → y < x + n → I y c →
      meets dev (body y) (Onward (fun b => Q (some b)) (I (y + 1))) c)
    (hexit : ∀ c, I (x + n) c → Q none c) (hinit : I x c) :
    meets dev (forCount limit body n x) Q c := by
  induction n generalizing x c with
  | zero =>
      apply meets_pure
      exact hexit c (by simpa using hinit)
  | succ n ih =>
      have hsum : x + ((n + 1 : Nat) : Int) = x + 1 + n := by omega
      rw [forCount]
      apply meets_bind
      apply meets_imp (hround x c le_rfl (by omega) hinit)
      rintro (_ | b) c' hc'
      · have hstay : x ≠ limit := by omega
        simp only [if_neg hstay]
        apply ih (x + 1) (by omega)
        · intro y c hlo hhi hy
          exact hround y c (by omega) (by omega) hy
        · exact fun c hc => hexit c (hsum ▸ hc)
        · exact hc'
      · exact meets_pure hc'

/-- A loop over a range, by the invariant at each of its numbers. -/
theorem meets_forUpTo {limit lo hi : Int}
    {body : Int → Prog C R N S (Option β)} (I : Int → Closed C R D N S → Prop)
    {Q : Option β → Closed C R D N S → Prop} (hle : lo ≤ hi + 1)
    (hlimit : hi < limit)
    (hround : ∀ y c, lo ≤ y → y ≤ hi → I y c →
      meets dev (body y) (Onward (fun b => Q (some b)) (I (y + 1))) c)
    (hexit : ∀ c, I (hi + 1) c → Q none c) (hinit : I lo c) :
    meets dev (forUpTo limit lo hi body) Q c := by
  have hcount : lo + ((hi - lo + 1).toNat : Int) = hi + 1 := by omega
  apply meets_forCount I _ lo (by omega)
  · intro y c hlo hhi hy
    exact hround y c hlo (by omega) hy
  · exact fun c hc => hexit c (hcount ▸ hc)
  · exact hinit

end

/-! Programs one after another. -/

section

variable {J A E : Type}

/-- A run for each job, one after another.  Each starts with variables of its
own, on the device as the run before has left it. -/
def session (dev : Device C R D) (run : J → Prog C R N S α) (start : S) :
    List J → (List (α × Closed C R D N S) → D → Prop) → D → Prop
  | [], Q, d => Q [] d
  | job :: rest, Q, d =>
      meets dev (run job) (fun a c =>
        session dev run start rest (fun ends => Q ((a, c) :: ends)) c.device)
        ⟨d, [], start⟩

/-- The ends of a session are those of the steps that take `s` to `s'`. -/
inductive JobsFollow (next : J → A → A) (P : J → A → E → Prop) :
    A → List J → List E → A → Prop
  | nil (s : A) : JobsFollow next P s [] [] s
  | cons {s s' : A} {job : J} {rest : List J} {e : E} {ends : List E}
      (hend : P job s e) (hrest : JobsFollow next P (next job s) rest ends s') :
      JobsFollow next P s (job :: rest) (e :: ends) s'

/-- The final state is that of the jobs, one after the other. -/
theorem JobsFollow.state_eq {next : J → A → A} {P : J → A → E → Prop} {s s' : A}
    {jobs : List J} {ends : List E} (h : JobsFollow next P s jobs ends s') :
    s' = jobs.foldl (fun s job => next job s) s := by
  induction h with
  | nil s => rfl
  | cons hend hrest ih => exact ih

/-- Jobs before and after. -/
theorem JobsFollow.append {next : J → A → A} {P : J → A → E → Prop} {s s' : A}
    {left right : List J} {ends : List E}
    (h : JobsFollow next P s (left ++ right) ends s') :
    ∃ ends₁ ends₂ mid, ends = ends₁ ++ ends₂ ∧
      JobsFollow next P s left ends₁ mid ∧
        JobsFollow next P mid right ends₂ s' := by
  induction left generalizing s ends with
  | nil => exact ⟨[], ends, s, rfl, .nil s, h⟩
  | cons job left ih =>
      cases h with
      | cons hend hrest =>
          obtain ⟨ends₁, ends₂, mid, rfl, hleft, hright⟩ := ih hrest
          exact ⟨_ :: ends₁, ends₂, mid, rfl, .cons hend hleft, hright⟩

/-- Ends that do not depend on the state. -/
theorem JobsFollow.forall₂ {next : J → A → A} {P : J → E → Prop} {s s' : A}
    {jobs : List J} {ends : List E}
    (h : JobsFollow next (fun job _ => P job) s jobs ends s') :
    List.Forall₂ P jobs ends := by
  induction h with
  | nil s => exact .nil
  | cons hend hrest ih => exact .cons hend ih

/-- A session follows what each of its runs does to a state that stands for
the device. -/
theorem session_follows {dev : Device C R D} {run : J → Prog C R N S α}
    {start : S} (next : J → A → A)
    {P : J → A → α × Closed C R D N S → Prop} (I : A → D → Prop)
    {jobs : List J} {Q : List (α × Closed C R D N S) → D → Prop} {s : A}
    {d : D}
    (hrun : ∀ job ∈ jobs, ∀ s d, I s d → meets dev (run job) (fun a c =>
      P job s (a, c) ∧ I (next job s) c.device) ⟨d, [], start⟩)
    (hinit : I s d)
    (h : ∀ ends s' d', JobsFollow next P s jobs ends s' → I s' d' → Q ends d') :
    session dev run start jobs Q d := by
  induction jobs generalizing s d Q with
  | nil => exact h [] s d (.nil s) hinit
  | cons job rest ih =>
      rw [session]
      apply meets_imp (hrun job List.mem_cons_self s d hinit)
      rintro a c ⟨hend, hnext⟩
      apply ih
      · exact fun job' hjob' => hrun job' (List.mem_cons_of_mem job hjob')
      · exact hnext
      · exact fun ends s' d' hrest hlast => h _ s' d' (.cons hend hrest) hlast

end

/-! As with `wp`, only the rules look inside. -/
attribute [irreducible] meets

end Process
