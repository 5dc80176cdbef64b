/-
`getopt_long` as the GNU C library documents it: options may stand between
operands, long options may be abbreviated to an unambiguous prefix, `--` ends
the options, and every mistake is delivered as `?`.
-/
import UfsTools.CLib

namespace Getopt

open CLib

structure LongOption where
  name : Text
  hasArg : Bool
  val : Char
deriving DecidableEq

/-- One return of `getopt_long` before the last: the option character and the
argument in `optarg`. -/
structure Occurrence where
  option : Char
  optarg : Text := []
deriving DecidableEq

def unknownOption : Occurrence := ⟨'?', []⟩

/-- An exact name wins; otherwise the options the name abbreviates have to be
interchangeable. -/
def lookupLong (longOptions : List LongOption) (name : Text) :
    Option LongOption :=
  match longOptions.find? fun o => o.name = name with
  | some o => some o
  | none =>
      match longOptions.filter fun o => name.isPrefixOf o.name with
      | [] => none
      | o :: others =>
          if ∀ o' ∈ others, o'.hasArg = o.hasArg ∧ o'.val = o.val then some o
          else none

/-- Whether `c` is a short option, and if so whether it takes an argument. -/
def lookupShort (shortOptions : Text) (c : Char) : Option Bool :=
  if c = ':' ∨ c = ';' then none
  else
    match shortOptions.dropWhile (· ≠ c) with
    | [] => none
    | _ :: next => some (next.head? = some ':')

/-- The options of one word `-abc`, and the option left without an argument. -/
def shortCluster (shortOptions : Text) : Text → List Occurrence × Option Char
  | [] => ([], none)
  | c :: rest =>
      match lookupShort shortOptions c with
      | none =>
          let (found, open?) := shortCluster shortOptions rest
          (unknownOption :: found, open?)
      | some false =>
          let (found, open?) := shortCluster shortOptions rest
          (⟨c, []⟩ :: found, open?)
      | some true =>
          if rest = [] then ([], some c) else ([⟨c, rest⟩], none)

/-- What `--name` or `--name=value` delivers: the option, and whether its
argument is still to come. -/
def longWord (longOptions : List LongOption) (body : Text) : Occurrence × Bool :=
  match lookupLong longOptions (body.takeWhile (· ≠ '=')),
      body.dropWhile (· ≠ '=') with
  | none, _ => (unknownOption, false)
  | some o, [] => (⟨o.val, []⟩, o.hasArg)
  | some o, _ :: value =>
      if o.hasArg then (⟨o.val, value⟩, false) else (unknownOption, false)

/-- The options `getopt_long` delivers for the words behind the program name,
in order. -/
def getoptLong (shortOptions : Text) (longOptions : List LongOption) :
    List Text → List Occurrence
  | [] => []
  | word :: rest =>
      match word with
      | '-' :: '-' :: [] => []
      | '-' :: '-' :: body =>
          let (found, open?) := longWord longOptions body
          if open? then
            match rest with
            | [] => [unknownOption]
            | optarg :: rest' =>
                ⟨found.option, optarg⟩ ::
                  getoptLong shortOptions longOptions rest'
          else found :: getoptLong shortOptions longOptions rest
      | '-' :: c :: cs =>
          let (found, open?) := shortCluster shortOptions (c :: cs)
          match open? with
          | none => found ++ getoptLong shortOptions longOptions rest
          | some option =>
              match rest with
              | [] => found ++ [unknownOption]
              | optarg :: rest' =>
                  found ++ ⟨option, optarg⟩ ::
                    getoptLong shortOptions longOptions rest'
      | _ => getoptLong shortOptions longOptions rest

/-! Words that name one option each. -/

variable {shortOptions : Text} {longOptions : List LongOption}

theorem getoptLong_operand {c : Char} (hc : c ≠ '-') (word : Text)
    (rest : List Text) :
    getoptLong shortOptions longOptions ((c :: word) :: rest) =
      getoptLong shortOptions longOptions rest := by
  rw [getoptLong]
  · intro h
    exact hc (List.cons.inj h).1
  · intro body h
    exact hc (List.cons.inj h).1
  · intro c' cs h
    exact hc (List.cons.inj h).1

theorem getoptLong_short {c : Char} (hc : c ≠ '-')
    (hlookup : lookupShort shortOptions c = some true) (optarg : Text)
    (rest : List Text) :
    getoptLong shortOptions longOptions (['-', c] :: optarg :: rest) =
      ⟨c, optarg⟩ :: getoptLong shortOptions longOptions rest := by
  rw [getoptLong]
  · simp [shortCluster, hlookup]
  · exact fun h => absurd h hc
  · exact fun h => absurd h hc

theorem getoptLong_flag {c : Char} (hc : c ≠ '-')
    (hlookup : lookupShort shortOptions c = some false) (rest : List Text) :
    getoptLong shortOptions longOptions (['-', c] :: rest) =
      ⟨c, []⟩ :: getoptLong shortOptions longOptions rest := by
  rw [getoptLong]
  · simp [shortCluster, hlookup]
  · exact fun h => absurd h hc
  · exact fun h => absurd h hc

theorem getoptLong_long {body : Text} {o : Occurrence} (hbody : body ≠ [])
    (hword : longWord longOptions body = (o, false)) (rest : List Text) :
    getoptLong shortOptions longOptions (('-' :: '-' :: body) :: rest) =
      o :: getoptLong shortOptions longOptions rest := by
  rw [getoptLong]
  · simp [hword]
  · exact hbody

theorem getoptLong_longArg {body : Text} {o : Occurrence} (hbody : body ≠ [])
    (hword : longWord longOptions body = (o, true)) (optarg : Text)
    (rest : List Text) :
    getoptLong shortOptions longOptions
        (('-' :: '-' :: body) :: optarg :: rest) =
      ⟨o.option, optarg⟩ :: getoptLong shortOptions longOptions rest := by
  rw [getoptLong]
  · simp [hword]
  · exact hbody

/-- An option loop goes on from where its first handler left. -/
theorem optionLoop_cons {ε σ : Type} {handle : σ → Occurrence → Except ε σ}
    {o : Occurrence} {s s' : σ} (h : handle s o = .ok s')
    (rest : List Occurrence) :
    (o :: rest).foldlM handle s = rest.foldlM handle s' := by
  rw [List.foldlM_cons, h]
  rfl

/-- What every handler of an option loop preserves holds when the loop is
through. -/
theorem optionLoop_preserves {ε σ : Type} {handle : σ → Occurrence → Except ε σ}
    {P : σ → Prop}
    (hhandle : ∀ s o s', P s → handle s o = .ok s' → P s')
    {occurrences : List Occurrence} {s s' : σ} (hs : P s)
    (hloop : occurrences.foldlM handle s = .ok s') : P s' := by
  induction occurrences generalizing s with
  | nil =>
      obtain rfl : s = s' := Except.ok.inj hloop
      exact hs
  | cons o rest ih =>
      rw [List.foldlM_cons] at hloop
      cases hfirst : handle s o with
      | error e =>
          rw [hfirst] at hloop
          contradiction
      | ok next =>
          rw [hfirst] at hloop
          exact ih (hhandle s o next hs hfirst) hloop

/-- A variable that some of the options set has the value of the last of
these. -/
theorem optionLoop_last {ε σ γ : Type} {handle : σ → Occurrence → Except ε σ}
    (read : σ → γ) (given : Occurrence → Option γ)
    {occurrences : List Occurrence} {s s' : σ}
    (hloop : occurrences.foldlM handle s = .ok s')
    (hhandle : ∀ s o s', handle s o = .ok s' →
      read s' = (given o).getD (read s)) :
    read s' =
      ((occurrences.filterMap given).getLast?).getD (read s) := by
  induction occurrences generalizing s with
  | nil =>
      obtain rfl : s = s' := Except.ok.inj hloop
      rfl
  | cons o rest ih =>
      rw [List.foldlM_cons] at hloop
      cases hfirst : handle s o with
      | error e =>
          rw [hfirst] at hloop
          contradiction
      | ok next =>
          rw [hfirst] at hloop
          rw [ih hloop, hhandle s o next hfirst]
          cases hgiven : given o with
          | none => rw [List.filterMap_cons_none hgiven, Option.getD_none]
          | some value =>
              rw [List.filterMap_cons_some hgiven, List.getLast?_cons,
                Option.getD_some, Option.getD_some]

/-- A change of the variables that the handlers of all options respect can be
made before the loop as well as behind it. -/
theorem optionLoop_map {ε σ : Type} {handle : σ → Occurrence → Except ε σ}
    (f : σ → σ) {occurrences : List Occurrence} {s s' : σ}
    (hhandle : ∀ o ∈ occurrences, ∀ s s', handle s o = .ok s' →
      handle (f s) o = .ok (f s'))
    (hloop : occurrences.foldlM handle s = .ok s') :
    occurrences.foldlM handle (f s) = .ok (f s') := by
  induction occurrences generalizing s with
  | nil =>
      obtain rfl : s = s' := Except.ok.inj hloop
      rfl
  | cons o rest ih =>
      rw [List.foldlM_cons] at hloop
      cases hfirst : handle s o with
      | error e =>
          rw [hfirst] at hloop
          contradiction
      | ok next =>
          rw [hfirst] at hloop
          rw [optionLoop_cons (hhandle o List.mem_cons_self s next hfirst)]
          exact ih (fun o' ho' => hhandle o' (List.mem_cons_of_mem o ho')) hloop

/-- A loop that fails does so in one of its handlers. -/
theorem optionLoop_error {ε σ : Type} {handle : σ → Occurrence → Except ε σ}
    {occurrences : List Occurrence} {s : σ} {e : ε}
    (hloop : occurrences.foldlM handle s = .error e) :
    ∃ s' o, handle s' o = .error e := by
  induction occurrences generalizing s with
  | nil => contradiction
  | cons o rest ih =>
      rw [List.foldlM_cons] at hloop
      cases hfirst : handle s o with
      | error e' =>
          rw [hfirst] at hloop
          obtain rfl : e' = e := Except.error.inj hloop
          exact ⟨s, o, hfirst⟩
      | ok next =>
          rw [hfirst] at hloop
          exact ih hloop

/-! The order of the options. -/

section Order

variable {ε σ F V : Type} {handle : σ → Occurrence → Except ε σ}
  {field : Occurrence → Option F} {setting : Occurrence → Option V}
  {kind : V → F} {put : V → σ → σ}

/-- Handlers that each put a setting of their own into the variables, read from
the occurrence alone.  Settings of different fields do not see each other. -/
structure Independent (handle : σ → Occurrence → Except ε σ)
    (field : Occurrence → Option F) (setting : Occurrence → Option V)
    (kind : V → F) (put : V → σ → σ) : Prop where
  handled : ∀ s o, (handle s o).toOption = (setting o).map fun v => put v s
  named : ∀ o v, setting o = some v → field o = some (kind v)
  commute : ∀ v v', kind v ≠ kind v' →
    ∀ s, put v (put v' s) = put v' (put v s)

theorem Independent.loop_cons (h : Independent handle field setting kind put)
    (o : Occurrence) (rest : List Occurrence) (s : σ) :
    ((o :: rest).foldlM handle s).toOption = (setting o).bind fun v =>
      (rest.foldlM handle (put v s)).toOption := by
  have hfirst := h.handled s o
  rw [List.foldlM_cons]
  cases hhandle : handle s o with
  | error e =>
      rw [hhandle] at hfirst
      cases hsetting : setting o with
      | none => rfl
      | some v =>
          rw [hsetting] at hfirst
          contradiction
  | ok next =>
      rw [hhandle] at hfirst
      cases hsetting : setting o with
      | none =>
          rw [hsetting] at hfirst
          contradiction
      | some v =>
          rw [hsetting] at hfirst
          obtain rfl : next = put v s := Option.some.inj hfirst
          rfl

/-- Where no field is set twice, the order of the options does not matter. -/
theorem Independent.loop_perm (h : Independent handle field setting kind put)
    {occurrences reordered : List Occurrence}
    (hperm : occurrences.Perm reordered)
    (hnodup : (occurrences.filterMap field).Nodup) (s : σ) :
    (occurrences.foldlM handle s).toOption =
      (reordered.foldlM handle s).toOption := by
  induction hperm generalizing s with
  | nil => rfl
  | cons o _ ih =>
      rw [h.loop_cons, h.loop_cons]
      congr 1
      funext v
      apply ih
      rw [← List.singleton_append, List.filterMap_append] at hnodup
      exact hnodup.of_append_right
  | swap o o' rest =>
      simp only [h.loop_cons]
      cases hsetting : setting o with
      | none => cases setting o' <;> rfl
      | some v =>
          cases hsetting' : setting o' with
          | none => rfl
          | some v' =>
              have hapart : kind v ≠ kind v' := by
                intro hsame
                simp [h.named o v hsetting, h.named o' v' hsetting', hsame]
                  at hnodup
              simp only [Option.bind_some, h.commute v v' hapart s]
  | trans hfirst _ ih ih' =>
      have hmiddle := (hfirst.filterMap field).nodup_iff.mp hnodup
      exact (ih hnodup s).trans (ih' hmiddle s)

end Order

end Getopt
