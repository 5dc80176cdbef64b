/-
The mandatory options of ufseom: which of them an accepted command line
contains, and whose side a run measures.
-/
import UfsTools.EomMain

namespace UfsTools

open CLib Getopt

/-- The side a `-p` or `-l` names. -/
def sideOption (o : Occurrence) : Option Side :=
  match o.option with
  | 'p' => some .peerSide
  | 'l' => some .localSide
  | _ => none

/-- The options `getopt_long` finds in a command line of ufseom. -/
def ufseomOptions (argv : List Text) : List Occurrence :=
  getoptLong ufseomShortOptions ufseomLongOptions argv.tail

/-- The sides named on a command line, in order. -/
def sidesGiven (argv : List Text) : List Side :=
  (ufseomOptions argv).filterMap sideOption

def optionGiven (argv : List Text) (c : Char) : Prop :=
  ∃ o ∈ ufseomOptions argv, o.option = c

/-- The help text's mandatory options are there, and the last `-p` or `-l`
counts. -/
structure MandatoryGiven (argv : List Text) (g : EomGlobals) : Prop where
  side : sidesGiven argv ≠ []
  device : optionGiven argv 'd'
  output : optionGiven argv 'o'
  localPeer : (sidesGiven argv).getLast? = some g.eomData.localPeer

/-! One option. -/

/-- What one option leaves of the three variables. -/
structure OptionRead (g : EomGlobals) (o : Occurrence) (g' : EomGlobals) :
    Prop where
  localPeer : g'.eomData.localPeer =
    (sideOption o).getD g.eomData.localPeer
  device : g'.devicePath = g.devicePath ∨ o.option = 'd'
  output : g'.outputPath = g.outputPath ∨ o.option = 'o'

theorem OptionRead.of_frame {g g' : EomGlobals} {o : Occurrence}
    (hside : sideOption o = none)
    (hpeer : g'.eomData.localPeer = g.eomData.localPeer)
    (hdevice : g'.devicePath = g.devicePath)
    (houtput : g'.outputPath = g.outputPath) : OptionRead g o g' := by
  constructor
  · rw [hside, Option.getD_none, hpeer]
  · exact .inl hdevice
  · exact .inl houtput

theorem parseOption_read {g g' : EomGlobals} {o : Occurrence}
    (h : parseOption g o = .ok g') : OptionRead g o g' := by
  obtain ⟨v, hoption, -, rfl⟩ := parseOption_ok h
  cases v with
  | localPeer side =>
      cases side with
      | peerSide => exact ⟨by rw [sideOption, hoption]; rfl, .inl rfl, .inl rfl⟩
      | localSide => exact ⟨by rw [sideOption, hoption]; rfl, .inl rfl, .inl rfl⟩
  | outputPath path =>
      exact ⟨by rw [sideOption, hoption]; rfl, .inl rfl, .inr hoption⟩
  | devicePath path =>
      exact ⟨by rw [sideOption, hoption]; rfl, .inr hoption, .inl rfl⟩
  | _ => exact .of_frame (by rw [sideOption, hoption]; rfl) rfl rfl rfl

/-! The option loop. -/

/-- What the loop leaves of the three variables. -/
structure OptionsRead (g : EomGlobals) (occurrences : List Occurrence)
    (g' : EomGlobals) : Prop where
  localPeer : g'.eomData.localPeer =
    ((occurrences.filterMap sideOption).getLast?).getD g.eomData.localPeer
  device : g'.devicePath = g.devicePath ∨ ∃ o ∈ occurrences, o.option = 'd'
  output : g'.outputPath = g.outputPath ∨ ∃ o ∈ occurrences, o.option = 'o'

theorem OptionRead.cons {g g₁ g' : EomGlobals} {o : Occurrence}
    {rest : List Occurrence} (hfirst : OptionRead g o g₁)
    (hrest : OptionsRead g₁ rest g') : OptionsRead g (o :: rest) g' := by
  constructor
  · rw [hrest.localPeer, hfirst.localPeer]
    cases hside : sideOption o with
    | none => rw [List.filterMap_cons_none hside, Option.getD_none]
    | some side =>
        rw [List.filterMap_cons_some hside, List.getLast?_cons,
          Option.getD_some, Option.getD_some]
  · rcases hrest.device with hsame | ⟨o', ho', hd⟩
    · rcases hfirst.device with hkept | hd
      · exact .inl (hsame.trans hkept)
      · exact .inr ⟨o, List.mem_cons_self, hd⟩
    · exact .inr ⟨o', List.mem_cons_of_mem o ho', hd⟩
  · rcases hrest.output with hsame | ⟨o', ho', hout⟩
    · rcases hfirst.output with hkept | hout
      · exact .inl (hsame.trans hkept)
      · exact .inr ⟨o, List.mem_cons_self, hout⟩
    · exact .inr ⟨o', List.mem_cons_of_mem o ho', hout⟩

theorem optionLoop_read {g g' : EomGlobals} {occurrences : List Occurrence}
    (h : occurrences.foldlM parseOption g = .ok g') :
    OptionsRead g occurrences g' := by
  induction occurrences generalizing g with
  | nil =>
      obtain rfl : g = g' := Except.ok.inj h
      exact ⟨rfl, .inl rfl, .inl rfl⟩
  | cons o rest ih =>
      rw [List.foldlM_cons] at h
      cases hfirst : parseOption g o with
      | error e =>
          rw [hfirst] at h
          contradiction
      | ok g₁ =>
          rw [hfirst] at h
          exact (parseOption_read hfirst).cons (ih h)

/-! The checks behind the loop. -/

/-- The paths are given; the test of `local_peer` fires on neither side. -/
theorem parseDefaults_given {g g' : EomGlobals} {entries : List Note}
    (h : parseDefaults g = .ok (g', entries)) :
    g.devicePath ≠ [] ∧ g.outputPath ≠ [] ∧
      g'.eomData.localPeer = g.eomData.localPeer := by
  simp only [parseDefaults, reject] at h
  split_ifs at h with hpeer hdevice houtput hpath
  obtain ⟨rfl, -⟩ := Prod.mk.inj (Except.ok.inj h)
  exact ⟨hdevice, houtput, rfl⟩

/-- The options of an accepted command line went through the loop and the
checks. -/
theorem parseArgs_loop {argv : List Text} {g g' : EomGlobals}
    {entries : List Note} (h : parseArgs argv g = .ok (g', entries)) :
    ∃ g₁, (ufseomOptions argv).foldlM parseOption g = .ok g₁ ∧
      parseDefaults g₁ = .ok (g', entries) := by
  simp only [parseArgs, reject] at h
  split at h
  · contradiction
  · contradiction
  · split_ifs at h
    split at h
    · contradiction
    · simp only [bind, Except.bind] at h
      split at h
      · contradiction
      · next g₁ hloop => exact ⟨g₁, hloop, h⟩

theorem sideOption_eq_none_iff (o : Occurrence) :
    sideOption o = none ↔ ¬ (o.option = 'p' ∨ o.option = 'l') := by
  rw [sideOption]
  split
  · next hp => simp [hp]
  · next hl => simp [hl]
  · next hp hl => exact iff_of_true rfl fun h => h.elim hp hl

theorem sidesGiven_ne_nil_iff (argv : List Text) :
    sidesGiven argv ≠ [] ↔ optionGiven argv 'p' ∨ optionGiven argv 'l' := by
  rw [ne_eq, sidesGiven, List.filterMap_eq_nil_iff]
  simp only [sideOption_eq_none_iff, not_forall, not_not, exists_prop,
    optionGiven]
  rw [← exists_or]
  simp only [and_or_left]

/-- An accepted command line of ufseom has a device and an output option in any
case.  It has all that is mandatory, and the run measures the side named last,
if and only if it names a side at all. -/
theorem parseArgs_mandatory_iff {argv : List Text} {g : EomGlobals}
    {entries : List Note}
    (h : parseArgs argv (initEomOperation {}) = .ok (g, entries)) :
    MandatoryGiven argv g ↔
      optionGiven argv 'p' ∨ optionGiven argv 'l' := by
  obtain ⟨g₁, hloop, hchecks⟩ := parseArgs_loop h
  obtain ⟨hdevice, houtput, hpeer⟩ := parseDefaults_given hchecks
  have hread := optionLoop_read hloop
  rw [← sidesGiven_ne_nil_iff]
  constructor
  · exact MandatoryGiven.side
  · intro hside
    constructor
    · exact hside
    · exact hread.device.resolve_left hdevice
    · exact hread.output.resolve_left houtput
    · have hlast := List.getLast?_eq_some_getLast hside
      have hkept : g₁.eomData.localPeer = (sidesGiven argv).getLast hside := by
        rw [hread.localPeer, ← sidesGiven, hlast, Option.getD_some]
      rw [hlast, hpeer, hkept]

/-- Both sides, the later of which counts. -/
def peerLine : List Text :=
  [lit "ufseom", lit "-l", lit "-p", lit "-o", lit "/data/", lit "-d",
    lit "/dev/ufs-bsg0"]

/-- The same without a side. -/
def sidelessLine : List Text :=
  [lit "ufseom", lit "-o", lit "/data/", lit "-d", lit "/dev/ufs-bsg0"]

def acceptedGlobals (side : Side) : EomGlobals :=
  { initEomOperation {} with
    eomData := { localPeer := side, numLanes := 2 }
    lane := 0
    targetTestCount := eomTargetTestCountDefault
    outputPath := lit "/data/"
    devicePath := lit "/dev/ufs-bsg0" }

theorem parseArgs_mandatory_peerLine :
    MandatoryGiven peerLine (acceptedGlobals .peerSide) ↔
      optionGiven peerLine 'p' ∨ optionGiven peerLine 'l' := by
  have haccepted : parseArgs peerLine (initEomOperation {}) =
      .ok (acceptedGlobals .peerSide,
        defaultNotes (initEomOperation {})) := by
    decide +kernel
  exact parseArgs_mandatory_iff haccepted

/-- A command line that names no side is accepted. -/
theorem parseArgs_accepts_no_side :
    ¬ ∀ (argv : List Text) (g : EomGlobals) (entries : List Note),
      parseArgs argv (initEomOperation {}) = .ok (g, entries) →
        MandatoryGiven argv g := by
  intro h
  have haccepted : parseArgs sidelessLine (initEomOperation {}) =
      .ok (acceptedGlobals .localSide,
        defaultNotes (initEomOperation {})) := by
    decide +kernel
  have hgiven := h _ _ _ haccepted
  have hnone : sidesGiven sidelessLine = [] := by decide +kernel
  exact hgiven.side hnone

end UfsTools
