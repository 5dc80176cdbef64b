/-
What a run of `ufs-eom.py` writes to its report, whatever the commands it runs
answer.
-/
import UfsTools.EomScript

namespace UfsTools

open CLib PyText Process

variable {m m' m'' : ScriptMachine}

/-- Running a command reports nothing. -/
theorem entriesOf_call (c : AdbCall) (r : AdbReply) (rest : List AdbReply) :
    entriesOf ⟨rest, m.trace ++ [.call c r], m.mem⟩ = entriesOf m := by
  simp [entriesOf]

/-- Of the notes those of the report count. -/
theorem entriesOf_notes (ns : List ScriptNote) :
    entriesOf { m with trace := m.trace ++ ns.map .note } =
      entriesOf m ++ ns.filter ScriptNote.inReport := by
  simp [entriesOf, List.filterMap_map, ← List.filterMap_eq_filter,
    Option.guard]

theorem entriesOf_note (n : ScriptNote) :
    entriesOf { m with trace := m.trace ++ [.note n] } =
      entriesOf m ++ [n].filter ScriptNote.inReport :=
  entriesOf_notes [n]

/-- What is printed on the console is not in the report. -/
theorem entriesOf_console (text : Text) :
    entriesOf { m with trace := m.trace ++ [.note (.console text)] } =
      entriesOf m := by
  simp [entriesOf_note, ScriptNote.inReport]

theorem entriesOf_modify (g : EomScript) :
    entriesOf { m with mem := g } = entriesOf m := rfl

/-- From `m` to `m'` at least one command was run and nothing reported. -/
structure Asked (m m' : ScriptMachine) : Prop where
  replies : m'.replies.length < m.replies.length
  entries : entriesOf m' = entriesOf m

/-- From `m` to `m'` only records were reported. -/
def Recorded (m m' : ScriptMachine) : Prop :=
  ∃ records : List EomResult,
    entriesOf m' = entriesOf m ++ records.map .record

theorem Recorded.of_eq (h : entriesOf m' = entriesOf m) : Recorded m m' :=
  ⟨[], by simp [h]⟩

/-- Records of two steps in a row. -/
theorem Recorded.trans (h : Recorded m m') (h' : Recorded m' m'') :
    Recorded m m'' := by
  obtain ⟨records, hrecords⟩ := h
  obtain ⟨records', hrecords'⟩ := h'
  exact ⟨records ++ records', by simp [hrecords', hrecords]⟩

/-! One rule for each function that runs a command. -/

/-- Every command takes one reply. -/
theorem wp_ask {c : AdbCall} {Q : AdbReply → ScriptMachine → Prop}
    (h : ∀ r m', Asked m m' → Q r m') :
    wp (call c) Q (fun _ _ => True) m := by
  apply wp_call
  · exact fun _ => trivial
  · intro r rest hreplies
    apply h
    constructor
    · simp [hreplies]
    · exact entriesOf_call c r rest

/-- A command that fails ends the script. -/
theorem wp_checkOutput {command : Text} {Q : Text → ScriptMachine → Prop}
    (h : ∀ output m', Asked m m' → Q output m') :
    wp (checkOutput command) Q (fun _ _ => True) m := by
  rw [checkOutput, wp_bind]
  apply wp_ask
  intro r m' hm'
  split
  · rw [wp_fault]
    trivial
  · rw [wp_pure]
    exact h _ m' hm'

theorem wp_queryDesc {idn index : Nat} {Q : Text → ScriptMachine → Prop}
    (h : ∀ desc m', Asked m m' → Q desc m') :
    wp (LsufsCli.queryDesc idn index) Q (fun _ _ => True) m := by
  rw [LsufsCli.queryDesc, wp_bind, wp_get]
  exact wp_checkOutput h

theorem wp_uicSet {lane : Option Int} {index value : Nat}
    {selecDirec : String} {sideOverride : Bool}
    {Q : Unit → ScriptMachine → Prop} (h : ∀ m', Asked m m' → Q () m') :
    wp (LsufsCli.uicSet lane index value selecDirec sideOverride) Q
      (fun _ _ => True) m := by
  rw [LsufsCli.uicSet, wp_bind, wp_get, wp_bind]
  apply wp_ask
  intro r m' hm'
  rw [wp_pure]
  exact h m' hm'

/-- The output may hold no value, but the command was run. -/
theorem wp_uicGet {lane : Int} {index : Nat}
    {Q : Option Nat → ScriptMachine → Prop}
    (h : ∀ value m', Asked m m' → Q value m') :
    wp (LsufsCli.uicGet lane index) Q (fun _ _ => True) m := by
  rw [LsufsCli.uicGet, wp_bind, wp_get, wp_bind]
  apply wp_checkOutput
  intro output m' hm'
  split
  · rw [wp_fault]
    trivial
  · rw [wp_pure]
    exact h _ m' hm'

theorem wp_orRaise {α : Type} {x : Option α} {Q : α → ScriptMachine → Prop}
    (h : ∀ a, Q a m) : wp (orRaise x) Q (fun _ _ => True) m := by
  cases x with
  | none =>
      rw [orRaise, wp_fault]
      trivial
  | some a =>
      rw [orRaise, wp_pure]
      exact h a

/-! The scan. -/

/-- One round of the wait: a record at most, on any output of the three reads.
-/
theorem UFSEOM.wp_scanRound {lane timing voltage targetTestCount : Int} :
    wp (UFSEOM.scanRound lane timing voltage targetTestCount)
      (fun _ m' => m'.replies.length < m.replies.length ∧ Recorded m m')
      (fun _ _ => True) m := by
  rw [UFSEOM.scanRound, wp_bind]
  apply wp_uicGet
  intro eyemonStart m₁ h₁
  split_ifs
  · rw [wp_pure]
    exact ⟨h₁.replies, .of_eq h₁.entries⟩
  · rw [wp_bind]
    apply wp_uicGet
    intro testCount m₂ h₂
    rw [wp_bind]
    apply wp_uicGet
    intro errCount m₃ h₃
    have hless : m₃.replies.length < m.replies.length :=
      h₃.replies.trans (h₂.replies.trans h₁.replies)
    have hsame : entriesOf m₃ = entriesOf m := by
      rw [h₃.entries, h₂.entries, h₁.entries]
    split
    · next testCount errCount =>
        split_ifs
        · rw [wp_bind, wp_note, wp_pure]
          exact ⟨hless, [⟨lane, timing, voltage, errCount⟩], by
            rw [entriesOf_note, hsame]; rfl⟩
        · rw [wp_pure]
          exact ⟨hless, .of_eq hsame⟩
    · rw [wp_bind, wp_note, wp_pure]
      exact ⟨hless, .of_eq (by rw [entriesOf_console, hsame])⟩
  · rw [wp_bind, wp_note, wp_pure]
    exact ⟨h₁.replies, .of_eq (by rw [entriesOf_console, h₁.entries])⟩

/-- A round takes a reply, so that the wait ends with the replies. -/
theorem UFSEOM.consumes_scanRound (lane timing voltage targetTestCount : Int) :
    Consumes (UFSEOM.scanRound lane timing voltage targetTestCount) := by
  intro m
  apply wp_imp UFSEOM.wp_scanRound
  exact fun out m' h _ => h.1

/-- The six sets report nothing. -/
theorem UFSEOM.wp_configEom {lane targetTestCount : Int}
    {timingConfig voltageConfig : Nat} {Q : Unit → ScriptMachine → Prop}
    (h : ∀ m', entriesOf m' = entriesOf m → Q () m') :
    wp (UFSEOM.configEom lane timingConfig voltageConfig targetTestCount) Q
      (fun _ _ => True) m := by
  rw [UFSEOM.configEom, wp_bind]
  apply wp_uicSet
  intro m₁ h₁
  rw [wp_bind]
  apply wp_uicSet
  intro m₂ h₂
  rw [wp_bind]
  apply wp_uicSet
  intro m₃ h₃
  rw [wp_bind]
  apply wp_uicSet
  intro m₄ h₄
  rw [wp_bind]
  apply wp_uicSet
  intro m₅ h₅
  apply wp_uicSet
  intro m₆ h₆
  apply h
  rw [h₆.entries, h₅.entries, h₄.entries, h₃.entries, h₂.entries, h₁.entries]

/-- The measuring of one point; the invariant of the wait is that only records
were reported. -/
theorem UFSEOM.wp_eomScan {lane timing voltage : Int} :
    wp (UFSEOM.eomScan lane timing voltage) (fun _ m' => Recorded m m')
      (fun _ _ => True) m := by
  rw [UFSEOM.eomScan, wp_bind, wp_get, wp_bind]
  apply UFSEOM.wp_configEom
  intro m₁ h₁
  apply wp_loop (UFSEOM.consumes_scanRound lane timing voltage _) (Recorded m)
  · intro m₂ h₂
    apply wp_imp UFSEOM.wp_scanRound
    rintro (_ | out) m₃ ⟨-, h₃⟩
    · exact h₂.trans h₃
    · exact h₂.trans h₃
  · exact .of_eq h₁

/-- A loop over rounds that record only records only. -/
theorem wp_forEach_recorded {α : Type} {body : α → Script Unit} {xs : List α}
    (hround : ∀ x m, wp (body x) (fun _ m' => Recorded m m')
      (fun _ _ => True) m) :
    wp (forEach body xs) (fun _ m' => Recorded m m') (fun _ _ => True) m := by
  apply wp_forEach (Recorded m)
  · intro x _ m₁ h₁
    apply wp_imp (hround x m₁)
    exact fun _ m₂ h₂ => h₁.trans h₂
  · exact .of_eq rfl

/-- Both loops over one lane. -/
theorem UFSEOM.wp_scanLane {lane : Int} :
    wp (UFSEOM.scanLane lane) (fun _ m' => Recorded m m')
      (fun _ _ => True) m := by
  rw [UFSEOM.scanLane, wp_bind]
  apply wp_uicSet
  intro m₁ h₁
  rw [wp_bind, wp_get, wp_bind]
  apply wp_orRaise
  intro timingMaxSteps
  have hlast : ∀ m₂, Recorded m₁ m₂ →
      wp (LsufsCli.uicSet lane 0xf6 0x0 "RX" false) (fun _ m' => Recorded m m')
        (fun _ _ => True) m₂ := by
    intro m₂ h₂
    apply wp_uicSet
    intro m₃ h₃
    exact (Recorded.of_eq h₁.entries).trans (h₂.trans (.of_eq h₃.entries))
  split
  · rw [wp_bind]
    apply wp_imp (wp_forEach_recorded _)
    · exact fun _ => hlast
    · intro timing m
      rw [wp_bind]
      apply wp_orRaise
      intro voltageMax
      exact UFSEOM.wp_eomScan
  · rw [wp_bind]
    apply wp_imp (wp_forEach_recorded _)
    · exact fun _ => hlast
    · intro timing m
      rw [wp_bind]
      apply wp_orRaise
      intro voltageMax
      apply wp_forEach_recorded
      intro voltage m
      exact UFSEOM.wp_eomScan

/-- The lines of a scan. -/
def scanNotes (side : Text) (records : List EomResult) (micros : Int) :
    List ScriptNote :=
  sideNote side :: (records.map .record ++ [.report (finishedText micros)])

/-- The whole scan adds records to the report. -/
theorem UFSEOM.wp_eomStart :
    wp UFSEOM.eomStart (fun _ m' => ∃ side records micros,
      entriesOf m' = entriesOf m ++ scanNotes side records micros)
      (fun _ _ => True) m := by
  rw [UFSEOM.eomStart, wp_bind]
  apply wp_ask
  intro start m₁ h₁
  rw [wp_bind, wp_get, wp_bind, wp_note, wp_bind, wp_note, wp_bind]
  apply wp_imp (wp_forEach_recorded fun lane m => UFSEOM.wp_scanLane)
  rintro - m₂ ⟨records, h₂⟩
  rw [wp_bind]
  apply wp_ask
  intro finish m₃ h₃
  rw [wp_bind, wp_note, wp_note]
  refine ⟨m₁.mem.side, records, finish.clock - start.clock, ?_⟩
  rw [entriesOf_note, entriesOf_console, h₃.entries, h₂, entriesOf_note,
    entriesOf_console, h₁.entries]
  simp only [scanNotes, List.append_assoc]
  rfl

/-! What stands before the scan. -/

/-- The lines that are written before the scan starts. -/
def headerNotes (mname pname prev : Text) (a b c d : Option Nat) :
    List ScriptNote :=
  .inquiry mname pname prev :: capsNotes a b c d

/-- From `m` to `m'` the lines of the device and its capabilities were
reported. -/
def Announced (m m' : ScriptMachine) : Prop :=
  ∃ mname pname prev a b c d,
    entriesOf m' = entriesOf m ++ headerNotes mname pname prev a b c d

/-- One line with the three strings of the device. -/
theorem EomMisc.wp_getDeviceInfo {Q : Unit → ScriptMachine → Prop}
    (h : ∀ mname pname prev m', entriesOf m' =
      entriesOf m ++ [.inquiry mname pname prev] → Q () m') :
    wp EomMisc.getDeviceInfo Q (fun _ _ => True) m := by
  rw [EomMisc.getDeviceInfo, wp_bind]
  apply wp_queryDesc
  intro deviceDescriptor m₁ h₁
  rw [wp_bind]
  apply wp_orRaise
  intro nameIndex
  rw [wp_bind]
  apply wp_orRaise
  intro productIndex
  rw [wp_bind]
  apply wp_orRaise
  intro revisionIndex
  rw [wp_bind]
  apply wp_queryDesc
  intro nameDesc m₂ h₂
  rw [wp_bind]
  apply wp_orRaise
  intro mname
  rw [wp_bind]
  apply wp_queryDesc
  intro productDesc m₃ h₃
  rw [wp_bind]
  apply wp_orRaise
  intro pname
  rw [wp_bind]
  apply wp_queryDesc
  intro revisionDesc m₄ h₄
  rw [wp_bind]
  apply wp_orRaise
  intro prev
  rw [wp_note]
  apply h mname pname prev
  rw [entriesOf_note, h₄.entries, h₃.entries, h₂.entries, h₁.entries]
  rfl

/-- The four capabilities are reported, found in the output or not. -/
theorem EomMisc.wp_getEomCaps {lane : Int} {Q : Unit → ScriptMachine → Prop}
    (h : ∀ a b c d m', entriesOf m' = entriesOf m ++ capsNotes a b c d →
      Q () m') :
    wp (EomMisc.getEomCaps lane) Q (fun _ _ => True) m := by
  rw [EomMisc.getEomCaps, wp_bind]
  apply wp_uicGet
  intro timingMaxSteps m₁ h₁
  rw [wp_bind, wp_modify, wp_bind]
  apply wp_uicGet
  intro timingMaxOffset m₂ h₂
  rw [wp_bind]
  apply wp_uicGet
  intro voltageMaxSteps m₃ h₃
  rw [wp_bind, wp_modify, wp_bind]
  apply wp_uicGet
  intro voltageMaxOffset m₄ h₄
  rw [wp_notes]
  apply h timingMaxSteps timingMaxOffset voltageMaxSteps voltageMaxOffset
  have hsame : entriesOf m₄ = entriesOf m := by
    rw [h₄.entries, entriesOf_modify, h₃.entries, h₂.entries, entriesOf_modify,
      h₁.entries]
  rw [entriesOf_notes, hsame]
  rfl

theorem EomMisc.wp_determineVoltage {voltage : Option Int}
    {Q : Option (Option Int × Bool) → ScriptMachine → Prop}
    (h : ∀ out m', entriesOf m' = entriesOf m → Q out m') :
    wp (EomMisc.determineVoltage voltage) Q (fun _ _ => True) m := by
  rw [EomMisc.determineVoltage, wp_bind, wp_get]
  cases voltage with
  | none =>
      rw [wp_pure]
      exact h _ m rfl
  | some voltage =>
      rw [wp_bind]
      apply wp_orRaise
      intro voltageMaxSteps
      split
      · rw [wp_bind, wp_note, wp_pure]
        exact h _ _ (entriesOf_console _)
      · rw [wp_pure]
        exact h _ m rfl

theorem wp_exitWith {message : String} {Q : Bool → ScriptMachine → Prop}
    (h : ∀ m', Q false m') :
    wp (exitWith message) Q (fun _ _ => True) m := by
  rw [exitWith, wp_bind, wp_note, wp_pure]
  exact h _

theorem wp_checkPath {path : Text} {Q : Bool → ScriptMachine → Prop}
    (h : ∀ isPath m', entriesOf m' = entriesOf m → Q isPath m') :
    wp (checkPath path) Q (fun _ _ => True) m := by
  rw [checkPath, wp_bind]
  apply wp_ask
  intro r m₁ h₁
  split
  · rw [wp_bind, wp_note, wp_pure]
    apply h
    rw [entriesOf_console, h₁.entries]
  · rw [wp_pure]
    exact h _ m₁ h₁.entries

/-- What the report starts with, before the first record. -/
theorem UFSEOM.wp_openReport {options : EomOptions} {target : Int} :
    wp (UFSEOM.openReport options target)
      (fun ok m' => ok = true → Announced m m') (fun _ _ => True) m := by
  have hmessages :
      (EomMisc.determineLanes options.lane).2.2.2.filter ScriptNote.inReport =
        [] := by
    cases options.lane with
    | none => rfl
    | some lane =>
        rw [EomMisc.determineLanes]
        split_ifs
        · rfl
        · rfl
  rw [UFSEOM.openReport, wp_bind, wp_notes, wp_bind, wp_modify, wp_bind,
    wp_note, wp_bind]
  apply EomMisc.wp_getDeviceInfo
  intro mname pname prev m₁ h₁
  rw [wp_bind]
  apply EomMisc.wp_getEomCaps
  intro a b c d m₂ h₂
  rw [wp_bind]
  apply EomMisc.wp_determineVoltage
  intro out m₃ h₃
  cases out with
  | none =>
      rw [wp_pure]
      intro hok
      contradiction
  | some voltage =>
      rw [wp_bind, wp_modify, wp_pure]
      intro _
      refine ⟨mname, pname, prev, a, b, c, d, ?_⟩
      rw [entriesOf_modify, h₃, h₂, h₁, entriesOf_note, entriesOf_modify,
        entriesOf_notes, hmessages]
      simp [headerNotes, ScriptNote.inReport]

/-- Either the script has ended, or its report is open and holds the header. -/
theorem UFSEOM.wp_eomPrepare {options : EomOptions} :
    wp (UFSEOM.eomPrepare options)
      (fun ok m' => ok = true → Announced m m') (fun _ _ => True) m := by
  have hexit (message : String) (m' : ScriptMachine) :
      wp (exitWith message) (fun ok m'' => ok = true → Announced m m'')
        (fun _ _ => True) m' := by
    apply wp_exitWith
    intro _ hok
    contradiction
  rw [UFSEOM.eomPrepare]
  by_cases hside : options.side = []
  · rw [if_pos hside]
    exact hexit _ m
  rw [if_neg hside]
  by_cases hlsufsPath : options.lsufsPath = []
  · rw [if_pos hlsufsPath]
    exact hexit _ m
  rw [if_neg hlsufsPath]
  by_cases hdevicePath : options.devicePath = []
  · rw [if_pos hdevicePath]
    exact hexit _ m
  rw [if_neg hdevicePath, wp_bind]
  apply wp_checkPath
  intro isLsufsPath m₁ h₁
  cases isLsufsPath with
  | false => exact hexit _ m₁
  | true =>
      rw [if_neg (by decide), wp_bind]
      apply wp_checkPath
      intro isDevicePath m₂ h₂
      cases isDevicePath with
      | false => exact hexit _ m₂
      | true =>
          have hopen (target : Int) :
              wp (UFSEOM.openReport options target)
                (fun ok m' => ok = true → Announced m m')
                (fun _ _ => True) m₂ := by
            apply wp_imp UFSEOM.wp_openReport
            rintro ok m₃ h hok
            rw [Announced, ← h₁, ← h₂]
            exact h hok
          rw [if_neg (by decide)]
          split_ifs
          · exact hexit _ m₂
          · cases options.target with
            | none => exact hopen 0x5D
            | some target =>
                dsimp only
                split_ifs
                · exact hopen target
                · exact hexit _ m₂

/-- What a completed run has written: the device, its capabilities and a
scan. -/
def ScriptWritten (entries : List ScriptNote) : Prop :=
  ∃ mname pname prev a b c d side records micros,
    entries = headerNotes mname pname prev a b c d ++
      scanNotes side records micros

/-- The script writes the same lines in the same order whatever it is told. -/
theorem wp_ufsEomPy {options : EomOptions} (hempty : entriesOf m = []) :
    wp (ufsEomPy options)
      (fun done m' => done = true → ScriptWritten (entriesOf m'))
      (fun _ _ => True) m := by
  rw [ufsEomPy, wp_bind]
  apply wp_imp UFSEOM.wp_eomPrepare
  intro ok m₁ h₁
  cases ok with
  | false =>
      rw [if_neg (by decide), wp_pure]
      intro hdone
      contradiction
  | true =>
      obtain ⟨mname, pname, prev, a, b, c, d, h₁⟩ := h₁ rfl
      rw [if_pos rfl, wp_bind]
      apply wp_imp UFSEOM.wp_eomStart
      rintro - m₂ ⟨side, records, micros, h₂⟩
      rw [wp_pure]
      intro _
      refine ⟨mname, pname, prev, a, b, c, d, side, records, micros, ?_⟩
      rw [h₂, h₁, hempty, List.nil_append]

end UfsTools
