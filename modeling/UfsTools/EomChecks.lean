/-
What `main` of ufseom asks a device before it measures anything, and what its
checks have established when they let it go on.
-/
import UfsTools.EomScan

namespace UfsTools

open CLib Process

variable {m m' m'' : Machine EomGlobals} {h h' : History}

/-- From `m` to `m'` the program sent reads only, whatever became of its
variables. -/
structure Asks (m m' : Machine EomGlobals) (h : History) : Prop where
  leaves : Leaves discreet m m'
  history : exchangesOf m'.trace = exchangesOf m.trace ++ requestsOf h
  gets : Gets h

/-- Talking that only reads is asking. -/
theorem Talks.asks (ht : Talks m m' h) (hgets : Gets h) : Asks m m' h :=
  ⟨ht.leaves, ht.history, hgets⟩

theorem Asks.refl (m : Machine EomGlobals) : Asks m m [] :=
  (Talks.refl m).asks gets_nil

/-- Asking in two steps. -/
theorem Asks.trans (hleft : Asks m m' h) (hright : Asks m' m'' h') :
    Asks m m'' (h ++ h') := by
  refine ⟨hleft.leaves.trans hright.leaves, ?_,
    hleft.gets.append hright.gets⟩
  rw [hright.history, hleft.history, requestsOf, requestsOf, requestsOf,
    List.map_append, List.append_assoc]

/-- A step that sends nothing. -/
theorem Asks.step (hleft : Asks m m' h) (hright : Talks m' m'' []) :
    Asks m m'' h := by
  have hboth := hleft.trans (hright.asks gets_nil)
  rwa [List.append_nil] at hboth

theorem Asks.note (hasks : Asks m m' h) {n : Note} (hn : discreet n = true) :
    Asks m { m' with trace := m'.trace ++ [.note n] } h :=
  hasks.step (Talks.of_note hn)

/-- A variable set after asking. -/
theorem Asks.modify (hasks : Asks m m' h) (g : EomGlobals) :
    Asks m { m' with mem := g } h :=
  ⟨⟨hasks.leaves.notes⟩, hasks.history, hasks.gets⟩

theorem discreet_close (fd : Int) : discreet (.close fd) = true := rfl

/-! What is read. -/

/-- The variables that a command line leaves, without those that `main` fills
in before its loops. -/
def EomGlobals.given (g : EomGlobals) : EomGlobals :=
  { g with
    tmpFd := 0
    eomData := { g.eomData with
      timingMaxSteps := 0, timingMaxOffset := 0, voltageMaxSteps := 0
      voltageMaxOffset := 0, gear := 0, rate := 0 } }

/-- The side and the first lane of a measurement. -/
def EomGlobals.target (g : EomGlobals) : Side × Int :=
  (g.eomData.localPeer, g.lane)

/-- A register of the first lane was read, and `value` is what came back. -/
structure LaneReads (g : EomGlobals) (attr value : Int) (h : History) :
    Prop where
  read : ∃ x ∈ h, Reads (eyeMonitorGet attr g.eomData.localPeer g.lane) value x
  bounds : 0 ≤ value ∧ value ≤ intMax

/-- The limits of the first lane are read, and the ranges lie within them. -/
structure Measurable (g g' : EomGlobals) (h : History) : Prop where
  ranges : ∃ g₁ : EomGlobals, g₁.given = g.given ∧
    g' = timingVoltageDefaults g₁
  accepted : timingVoltageError g' = none
  timing : LaneReads g' rxEyemonTimingMaxStepsCapability
    g'.eomData.timingMaxSteps h
  voltage : LaneReads g' rxEyemonVoltageMaxStepsCapability
    g'.eomData.voltageMaxSteps h

/-- The first lane has an eye monitor, too. -/
structure Checked (g g' : EomGlobals) (h : History) : Prop
    extends Measurable g g' h where
  capability : ∃ value, LaneReads g' rxEyemonCapability value h ∧
    UInt32.ofInt value &&& 0x1 ≠ 0

variable {g g' g'' : EomGlobals} {attr value : Int}

/-- One successful read of the register is enough. -/
theorem LaneReads.of_reads {x : UicCommand × SysReply} (hx : x ∈ h)
    (hread : Reads (eyeMonitorGet attr g.eomData.localPeer g.lane) value x)
    (hbounds : 0 ≤ value ∧ value ≤ intMax) (htarget : g'.target = g.target) :
    LaneReads g' attr value h := by
  obtain ⟨hpeer, hlane⟩ := Prod.mk.inj htarget
  rw [← hpeer, ← hlane] at hread
  exact ⟨⟨x, hx, hread⟩, hbounds⟩

/-- A read of a part of the history is one of the whole. -/
theorem LaneReads.mono (hread : LaneReads g attr value h) (hsub : h ⊆ h') :
    LaneReads g attr value h' := by
  obtain ⟨x, hx, hreads⟩ := hread.read
  exact ⟨⟨x, hsub hx, hreads⟩, hread.bounds⟩

theorem Measurable.mono (hmeasurable : Measurable g g' h) (hsub : h ⊆ h')
    (hgiven : g.given = g''.given) : Measurable g'' g' h' := by
  obtain ⟨g₁, hg₁, heq⟩ := hmeasurable.ranges
  exact ⟨⟨g₁, hg₁.trans hgiven, heq⟩, hmeasurable.accepted,
    hmeasurable.timing.mono hsub, hmeasurable.voltage.mono hsub⟩

/-! The steps before the loops, up to the call of `scan_and_report` or the way
out. -/

variable {Q : Int → Machine EomGlobals → Prop}
  {E : Halt → Machine EomGlobals → Prop}

/-- What the sanity check lets through. -/
theorem timingVoltage_ordered (hcheck : timingVoltageError g = none) :
    g.timingLeft ≤ g.timingRight ∧ g.voltageLow ≤ g.voltageHigh := by
  simp only [timingVoltageError] at hcheck
  split_ifs at hcheck with h₁ h₂ h₃ h₄
  exact ⟨not_lt.mp h₄, not_lt.mp h₃⟩

/-- The four messages on ranges are discreet. -/
theorem discreet_timingVoltageError {message : Text}
    (hcheck : timingVoltageError g = some message) :
    discreet (prErr message) = true := by
  simp only [timingVoltageError, invalidRange] at hcheck
  split_ifs at hcheck <;> (obtain rfl := Option.some.inj hcheck; rfl)

/-- The check of the ranges asks nothing: it ends at once, with the first
message that applies. -/
theorem timingVoltageSanityCheck_run (replies : List SysReply)
    (trace : List (Event SysCall SysReply Note)) (g : EomGlobals) :
    timingVoltageSanityCheck ⟨replies, trace, g⟩ =
      match timingVoltageError (timingVoltageDefaults g) with
      | some message => .done error
          ⟨replies, trace ++ [.note (prErr message)], timingVoltageDefaults g⟩
      | none => .done success ⟨replies, trace, timingVoltageDefaults g⟩ := by
  rw [timingVoltageSanityCheck, modify_bind, get_bind]
  dsimp only
  cases timingVoltageError (timingVoltageDefaults g) <;> rfl

/-- The checks of the ranges ask nothing of the device: they fill in what was
not given, and go on to the scan or to the way out. -/
theorem goesOn_checkAndScan (file : Text) (g : EomGlobals) :
    ∃ entries, (∀ n ∈ entries, discreet n = true) ∧
      GoesOn (checkAndScan file)
        (if timingVoltageError (timingVoltageDefaults g) = none then
          scanAndReport file
        else pure error) g entries (timingVoltageDefaults g) := by
  have herror : error ≠ 0 := by decide
  cases hcheck : timingVoltageError (timingVoltageDefaults g) with
  | some message =>
      refine ⟨verboseEntries g ?texts ++ [prErr message,
        prErr (lit "Timing or voltage is invalid\n")], ?discreet, ?run⟩
      case run =>
        intro replies trace
        have hrun (trace) := timingVoltageSanityCheck_run replies trace g
        simp only [hcheck] at hrun
        rw [checkAndScan, get_bind]
        dsimp only
        rw [verboseNotes_bind, bind_done (hrun _), if_pos herror,
          if_neg (Option.some_ne_none message), List.map_append,
          ← List.append_assoc]
        simp only [note, notes, bind, pure, List.map_cons, List.map_nil,
          List.append_assoc, List.cons_append, List.nil_append]
        rfl
      case discreet =>
        rw [List.forall_mem_append, List.forall_mem_cons,
          List.forall_mem_singleton]
        exact ⟨discreet_verboseEntries g _,
          discreet_timingVoltageError hcheck, rfl⟩
  | none =>
      refine ⟨verboseEntries g ?texts ++
        verboseEntries (timingVoltageDefaults g) ?ranges, ?discreet, ?run⟩
      case run =>
        intro replies trace
        have hrun (trace) := timingVoltageSanityCheck_run replies trace g
        simp only [hcheck] at hrun
        rw [checkAndScan, get_bind]
        dsimp only
        have hsuccess : ¬ success ≠ 0 := by decide
        rw [verboseNotes_bind, bind_done (hrun _), if_neg hsuccess, get_bind]
        dsimp only
        rw [verboseNotes_bind, List.map_append, List.append_assoc, if_pos rfl]
      case discreet =>
        rw [List.forall_mem_append]
        exact ⟨discreet_verboseEntries g _, discreet_verboseEntries _ _⟩

/-- A capability that was read is stored as it was sent. -/
theorem wp_readCapability {name : String} {record : EOMData → Int → EOMData}
    {next : Prog EomGlobals Int}
    (hquit : ∀ x m', Asks m m' [x] → Q error m') (hwait : E .waiting m)
    (hnext : ∀ x value m', Asks m m' [x] →
      m'.mem = { m.mem with eomData := record m.mem.eomData value } →
      Reads (eyeMonitorGet attr m.mem.eomData.localPeer m.mem.lane) value x →
      0 ≤ value ∧ value ≤ intMax → wp next Q E m') :
    wp (readCapability attr name record next) Q E m := by
  simp only [readCapability, wp_bind, wp_get]
  refine wp_readRegister (fun _ => rfl) ?_ ?_ hwait
  · intro x m₁ value ht hread hbounds
    simp only [wp_bind, wp_modify]
    have hasks := ht.asks (gets_singleton hread.command)
    apply hnext x value _ (hasks.modify _) _ hread hbounds
    rw [ht.mem]
  · intro x m₁ ht hcommand _
    exact hquit x m₁ (ht.asks (gets_singleton hcommand))

/-- The four capabilities, and the ranges against them. -/
theorem wp_measureEye (hquit : ∀ h m', Asks m m' h → Q error m')
    (hwait : ∀ h m', Asks m m' h → E .waiting m')
    (hscan : ∀ file h m', Asks m m' h → Measurable m.mem m'.mem h →
      wp (scanAndReport file) Q E m') : wp measureEye Q E m := by
  simp only [measureEye, wp_bind, wp_get]
  apply wp_readCapability (fun x m' => hquit [x] m') (hwait [] m (.refl m))
  intro x₁ timing m₁ ha₁ hm₁ hr₁ hb₁
  apply wp_readCapability (fun x m' ha => hquit _ m' (ha₁.trans ha))
    (hwait _ m₁ ha₁)
  intro x₂ timingOffset m₂ ha hm₂ _ _
  have ha₂ := ha₁.trans ha
  apply wp_readCapability (fun x m' ha => hquit _ m' (ha₂.trans ha))
    (hwait _ m₂ ha₂)
  intro x₃ voltage m₃ ha hm₃ hr₃ hb₃
  have ha₃ := ha₂.trans ha
  apply wp_readCapability (fun x m' ha => hquit _ m' (ha₃.trans ha))
    (hwait _ m₃ ha₃)
  intro x₄ voltageOffset m₄ ha hm₄ _ _
  have ha₄ := ha₃.trans ha
  have htarget₂ : m₂.mem.target = m.mem.target := by
    simp only [EomGlobals.target, hm₂, hm₁]
  have hgiven₄ : m₄.mem.given = m.mem.given := by
    simp only [EomGlobals.given, hm₄, hm₃, hm₂, hm₁]
  obtain ⟨entries, hdiscreet, hgoes⟩ := goesOn_checkAndScan
    (m.mem.outputPath ++ eomFileName m.mem) m₄.mem
  apply hgoes.wp
  have hnoted := (ha₄.step (Talks.of_notes hdiscreet)).modify
    (timingVoltageDefaults m₄.mem)
  split_ifs with hcheck
  · apply hscan _ _ _ hnoted
    have htarget : (timingVoltageDefaults m₄.mem).target = m.mem.target :=
      congrArg (fun g => g.target) hgiven₄
    have htiming : timing =
        (timingVoltageDefaults m₄.mem).eomData.timingMaxSteps := by
      simp only [timingVoltageDefaults, hm₄, hm₃, hm₂, hm₁]
    have hvoltage : voltage =
        (timingVoltageDefaults m₄.mem).eomData.voltageMaxSteps := by
      simp only [timingVoltageDefaults, hm₄, hm₃]
    rw [htiming] at hr₁ hb₁
    rw [hvoltage] at hr₃ hb₃
    constructor
    · exact ⟨m₄.mem, hgiven₄, rfl⟩
    · exact hcheck
    · exact .of_reads (by simp) hr₁ hb₁ htarget
    · exact .of_reads (by simp) hr₃ hb₃ (htarget.trans htarget₂.symm)
  · rw [wp_pure]
    exact hquit _ _ hnoted

/-- Behind `close_tmp`. -/
def TmpClosed (Q : Int → Machine EomGlobals → Prop) (ret : Int)
    (m : Machine EomGlobals) : Prop :=
  Q ret { m with trace := m.trace ++ [.note (.close m.mem.tmpFd)] }

theorem wp_closeTmp {ret : Int} :
    wp (closeTmp ret) Q E m ↔ TmpClosed Q ret m := by
  simp only [closeTmp, wp_bind, wp_get, wp_note, wp_pure, TmpClosed]

theorem Asks.tmpClosed (hquit : ∀ h m', Asks m m' h → Q error m')
    (hasks : Asks m m' h) : TmpClosed Q error m' :=
  hquit h _ (hasks.note (discreet_close _))

/-- However the measuring ends, the temporary file is closed. -/
theorem wp_measureAndClose (hquit : ∀ h m', Asks m m' h → Q error m')
    (hwait : ∀ h m', Asks m m' h → E .waiting m')
    (hscan : ∀ file h m', Asks m m' h → Measurable m.mem m'.mem h →
      wp (scanAndReport file) (TmpClosed Q) E m') :
    wp (do
        let ret ← measureEye
        closeTmp ret) Q E m := by
  have hmeasure := wp_measureEye (Q := TmpClosed Q)
    (fun _ _ hasks => hasks.tmpClosed hquit) hwait hscan
  rw [wp_bind]
  exact wp_imp hmeasure fun _ _ hclosed => wp_closeTmp.mpr hclosed

/-- For traffic on the link a temporary file is opened first. -/
theorem wp_prepareIo (hquit : ∀ h m', Asks m m' h → Q error m')
    (hwait : ∀ h m', Asks m m' h → E .waiting m')
    (hscan : ∀ file h m', Asks m m' h → Measurable m.mem m'.mem h →
      wp (scanAndReport file) (TmpClosed Q) E m') :
    wp prepareIo Q E m := by
  rw [prepareIo, wp_bind, wp_get]
  split_ifs with hio
  · rw [wp_bind]
    apply wp_sysCall (by simp) _ (hwait [] m (.refl m))
    intro tmpFd m₁ hm₁
    have ha₁ := hm₁.asks gets_nil
    rw [wp_bind, wp_modify]
    have ha₂ := ha₁.modify { m₁.mem with tmpFd := tmpFd }
    split_ifs with hopen
    · simp only [wp_bind, wp_note, wp_pure]
      exact hquit [] _ (ha₂.note rfl)
    · rw [wp_bind]
      apply wp_sysCall (by simp) _ (hwait [] _ ha₂)
      intro tmpBuf m₃ hm₃
      have ha₃ := ha₂.step hm₃
      split_ifs with halloc
      · rw [wp_bind, wp_note, wp_closeTmp]
        exact (ha₃.note rfl).tmpClosed hquit
      · have hgiven : m₃.mem.given = m.mem.given := by
          simp only [EomGlobals.given, hm₃.mem, hm₁.mem]
        apply wp_measureAndClose
        · exact fun h m' ha => hquit _ m' (ha₃.trans ha)
        · exact fun h m' ha => hwait _ m' (ha₃.trans ha)
        · intro file h m' ha hmeasurable
          exact hscan file _ m' (ha₃.trans ha)
            (hmeasurable.mono (List.Subset.refl h) hgiven)
  · exact wp_measureAndClose hquit hwait hscan

/-- A run of the checks: out, or on to the loops with all that they have
established. -/
theorem wp_checkLink_checked (hquit : ∀ h m', Asks m m' h → Q error m')
    (hwait : ∀ h m', Asks m m' h → E .waiting m')
    (hscan : ∀ file h m', Asks m m' h → Checked m.mem m'.mem h →
      wp (scanAndReport file) (TmpClosed Q) E m') :
    wp checkLink Q E m := by
  rw [checkLink, wp_bind, wp_get]
  refine wp_readRegister (fun _ => rfl) ?_
    (fun x m' ht hcommand _ => hquit _ m' (ht.asks (gets_singleton hcommand)))
    (hwait [] m (.refl m))
  intro x m₁ eomCap hm₁ hcap hbounds
  have ha₁ := hm₁.asks (gets_singleton hcap.command)
  split_ifs with hbit
  · simp only [wp_bind, wp_note, wp_pure]
    exact hquit _ _ (ha₁.note rfl)
  refine wp_readRegister (fun _ => rfl) ?_
    (fun y m' ht hcommand _ =>
      hquit _ m' (ha₁.trans (ht.asks (gets_singleton hcommand))))
    (hwait _ m₁ ha₁)
  intro y m₂ curGear hm₂ hgear _
  have ha₂ := ha₁.trans (hm₂.asks (gets_singleton hgear.command))
  rw [wp_bind]
  apply wp_verboseNotes
  intro m₃ hm₃
  have ha₃ := ha₂.step hm₃
  split_ifs with hlow
  · simp only [wp_bind, wp_note, wp_pure]
    exact hquit _ _ (ha₃.note rfl)
  rw [wp_bind, wp_modify]
  have ha₄ := ha₃.modify
    { m₃.mem with eomData := { m₃.mem.eomData with gear := curGear } }
  refine wp_readRegister (fun _ => rfl) ?_
    (fun z m' ht hcommand _ =>
      hquit _ m' (ha₄.trans (ht.asks (gets_singleton hcommand))))
    (hwait _ _ ha₄)
  intro z m₅ curRate hm₅ hrate _
  have ha₅ := ha₄.trans (hm₅.asks (gets_singleton hrate.command))
  rw [wp_bind]
  apply wp_verboseNotes
  intro m₆ hm₆
  have ha₆ := ha₅.step hm₆
  rw [wp_bind, wp_modify]
  have ha₇ := ha₆.modify
    { m₆.mem with eomData := { m₆.mem.eomData with rate := curRate } }
  have hgiven : EomGlobals.given
      { m₆.mem with eomData := { m₆.mem.eomData with rate := curRate } } =
        m.mem.given := by
    simp only [EomGlobals.given, hm₆.mem, hm₅.mem, hm₃.mem, hm₂.mem, hm₁.mem]
  apply wp_prepareIo
  · exact fun h m' ha => hquit _ m' (ha₇.trans ha)
  · exact fun h m' ha => hwait _ m' (ha₇.trans ha)
  · intro file h m' ha hmeasurable
    apply hscan file _ m' (ha₇.trans ha)
    have hall := hmeasurable.mono
      (List.subset_append_right ([x] ++ [y] ++ [z]) h) hgiven
    refine ⟨hall, eomCap, ?_, hbit⟩
    obtain ⟨g₁, hg₁, heq⟩ := hall.ranges
    apply LaneReads.of_reads (by simp) hcap hbounds
    rw [heq]
    exact congrArg (fun g => g.target) hg₁

end UfsTools
