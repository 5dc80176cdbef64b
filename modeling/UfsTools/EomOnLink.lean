/-
ufseom on a link with eye monitors: its polls end, and it records for every
point what the eye monitor of the lane counts there.
-/
import UfsTools.EomEncoding
import UfsTools.EyeLink

namespace UfsTools

open CLib Process

abbrev EomMachine (D : Type) := LinkMachine D EomGlobals

variable {D : Type} {link : EyeLink D} {c c' c'' : EomMachine D}

/-- The lines a run has written to its report. -/
def reportLines {S : Type} (c : LinkMachine D S) : List Text :=
  writtenOf (notesOf c.trace)

/-- From `c` to `c'` the program set nothing and changed none of its
variables, and it wrote nothing to its report. -/
structure Looks (link : EyeLink D) (c c' : EomMachine D) : Prop where
  mem : c'.mem = c.mem
  lines : reportLines c' = reportLines c
  calm : link.Calm c.device c'.device

theorem Looks.refl (c : EomMachine D) : Looks link c c :=
  ⟨rfl, rfl, .refl _⟩

/-- Two looks in a row are one. -/
theorem Looks.trans (hleft : Looks link c c') (hright : Looks link c' c'') :
    Looks link c c'' :=
  ⟨hright.mem.trans hleft.mem, hright.lines.trans hleft.lines,
    hleft.calm.trans hright.calm⟩

/-- A system call writes no line of the report. -/
theorem reportLines_after {S : Type} (c : LinkMachine D S) (x : SysCall) :
    reportLines (link.device.after c x) = reportLines c := by
  simp [reportLines, Device.after]

theorem reportLines_notes {S : Type} (c : LinkMachine D S)
    (entries : List Note) :
    reportLines { c with trace := c.trace ++ entries.map .note } =
      reportLines c ++ writtenOf entries := by
  simp [reportLines]

theorem reportLines_note {S : Type} {c : LinkMachine D S} {n : Note}
    (h : writtenOf [n] = []) :
    reportLines { c with trace := c.trace ++ [.note n] } = reportLines c := by
  have hnotes := reportLines_notes c [n]
  rw [h, List.append_nil] at hnotes
  exact hnotes

/-- A call other than a set leaves the eye monitors as they are. -/
theorem Looks.after (c : EomMachine D) {x : SysCall} (hx : ¬ IsSet x) :
    Looks link c (link.device.after c x) :=
  ⟨rfl, reportLines_after c x, EyeLink.calm_next hx⟩

theorem Looks.of_notes {entries : List Note} (h : writtenOf entries = []) :
    Looks link c { c with trace := c.trace ++ entries.map .note } :=
  ⟨rfl, by rw [reportLines_notes, h, List.append_nil], .refl _⟩

theorem Looks.of_note {n : Note} (h : writtenOf [n] = []) :
    Looks link c { c with trace := c.trace ++ [.note n] } :=
  Looks.of_notes h

/-! What the program asks. -/

variable {Q : Int → EomMachine D → Prop}

/-- A register of a link with an eye is read without an error. -/
theorem meets_readRegister {α : Type} {attrSel : UInt32} {peer : Side}
    {failed : Int → Text} {fail : α} {use : Int → Prog EomGlobals α}
    {Q : α → EomMachine D → Prop} {value : UInt32}
    (hvalue : link.register c.device peer attrSel = value)
    (hsmall : value.toNat < 0x80000000)
    (h : ∀ c', Looks link c c' →
      c' = link.device.after c
        (uicIoctl c.mem.bsgFd (uicGetCommand attrSel peer)) →
      meets link.device (use value.toNat) Q c') :
    meets link.device (readRegister attrSel peer failed fail use) Q c := by
  rw [readRegister]
  apply meets_bind
  apply meets_get
  apply meets_bind
  apply link.meets_uicGet
  have hsigned : signed (link.register c.device peer attrSel) =
      (value.toNat : Int) := by
    rw [hvalue, signed_of_lt hsmall]
  rw [hsigned]
  have hpos : ¬ ((value.toNat : Int) < 0) := by omega
  simp only [if_neg hpos]
  exact h _ (.after c (not_isSet_get _ _ _)) rfl

theorem meets_verboseNotes {entries : List Text}
    {Q : Unit → EomMachine D → Prop} (h : ∀ c', Looks link c c' → Q () c') :
    meets link.device (verboseNotes entries) Q c := by
  rw [verboseNotes]
  apply meets_bind
  apply meets_get
  apply meets_notes
  apply h
  exact .of_notes (writtenOf_of_discreet (discreet_verboseEntries _ entries))

/-- A call that is no request to the link. -/
theorem meets_ownCall {x : SysCall} (hx : ∀ fd sgIo, x ≠ .ioctl fd sgIo)
    (h : ∀ c', Looks link c c' →
      Q (link.device.answer c.device x).ret c') :
    meets link.device (sysCall x) Q c := by
  apply meets_sysCall
  exact h _ (.after c (not_isSet_of_ne_ioctl hx))

/-- A set on such a link succeeds, and the registers hold its value. -/
theorem meets_setRegister {s : RegisterSet} {next : Prog EomGlobals Int}
    (hvalue : s.mibVal.toNat < 128)
    (h : meets link.device next Q
      (link.device.after c (uicIoctl c.mem.bsgFd s.command))) :
    meets link.device (setRegister s next) Q c := by
  rw [setRegister]
  apply meets_bind
  apply meets_get
  apply meets_bind
  apply link.meets_uicSet hvalue
  simp only [success, ne_eq, not_true_eq_false, if_false]
  exact h

/-! `config_eom` -/

/-- A poll of the UniPro state: either the change has come, or the link is one
poll nearer to it. -/
theorem meets_pollUniproState {I : EomMachine D → Prop}
    (hnext : ∀ c', Looks link c c' → I c')
    (hdone : ∀ ret c', Looks link c c' → Q ret c') :
    meets link.device pollUniproState (Onward Q fun c' =>
      I c' ∧ link.settling c'.device < link.settling c.device) c := by
  rw [pollUniproState]
  apply meets_bind
  apply meets_get
  apply meets_bind
  apply link.meets_uicGet
  have hlooks : Looks link c (link.device.after c
      (uicIoctl c.mem.bsgFd (uicGetCommand uniproStateSel .localSide))) :=
    .after c (not_isSet_get _ _ _)
  have hsmall := link.smallState c.device
  rw [← uniproStateSel, signed_of_lt hsmall]
  apply meets_pure
  have hpos : ¬ (((link.register c.device .localSide uniproStateSel).toNat :
      Int) < 0) := by omega
  have hword : UInt32.ofInt
      ((link.register c.device .localSide uniproStateSel).toNat : Int) =
        link.register c.device .localSide uniproStateSel := by
    rw [← signed_of_lt hsmall, ofInt_signed]
  rw [if_neg hpos, hword]
  split_ifs with hup
  · exact hdone _ _ hlooks
  · exact ⟨hnext _ hlooks, link.settles c.device c.mem.bsgFd hup⟩

/-- The link comes up, and the wait for it ends. -/
theorem meets_waitPowerModeChange (h : ∀ c', Looks link c c' → Q success c') :
    meets link.device waitPowerModeChange Q c := by
  rw [waitPowerModeChange]
  apply meets_bind
  apply meets_loop consumes_pollUniproState (Looks link c)
    fun c' => link.settling c'.device
  · intro c₁ h₁
    apply meets_pollUniproState
    · exact fun c₂ h₂ => h₁.trans h₂
    · intro ret c₂ h₂
      apply meets_bind
      apply meets_notes
      apply meets_pure
      apply h
      apply (h₁.trans h₂).trans
      apply Looks.of_notes
      split_ifs <;> rfl
  · exact .refl c

/-- The state of the link behind some sets. -/
def EyeLink.afterSets (link : EyeLink D) (fd : Int) (sets : List RegisterSet)
    (d : D) : D :=
  sets.foldl (fun d s => link.device.next d (uicIoctl fd s.command)) d

/-- A target test count `main` can have been given. -/
def TargetFits (count : Int) : Prop := 0 ≤ count ∧ count < 128

theorem toNat_ofInt_of_targetFits {count : Int} (h : TargetFits count) :
    ((UInt32.ofInt count).toNat : Int) = count := by
  obtain ⟨hlo, hhi⟩ := h
  simp only [UInt32.ofInt, UInt32.toNat_ofNat']
  omega

theorem toNat_lt_of_targetFits {count : Int} (h : TargetFits count) :
    (UInt32.ofInt count).toNat < 128 := by
  have htoNat := toNat_ofInt_of_targetFits h
  have hhi := h.2
  omega

theorem eomSteps_lt (x : Int) : (eomSteps x).toNat < 128 := by
  have hmagnitude : ∀ r < 64,
      ((0 <<< eomDirectionShift) ||| UInt32.ofNat r).toNat < 128 ∧
        ((1 <<< eomDirectionShift) ||| UInt32.ofNat r).toNat < 128 := by
    decide +kernel
  rw [eomSteps, ofInt_and_stepMask, ofInt_and_stepMask]
  split_ifs
  · exact (hmagnitude (-x % 64).toNat (by omega)).2
  · exact (hmagnitude (x % 64).toNat (by omega)).1

/-- The six sets of `config_eom` start the eye monitor at the point they name.
-/
theorem started_configSets {peer : Side} {lane targetCount : Int}
    {timing volt : UInt32} (hlane : IsLane lane)
    (htarget : TargetFits targetCount) (htiming : timing.toNat < 128)
    (hvolt : volt.toNat < 128) (fd : Int) (d : D) :
    link.started (link.afterSets fd
      (configSets peer lane timing volt targetCount) d) peer lane =
        ⟨timing, volt, UInt32.ofInt targetCount⟩ := by
  have hcount := toNat_lt_of_targetFits htarget
  have hstored (d : D) {attr : Int} (hattr : attr ∈ settingAttributes)
      {value : UInt32} (hvalue : value.toNat < 128) :
      (link.register (link.device.next d (uicIoctl fd
        (uicSetCommand (uicArgMibSel attr (selectRx lane)) attrSetNor value
          peer)))).ofLane peer attr lane = value :=
    link.stores d fd peer lane hlane attr hattr value hvalue
  simp only [EyeLink.afterSets, configSets, List.foldl_cons, List.foldl_nil,
    RegisterSet.command]
  rw [← powerModeSet, link.starts _ _ _ _ hlane, Registers.settings,
    EyeSettings.mk.injEq]
  · refine ⟨?_, ?_, ?_⟩
    · rw [EyeLink.held_set hlane (by decide) (by decide),
        EyeLink.held_set hlane (by decide) (by decide),
        EyeLink.held_set hlane (by decide) (by decide),
        hstored _ (by decide) htiming]
    · rw [EyeLink.held_set hlane (by decide) (by decide),
        EyeLink.held_set hlane (by decide) (by decide),
        hstored _ (by decide) hvolt]
    · rw [EyeLink.held_set hlane (by decide) (by decide),
        hstored _ (by decide) hcount]
  · rw [EyeLink.held_set hlane (by decide) (by decide),
      EyeLink.held_set hlane (by decide) (by decide),
      EyeLink.held_set hlane (by decide) (by decide),
      EyeLink.held_set hlane (by decide) (by decide),
      hstored _ (by decide) (by decide)]

/-- They write none of the registers that hold what the link can do. -/
theorem unchanged_configSets {peer : Side} {lane targetCount : Int}
    {timing volt : UInt32} (fd : Int) (d : D) :
    link.Unchanged d (link.afterSets fd
      (configSets peer lane timing volt targetCount) d) := by
  simp only [EyeLink.afterSets, configSets, List.foldl_cons, List.foldl_nil,
    RegisterSet.command]
  apply EyeLink.Unchanged.trans _ (EyeLink.unchanged_set (by decide))
  apply EyeLink.Unchanged.trans _ (EyeLink.unchanged_set (by decide))
  apply EyeLink.Unchanged.trans _ (EyeLink.unchanged_set (by decide))
  apply EyeLink.Unchanged.trans _ (EyeLink.unchanged_set (by decide))
  apply EyeLink.Unchanged.trans _ (EyeLink.unchanged_set (by decide))
  exact EyeLink.unchanged_set (by decide)

/-- From `c` to `c'` the eye monitor of a lane was started. -/
structure Starts (link : EyeLink D) (side : Side) (lane : Int)
    (settings : EyeSettings) (c c' : EomMachine D) : Prop where
  mem : c'.mem = c.mem
  lines : reportLines c' = reportLines c
  started : link.started c'.device side lane = settings
  unchanged : link.Unchanged c.device c'.device

/-- The six sets of `config_eom` start the eye monitor of the lane with what
the first four have put into its registers. -/
theorem meets_configEom {peer : Side} {lane targetCount : Int}
    {timing volt : UInt32} (hlane : IsLane lane)
    (htarget : TargetFits targetCount) (htiming : timing.toNat < 128)
    (hvolt : volt.toNat < 128) (h : ∀ c', Starts link peer lane
      ⟨timing, volt, UInt32.ofInt targetCount⟩ c c' → Q success c') :
    meets link.device (configEom peer lane timing volt targetCount) Q c := by
  have hcount := toNat_lt_of_targetFits htarget
  have henable : (1 : UInt32).toNat < 128 := by decide
  rw [configEom, configSets]
  apply meets_setRegister henable
  apply meets_setRegister htiming
  apply meets_setRegister hvolt
  apply meets_setRegister hcount
  apply meets_setRegister (by decide)
  apply meets_setRegister (by decide)
  apply meets_waitPowerModeChange
  intro c₁ h₁
  apply h
  constructor
  · exact h₁.mem
  · rw [h₁.lines]
    simp only [reportLines_after]
  · rw [h₁.calm.started]
    exact started_configSets hlane htarget htiming hvolt c.mem.bsgFd c.device
  · exact (unchanged_configSets c.mem.bsgFd c.device).trans h₁.calm.unchanged

/-! The rounds behind `repeat_eom_scan`. -/

/-- The traffic between the rounds always goes through on such a host. -/
theorem meets_exerciseLink {peer : Side} {Q : Bool → EomMachine D → Prop}
    (h : ∀ c', Looks link c c' → Q true c') :
    meets link.device (exerciseLink peer) Q c := by
  rw [exerciseLink]
  apply meets_bind
  apply meets_get
  by_cases hio : c.mem.doIo
  · simp only [if_pos hio]
    apply meets_bind
    apply meets_ownCall (by simp)
    intro c₁ h₁
    have hwritten := link.writes c.device c.mem.tmpFd eomTempDataSize
    simp only [if_neg (not_lt.mpr hwritten)]
    cases peer with
    | peerSide => exact meets_pure (h c₁ h₁)
    | localSide =>
        simp only [if_true]
        apply meets_bind
        apply meets_ownCall (by simp)
        intro c₂ h₂
        have hgot := link.reads c₁.device c.mem.tmpFd eomTempDataSize
        simp only [if_neg (not_lt.mpr hgot)]
        exact meets_pure (h c₂ (h₁.trans h₂))
  · simp only [if_neg hio]
    exact meets_pure (h c (.refl c))

/-- The error count the link has for a point. -/
def EyeLink.errorCount (link : EyeLink D) (side : Side)
    (lane timing volt : Int) : Int :=
  (link.errors side lane (eomSteps timing) (eomSteps volt)).toNat

/-- The eye monitor of the lane was started for the point. -/
def StartedFor (link : EyeLink D) (side : Side)
    (lane timing volt targetCount : Int) (d : D) : Prop :=
  link.started d side lane =
    ⟨eomSteps timing, eomSteps volt, UInt32.ofInt targetCount⟩

/-- An eye monitor that measures this point answers about this point. -/
theorem StartedFor.calm {side : Side} {lane timing volt targetCount : Int}
    {d d' : D} (h : StartedFor link side lane timing volt targetCount d)
    (hcalm : link.Calm d d') :
    StartedFor link side lane timing volt targetCount d' := by
  rw [StartedFor, hcalm.started]
  exact h

/-- What a lane at rest has counted is enough to be logged. -/
theorem counts_enough {side : Side} {lane timing volt targetCount : Int}
    {d : D} (hlane : IsLane lane) (htarget : TargetFits targetCount)
    (hstarted : StartedFor link side lane timing volt targetCount d)
    (hrests : (link.register d).Rests side lane) :
    (((link.register d).ofLane side rxEyemonErrorCount lane).toNat :
        Int) = link.errorCount side lane timing volt ∧
      (targetCount ≤ ((link.register d).ofLane side
          rxEyemonTestedCount lane).toNat ∨
        60 ≤ link.errorCount side lane timing volt) := by
  obtain ⟨hcount, henough⟩ := link.counts d side lane hlane hrests
  have htoNat := toNat_ofInt_of_targetFits htarget
  have hstarted' : link.started d side lane =
    ⟨eomSteps timing, eomSteps volt, UInt32.ofInt targetCount⟩ := hstarted
  rw [hstarted'] at hcount henough
  rw [hcount] at henough
  constructor
  · rw [hcount, EyeLink.errorCount]
  · have hlt : (UInt32.ofInt targetCount).toNat < 128 := by
      have hhi := htarget.2
      omega
    rw [← htoNat, EyeLink.errorCount]
    exact_mod_cast henough hlt

/-- The registers read in a round are those of the measurement that was started.
-/
theorem meets_readEyeMonitor {peer : Side} {lane timing volt targetCount : Int}
    {Q : Option Int → EomMachine D → Prop} (hlane : IsLane lane)
    (htarget : TargetFits targetCount)
    (hstarted : StartedFor link peer lane timing volt targetCount c.device)
    (hbusy : ∀ c', Looks link c c' →
      link.busy c'.device < link.busy c.device → Q none c')
    (hlog : ∀ c', Looks link c c' → meets link.device
      (logResult ⟨lane, timing, volt, link.errorCount peer lane timing volt⟩)
      (fun ret => Q (some ret)) c') :
    meets link.device (readEyeMonitor peer lane timing volt targetCount) Q
      c := by
  rw [readEyeMonitor]
  apply meets_readRegister rfl
    (link.small c.device peer lane hlane rxEyemonStart (by decide))
  intro c₁ h₁ hc₁
  rw [ofInt_toNat]
  by_cases hrests : (link.register c.device).Rests peer lane
  · have hclear : link.register c.device peer
        (uicArgMibSel rxEyemonStart (selectRx lane)) &&&
          rxEyemonStartMask = 0 := hrests
    rw [hclear]
    simp only [ne_eq, not_true_eq_false, if_false]
    have hrests₁ := h₁.calm.rests peer lane hrests
    apply meets_readRegister rfl
      (link.small c₁.device peer lane hlane rxEyemonTestedCount (by decide))
    intro c₂ h₂ _
    have hrests₂ := h₂.calm.rests peer lane hrests₁
    apply meets_readRegister rfl
      (link.small c₂.device peer lane hlane rxEyemonErrorCount (by decide))
    intro c₃ h₃ _
    obtain ⟨-, henough⟩ := counts_enough hlane htarget
      (hstarted.calm h₁.calm) hrests₁
    obtain ⟨hcount, -⟩ := counts_enough hlane htarget
      (hstarted.calm (h₁.calm.trans h₂.calm)) hrests₂
    rw [Registers.ofLane] at henough hcount
    rw [hcount]
    have hhigh : ((link.register c₁.device peer (uicArgMibSel
          rxEyemonTestedCount (selectRx lane))).toNat : Int) ≥ targetCount ∨
        link.errorCount peer lane timing volt ≥ eomPhyErrorCountThreshold :=
      henough
    rw [if_pos hhigh]
    apply meets_bind
    apply meets_verboseNotes
    intro c₄ h₄
    apply meets_bind
    apply meets_imp (hlog c₄ (((h₁.trans h₂).trans h₃).trans h₄))
    exact fun ret c₅ h₅ => meets_pure h₅
  · have hset : link.register c.device peer
        (uicArgMibSel rxEyemonStart (selectRx lane)) &&&
          rxEyemonStartMask ≠ 0 := hrests
    rw [if_pos hset]
    apply meets_pure
    apply hbusy c₁ h₁
    rw [hc₁]
    exact link.stops c.device c.mem.bsgFd peer lane hlane hrests

/-- From `c` to `c'` the program logged a result. -/
structure Records (link : EyeLink D) (result : EomResult)
    (c c' : EomMachine D) : Prop where
  mem : c'.mem = { c.mem with eomData := c.mem.eomData.record result }
  lines : reportLines c' = reportLines c
  unchanged : link.Unchanged c.device c'.device

/-- The result that is logged is the count of errors of the link. -/
theorem meets_logResult {result : EomResult} (hroom : HasRoom c.mem)
    (h : ∀ c', Records link result c c' → Q success c') :
    meets link.device (logResult result) Q c := by
  have hlength : ¬ c.mem.eomData.er.length ≤ c.mem.eomData.dataCnt := by
    have hr := hroom.room
    have ha := hroom.allocated
    omega
  have hcount : ¬ c.mem.eomResultCount < c.mem.eomData.dataCnt + 1 := by
    have hr := hroom.room
    omega
  rw [logResult]
  apply meets_bind
  apply meets_get
  apply meets_bind
  apply meets_note
  rw [if_neg hlength]
  apply meets_bind
  apply meets_modify
  rw [if_neg hcount]
  apply meets_pure
  apply h
  constructor
  · rfl
  · simp [reportLines, writtenOf]
  · exact .refl _

/-- A look followed by a record keeps the link and adds the record. -/
theorem Looks.records {result : EomResult} (hleft : Looks link c c')
    (hright : Records link result c' c'') : Records link result c c'' :=
  ⟨by rw [hright.mem, hleft.mem], hright.lines.trans hleft.lines,
    hleft.calm.unchanged.trans hright.unchanged⟩

/-- A call of `eom_scan` ends, and logs what the link has for the point. -/
theorem meets_eomScan {peer : Side} {lane timing volt targetCount : Int}
    (hlane : IsLane lane) (htarget : TargetFits targetCount)
    (hroom : HasRoom c.mem)
    (h : ∀ c', Records link ⟨lane, timing, volt,
      link.errorCount peer lane timing volt⟩ c c' → Q success c') :
    meets link.device (eomScan peer lane timing volt targetCount) Q c := by
  rw [eomScan]
  apply meets_bind
  apply meets_configEom hlane htarget (eomSteps_lt _) (eomSteps_lt _)
  intro c₁ h₁
  simp only [success, ne_eq, not_true_eq_false, if_false]
  apply meets_loop (consumes_eomRound peer lane timing volt targetCount)
    (Looks link c₁) (fun c' => link.busy c'.device)
  · intro c₂ h₂
    have hstarted : StartedFor link peer lane timing volt targetCount
        c₁.device := h₁.started
    rw [eomRound]
    apply meets_bind
    apply meets_exerciseLink
    intro c₃ h₃
    rw [if_pos rfl]
    have h₂₃ := h₂.trans h₃
    apply meets_readEyeMonitor hlane htarget (hstarted.calm h₂₃.calm)
    · intro c₄ h₄ hless
      exact ⟨h₂₃.trans h₄, hless.trans_le h₃.calm.busy⟩
    · intro c₄ h₄
      have h₂₄ := h₂₃.trans h₄
      apply meets_logResult
      · rw [h₂₄.mem, h₁.mem]
        exact hroom
      · intro c₅ h₅
        have hrecords := h₂₄.records h₅
        apply h
        exact ⟨by rw [hrecords.mem, h₁.mem], hrecords.lines.trans h₁.lines,
          h₁.unchanged.trans hrecords.unchanged⟩
  · exact .refl c₁

/-! The loops of `main`. -/

/-- What the link has for a point. -/
def EyeLink.resultAt (link : EyeLink D) (side : Side) (p : Sweep.Point) :
    EomResult :=
  ⟨p.1, p.2.1, p.2.2, link.errorCount side p.1 p.2.1 p.2.2⟩

/-- The loops started with `g` on a link as in `d`, and have recorded its eye
at `points`. -/
structure Measured (link : EyeLink D) (d : D) (g : EomGlobals)
    (points : List Sweep.Point) (c : EomMachine D) : Prop where
  frame : ∃ er n, c.mem =
    { g with eomData := { g.eomData with er := er, dataCnt := n } }
  allocated : (c.mem.eomData.er.length : Int) = g.eomResultCount
  counted : c.mem.eomData.dataCnt = points.length
  results : c.mem.eomData.results =
    points.map (link.resultAt g.eomData.localPeer)
  lines : reportLines c = []
  unchanged : link.Unchanged d c.device

variable {d : D} {g : EomGlobals} {points : List Sweep.Point}

theorem Measured.keeps (hm : Measured link d g points c)
    (hmem : c'.mem = c.mem) (hlines : reportLines c' = reportLines c)
    (hsame : link.Unchanged c.device c'.device) :
    Measured link d g points c' := by
  obtain ⟨hframe, hallocated, hcounted, hresults, hwritten, hbefore⟩ := hm
  rw [← hmem] at hframe hallocated hcounted hresults
  exact ⟨hframe, hallocated, hcounted, hresults, hlines.trans hwritten,
    hbefore.trans hsame⟩

theorem Measured.looks (hm : Measured link d g points c)
    (hlooks : Looks link c c') : Measured link d g points c' :=
  hm.keeps hlooks.mem hlooks.lines hlooks.calm.unchanged

theorem Measured.hasRoom (hm : Measured link d g points c)
    (hlt : (points.length : Int) < g.eomResultCount) : HasRoom c.mem := by
  obtain ⟨er, n, hmem⟩ := hm.frame
  have hcount : c.mem.eomResultCount = g.eomResultCount := by rw [hmem]
  constructor
  · rw [hcount, hm.counted]
    exact hlt
  · rw [hcount]
    exact hm.allocated

/-- One more point measured: its count stands behind the others. -/
theorem Measured.records {p : Sweep.Point} (hm : Measured link d g points c)
    (hlt : (points.length : Int) < g.eomResultCount)
    (hr : Records link (link.resultAt g.eomData.localPeer p) c c') :
    Measured link d g (points ++ [p]) c' := by
  obtain ⟨er, n, hmem⟩ := hm.frame
  constructor
  · rw [hr.mem, hmem]
    exact ⟨_, _, rfl⟩
  · rw [hr.mem]
    simpa [EOMData.record] using hm.allocated
  · rw [hr.mem, List.length_append, ← hm.counted]
    rfl
  · rw [hr.mem, (hm.hasRoom hlt).results_record, hm.results, List.map_append]
    rfl
  · exact hr.lines.trans hm.lines
  · exact hm.unchanged.trans hr.unchanged

/-- The loops start with `g` for a count the eye monitors take. -/
structure LoopsReady (g : EomGlobals) : Prop extends ScanReady g where
  target : TargetFits g.targetTestCount
  fits : ScanFits g

theorem LoopsReady.isLane (hready : LoopsReady g) {lane : Int}
    (hlane : g.lane ≤ lane ∧ lane < g.lane + g.eomData.numLanes) :
    IsLane lane := by
  rw [IsLane]
  rcases hready.lanes with h | h <;> omega

/-- One point of the loops, with the result of the link. -/
theorem meets_scanPoint {lane timing volt : Int} (hready : LoopsReady g)
    (hin : (scanBox g).Mem (lane, timing, volt))
    (hm : Measured link d g ((scanBox g).visited lane timing volt) c) :
    meets link.device (scanPoint lane timing volt) (fun out c' => out = none ∧
      Measured link d g ((scanBox g).visited lane timing (volt + 1)) c') c := by
  obtain ⟨er, n, hmem⟩ := hm.frame
  have hside : c.mem.eomData.localPeer = g.eomData.localPeer := by rw [hmem]
  have hcount : c.mem.targetTestCount = g.targetTestCount := by rw [hmem]
  have hlt : (((scanBox g).visited lane timing volt).length : Int) <
      g.eomResultCount := by
    rw [← length_scanBox hready.toScanReady]
    exact_mod_cast (scanBox g).length_visited_lt hin
  have hlow : (scanBox g).zLow ≤ volt := hin.2.2.1
  rw [scanPoint]
  apply meets_bind
  apply meets_get
  apply meets_bind
  rw [hside, hcount]
  apply meets_eomScan (hready.isLane hin.1) hready.target (hm.hasRoom hlt)
  intro c₁ h₁
  simp only [success, ne_eq, not_true_eq_false, if_false]
  apply meets_pure
  refine ⟨rfl, ?_⟩
  rw [(scanBox g).visited_step hlow]
  exact hm.records hlt h₁

/-- All voltages at one timing step. -/
theorem meets_scanTiming {lane timing : Int} (hready : LoopsReady g)
    (hlane : g.lane ≤ lane ∧ lane < g.lane + g.eomData.numLanes)
    (htiming : g.timingLeft ≤ timing ∧ timing ≤ g.timingRight)
    (hm : Measured link d g
      ((scanBox g).visited lane timing g.voltageLow) c) :
    meets link.device (scanTiming lane timing) (fun out c' => out = none ∧
      Measured link d g
        ((scanBox g).visited lane (timing + 1) g.voltageLow) c') c := by
  obtain ⟨er, n, hmem⟩ := hm.frame
  have hvolts : c.mem.voltageLow = g.voltageLow ∧
      c.mem.voltageHigh = g.voltageHigh := by
    rw [hmem]
    exact ⟨rfl, rfl⟩
  have hvoltage := hready.voltage
  rw [scanTiming]
  apply meets_bind
  apply meets_get
  rw [hvolts.1, hvolts.2]
  apply meets_forUpTo (fun volt c' =>
    Measured link d g ((scanBox g).visited lane timing volt) c')
    (by omega) hready.fits.voltage
  · intro volt c₁ hlo hhi h₁
    have hin : (scanBox g).Mem (lane, timing, volt) :=
      ⟨hlane, ⟨htiming.1, Int.lt_add_one_of_le htiming.2⟩, hlo,
        Int.lt_add_one_of_le hhi⟩
    apply meets_imp (meets_scanPoint hready hin h₁)
    rintro out c₂ ⟨rfl, h₂⟩
    exact h₂
  · intro c₁ h₁
    have hrow := (scanBox g).visited_row (x := lane) (y := timing) htiming.1
    exact ⟨rfl, hrow ▸ h₁⟩
  · exact hm

/-- Between two lanes the eye monitor is switched off. -/
theorem meets_disableEyeMonitor {lane : Int}
    (hm : Measured link d g points c) :
    meets link.device (disableEyeMonitor lane)
      (fun out c' => out = none ∧ Measured link d g points c') c := by
  rw [disableEyeMonitor]
  apply meets_bind
  apply meets_get
  apply meets_bind
  apply link.meets_uicSet (by decide)
  simp only [success, ne_eq, not_true_eq_false, if_false]
  apply meets_pure
  exact ⟨rfl, hm.keeps rfl (reportLines_after c _)
    (EyeLink.unchanged_set (by decide))⟩

/-- All timing steps of one lane. -/
theorem meets_scanLane {lane : Int} (hready : LoopsReady g)
    (hlane : g.lane ≤ lane ∧ lane < g.lane + g.eomData.numLanes)
    (hm : Measured link d g
      ((scanBox g).visited lane g.timingLeft g.voltageLow) c) :
    meets link.device (scanLane lane) (fun out c' => out = none ∧
      Measured link d g
        ((scanBox g).visited (lane + 1) g.timingLeft g.voltageLow) c') c := by
  obtain ⟨er, n, hmem⟩ := hm.frame
  have htimings : c.mem.timingLeft = g.timingLeft ∧
      c.mem.timingRight = g.timingRight := by
    rw [hmem]
    exact ⟨rfl, rfl⟩
  have htiming := hready.timing
  rw [scanLane]
  apply meets_bind
  apply meets_get
  rw [htimings.1, htimings.2]
  apply meets_bind
  apply meets_forUpTo (fun timing c' =>
    Measured link d g ((scanBox g).visited lane timing g.voltageLow) c')
    (by omega) hready.fits.timing
  · intro timing c₁ hlo hhi h₁
    apply meets_imp (meets_scanTiming hready hlane ⟨hlo, hhi⟩ h₁)
    rintro out c₂ ⟨rfl, h₂⟩
    exact h₂
  · intro c₁ h₁
    have hplane := (scanBox g).visited_plane (x := lane) hlane.1
    exact meets_disableEyeMonitor (hplane ▸ h₁)
  · exact hm

/-- All lanes: every point holds the count of the link. -/
theorem meets_scanLanes (hready : LoopsReady g)
    (hm : Measured link d g [] c) :
    meets link.device scanLanes (fun out c' => out = none ∧
      Measured link d g (scanBox g).points c') c := by
  obtain ⟨er, n, hmem⟩ := hm.frame
  have hchosen : c.mem.lane = g.lane ∧
      c.mem.eomData.numLanes = g.eomData.numLanes := by
    rw [hmem]
    exact ⟨rfl, rfl⟩
  have hlanes : 0 ≤ g.eomData.numLanes ∧
      g.lane + g.eomData.numLanes ≤ 2 := by
    rcases hready.lanes with h | h <;> omega
  have hlast : g.lane + (g.eomData.numLanes.toNat : Int) =
      g.lane + g.eomData.numLanes := by omega
  have hmax : intMax = 2147483647 := rfl
  rw [scanLanes]
  apply meets_bind
  apply meets_get
  rw [hchosen.1, hchosen.2]
  apply meets_forCount (fun lane c' =>
    Measured link d g ((scanBox g).visited lane g.timingLeft g.voltageLow) c')
    _ _ (by omega)
  · intro lane c₁ hlo hhi h₁
    apply meets_imp (meets_scanLane hready ⟨hlo, by omega⟩ h₁)
    rintro out c₂ ⟨rfl, h₂⟩
    exact h₂
  · intro c₁ h₁
    rw [hlast] at h₁
    exact ⟨rfl, (scanBox g).visited_end ▸ h₁⟩
  · have hstart := (scanBox g).visited_start
    exact hstart.symm ▸ hm

end UfsTools
