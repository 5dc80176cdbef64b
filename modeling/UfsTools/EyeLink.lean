/-
A UFS link as the programs find it behind the BSG node: what its registers
hold, and what the eye monitors of its receivers measure.  The fields of the
structures are all that is assumed of it.
-/
import UfsTools.ClosedLoop
import UfsTools.LaneLimits
import UfsTools.UicOutcome

namespace UfsTools

open CLib ByteCodec Process

/-- A host that opens files, moves their data and gives out memory. -/
structure Host (D : Type) where
  device : Device SysCall SysReply D
  opens : ∀ d path flag, 0 ≤ (device.answer d (.open path flag)).ret
  allocates : ∀ d size, (device.answer d (.malloc size)).ret ≠ 0
  aligns : ∀ d alignment size,
    (device.answer d (.memalign alignment size)).ret ≠ 0
  creates : ∀ d path, (device.answer d (.fopen path)).ret ≠ 0
  writes : ∀ d fd count, 0 ≤ (device.answer d (.pwrite fd count)).ret
  reads : ∀ d fd count, 0 ≤ (device.answer d (.pread fd count)).ret

/-- Every UIC command goes through, and a read gets what the register holds. -/
structure UicLink (D : Type) extends Host D where
  register : D → Registers
  gets : ∀ d fd attrSel side,
    ¬ UicFailed (device.answer d (uicIoctl fd (uicGetCommand attrSel side))) ∧
      registerValue
        (device.answer d (uicIoctl fd (uicGetCommand attrSel side))) =
          register d side attrSel
  sets : ∀ d fd attrSel value side, SetDone value (device.answer d
    (uicIoctl fd (uicSetCommand attrSel attrSetNor value side)))

def IsLane (lane : Int) : Prop := lane = 0 ∨ lane = 1

/-- What an eye monitor is started with. -/
structure EyeSettings where
  timing : UInt32
  volt : UInt32
  target : UInt32
deriving DecidableEq

def Registers.settings (device : Registers) (side : Side) (lane : Int) :
    EyeSettings where
  timing := device.ofLane side rxEyemonTimingSteps lane
  volt := device.ofLane side rxEyemonVoltageSteps lane
  target := device.ofLane side rxEyemonTargetTestCount lane

/-- The attributes of a lane that a program sets up. -/
def settingAttributes : List Int :=
  [rxEyemonEnable, rxEyemonTimingSteps, rxEyemonVoltageSteps,
    rxEyemonTargetTestCount]

/-- What a lane says about its eye monitor. -/
def capabilityAttributes : List Int :=
  [rxEyemonCapability, rxEyemonTimingMaxStepsCapability,
    rxEyemonTimingMaxOffsetCapability, rxEyemonVoltageMaxStepsCapability,
    rxEyemonVoltageMaxOffsetCapability]

/-- The attributes that say what the link can do. -/
def reportedAttributes : List Int :=
  capabilityAttributes ++ [paRxgear, rxHsrateSeries]

/-- The attributes that keep what they hold until they are set. -/
def heldAttributes : List Int := settingAttributes ++ reportedAttributes

/-- The attributes of a measurement. -/
def readingAttributes : List Int :=
  [rxEyemonStart, rxEyemonTestedCount, rxEyemonErrorCount]

/-- The power mode change that starts the eye monitors. -/
def powerModeSet : UicCommand :=
  uicSetCommand (uicArgMibSel paPwrmode (selectTx 0)) attrSetNor 0x11
    .localSide

def uniproStateSel : UInt32 :=
  uicArgMibSel qcomDmeVsUniproState (selectTx 0)

/-- A call that sets a register. -/
def IsSet (call : SysCall) : Prop :=
  ∃ fd attrSel value side,
    call = uicIoctl fd (uicSetCommand attrSel attrSetNor value side)

/-- The eye monitor of a lane has stopped. -/
def Registers.Rests (device : Registers) (side : Side) (lane : Int) : Prop :=
  device.ofLane side rxEyemonStart lane &&& rxEyemonStartMask = 0

def Registers.LinkUp (device : Registers) : Prop :=
  device .localSide uniproStateSel &&& qcomDmeVsUniproStateMask =
    qcomDmeVsUniproStateLinkUp

/-- A link whose eye monitors count `errors` for the settings they were started
with, which have seven bits.  How long a monitor runs and the link settles is
open, but both end: `busy` and `settling` go down from poll to poll. -/
structure EyeLink (D : Type) extends UicLink D where
  errors : Side → Int → UInt32 → UInt32 → UInt32
  started : D → Side → Int → EyeSettings
  busy : D → Nat
  settling : D → Nat
  stores : ∀ d fd side lane, IsLane lane → ∀ attr ∈ settingAttributes,
    ∀ value, value.toNat < 128 → (register (device.next d
      (uicIoctl fd (eyeMonitorSet attr value side lane)))).ofLane side attr
        lane = value
  holds : ∀ d call side lane, IsLane lane → ∀ attr ∈ heldAttributes,
    (∀ fd value, call ≠ uicIoctl fd (eyeMonitorSet attr value side lane)) →
      (register (device.next d call)).ofLane side attr lane =
        (register d).ofLane side attr lane
  starts : ∀ d fd side lane, IsLane lane →
    (register d).ofLane side rxEyemonEnable lane = 1 →
      started (device.next d (uicIoctl fd powerModeSet)) side lane =
        (register d).settings side lane
  runs : ∀ d call side lane, (∀ fd, call ≠ uicIoctl fd powerModeSet) →
    started (device.next d call) side lane = started d side lane
  rests : ∀ d call side lane, ¬ IsSet call →
    (register d).Rests side lane →
      (register (device.next d call)).Rests side lane
  calms : ∀ d call, ¬ IsSet call → busy (device.next d call) ≤ busy d
  stops : ∀ d fd side lane, IsLane lane → ¬ (register d).Rests side lane →
    busy (device.next d
      (uicIoctl fd (eyeMonitorGet rxEyemonStart side lane))) < busy d
  settles : ∀ d fd, ¬ (register d).LinkUp →
    settling (device.next d (uicIoctl fd uniproStateGet)) < settling d
  counts : ∀ d side lane, IsLane lane → (register d).Rests side lane →
    (register d).ofLane side rxEyemonErrorCount lane =
      errors side lane (started d side lane).timing
        (started d side lane).volt ∧
      ((started d side lane).target.toNat < 128 →
        (started d side lane).target.toNat ≤
            ((register d).ofLane side rxEyemonTestedCount lane).toNat ∨
          60 ≤ ((register d).ofLane side rxEyemonErrorCount lane).toNat)
  small : ∀ d side lane, IsLane lane → ∀ attr ∈ readingAttributes,
    ((register d).ofLane side attr lane).toNat < 0x80000000
  smallState : ∀ d,
    (register d .localSide uniproStateSel).toNat < 0x80000000

/-! What the device says about itself. -/

/-- The query for a descriptor as ufseom sends it. -/
def descriptorQuery (fd idn index : Int) : SysCall :=
  queryIoctl { fd := fd, queryOp :=
    { opcode := queryReqOpReadDesc, idn := idn, index := index,
      selector := 0 } } (UInt16.ofNat descriptorBufferSize)

/-- A device that answers for its descriptors. -/
structure Inquiry {D : Type} (dev : Device SysCall SysReply D) where
  descriptor : Int → Int → List UInt8
  answers : ∀ d fd idn index,
    bsgStatus (dev.answer d (descriptorQuery fd idn index)) = success ∧
      (dev.answer d (descriptorQuery fd idn index)).data =
        descriptor idn index

/-! Queries that succeed. -/

/-- A query that succeeds prints nothing about its status. -/
theorem queryNotes_of_success {r : SysReply} (h : bsgStatus r = success) :
    queryNotes r = [] := by
  have hbsg := h
  rw [bsgStatus] at hbsg
  split_ifs at hbsg with herror
  · exact absurd hbsg (by decide)
  · have hzero : r.ret = 0 := hbsg
    simp [queryNotes, bsgNotes, herror, hzero, h, success]

/-- A byte within the reply is that of the device. -/
theorem byte_received {buf : DescBuf} {r : SysReply} {i : Nat}
    (hi : i < (r.data.take descriptorBufferSize).length) :
    byte (received buf (UInt16.ofNat descriptorBufferSize) r) i =
      (r.data.take descriptorBufferSize).getD i 0 := by
  have hsize : (UInt16.ofNat descriptorBufferSize).toNat =
      descriptorBufferSize := rfl
  have hbound : i < descriptorBufferSize :=
    hi.trans_le (List.length_take_le _ _)
  rw [received, hsize, byte_store_inside (Nat.zero_le i) (by omega) hbound,
    Nat.sub_zero]

/-- The device descriptor goes into a buffer of zeros. -/
theorem byte_received_zero {r : SysReply} {i : Nat} :
    byte (received (Vector.replicate _ 0) (UInt16.ofNat descriptorBufferSize)
      r) i = (r.data.take descriptorBufferSize).getD i 0 := by
  by_cases hi : i < (r.data.take descriptorBufferSize).length
  · exact byte_received hi
  · have hsize : (UInt16.ofNat descriptorBufferSize).toNat =
        descriptorBufferSize := rfl
    have hdefault : (r.data.take descriptorBufferSize).getD i 0 = 0 :=
      List.getD_eq_default _ _ (not_lt.mp hi)
    rw [received, hsize, byte_store_outside (by omega), hdefault, byte]
    by_cases hin : i < descriptorBufferSize <;> simp [hin]

/-! UIC commands on such a link. -/

abbrev LinkMachine (D S : Type) := Closed SysCall SysReply D Note S

variable {D S : Type}

theorem uicNotes_of_not_failed {r : SysReply} (h : ¬ UicFailed r) :
    uicNotes r = [] := by
  rw [UicFailed, not_or, not_not, not_not] at h
  obtain ⟨hstatus, hcode⟩ := h
  have hbsg := hstatus
  rw [bsgStatus] at hbsg
  split_ifs at hbsg with herror
  simp [uicNotes, bsgNotes, herror, hbsg, hcode]

/-- A read on such a link yields the register. -/
theorem UicLink.meets_uicGet (link : UicLink D) {fd : Int} {attrSel : UInt32}
    {side : Side} {Q : Int → LinkMachine D S → Prop} {c : LinkMachine D S}
    (h : Q (signed (link.register c.device side attrSel))
      (link.device.after c (uicIoctl fd (uicGetCommand attrSel side)))) :
    meets link.device (uicGet fd attrSel side) Q c := by
  obtain ⟨hok, hvalue⟩ := link.gets c.device fd attrSel side
  rw [uicGet_eq_exchange]
  apply meets_exchange_silent
  · exact uicNotes_of_not_failed hok
  · rw [← hvalue, registerValue] at h
    simpa only [uicStatus, if_neg hok] using h

/-- A set succeeds for the values that ufseom sends. -/
theorem UicLink.meets_uicSet (link : UicLink D) {fd : Int} {attrSel : UInt32}
    {value : UInt32} {side : Side} {Q : Int → LinkMachine D S → Prop}
    {c : LinkMachine D S} (hvalue : value.toNat < 128)
    (h : Q success (link.device.after c
      (uicIoctl fd (uicSetCommand attrSel attrSetNor value side)))) :
    meets link.device (uicSet fd attrSel attrSetNor value side) Q c := by
  have hdone := link.sets c.device fd attrSel value side
  rw [uicSet_eq_exchange]
  apply meets_exchange_silent
  · exact uicNotes_of_not_failed hdone.1
  · rw [hdone.status (by omega)]
    exact h

theorem meets_sysCall {dev : Device SysCall SysReply D} {x : SysCall}
    {Q : Int → LinkMachine D S → Prop} {c : LinkMachine D S}
    (h : Q (dev.answer c.device x).ret (dev.after c x)) :
    meets dev (sysCall x) Q c :=
  meets_exchange_silent rfl h

/-! Calls that set nothing. -/

/-- Different commands are different calls. -/
theorem uicIoctl_injective {fd fd' : Int} {cmd cmd' : UicCommand}
    (h : uicIoctl fd cmd = uicIoctl fd' cmd') : cmd = cmd' := by
  have hsgIo := (SysCall.ioctl.inj h).2
  exact uicRequest_injective (congrArg SgIoV4.request hsgIo)

theorem not_isSet_get (fd : Int) (attrSel : UInt32) (side : Side) :
    ¬ IsSet (uicIoctl fd (uicGetCommand attrSel side)) := by
  rintro ⟨fd', attrSel', value, side', h⟩
  have hcommand := congrArg UicCommand.command (uicIoctl_injective h)
  simp only [uicSetCommand, uicGetCommand] at hcommand
  split_ifs at hcommand <;> exact absurd hcommand (by decide)

theorem not_isSet_query (op : LsufsOperation) (bufLen : UInt16) :
    ¬ IsSet (queryIoctl op bufLen) := by
  rintro ⟨fd', attrSel', value, side', h⟩
  have hsgIo := (SysCall.ioctl.inj h).2
  have hcode : utpUpiuQueryReq = upiuTransactionUicCmd :=
    congrArg (fun sgIo => sgIo.request.msgcode) hsgIo
  exact absurd hcode (by decide)

theorem not_isSet_of_ne_ioctl {call : SysCall}
    (h : ∀ fd sgIo, call ≠ .ioctl fd sgIo) : ¬ IsSet call := by
  rintro ⟨fd, attrSel, value, side, hcall⟩
  exact h _ _ hcall

namespace EyeLink

variable (link : EyeLink D)

/-- From `d` to `d'` nothing was set: the link holds what it held, no eye
monitor was started, and one at rest stays at rest. -/
structure Calm (d d' : D) : Prop where
  held : ∀ side lane, IsLane lane → ∀ attr ∈ heldAttributes,
    (link.register d').ofLane side attr lane =
      (link.register d).ofLane side attr lane
  started : ∀ side lane, link.started d' side lane = link.started d side lane
  rests : ∀ side lane, (link.register d).Rests side lane →
    (link.register d').Rests side lane
  busy : link.busy d' ≤ link.busy d

variable {link} {d d' d'' : D}

theorem Calm.refl (d : D) : link.Calm d d :=
  ⟨fun _ _ _ _ _ => rfl, fun _ _ => rfl, fun _ _ h => h, le_rfl⟩

theorem Calm.trans (hleft : link.Calm d d') (hright : link.Calm d' d'') :
    link.Calm d d'' := by
  constructor
  · intro side lane hlane attr hattr
    rw [hright.held side lane hlane attr hattr,
      hleft.held side lane hlane attr hattr]
  · intro side lane
    rw [hright.started, hleft.started]
  · exact fun side lane h => hright.rests side lane (hleft.rests side lane h)
  · exact hright.busy.trans hleft.busy

/-- Only a set disturbs the link. -/
theorem calm_next {call : SysCall} (h : ¬ IsSet call) :
    link.Calm d (link.device.next d call) := by
  constructor
  · intro side lane hlane attr hattr
    apply link.holds d call side lane hlane attr hattr
    intro fd value hcall
    exact h ⟨fd, _, value, side, hcall⟩
  · intro side lane
    apply link.runs
    intro fd hcall
    exact h ⟨fd, _, _, _, hcall⟩
  · exact fun side lane => link.rests d call side lane h
  · exact link.calms d call h

/-- A set of one attribute leaves the others of every lane. -/
theorem held_set {fd side lane attr attr' sel value side'}
    (hlane : IsLane lane) (hattr : attr ∈ heldAttributes)
    (hne : attr % 65536 ≠ attr' % 65536) :
    (link.register (link.device.next d (uicIoctl fd
      (uicSetCommand (uicArgMibSel attr' sel) attrSetNor value side')))).ofLane
        side attr lane = (link.register d).ofLane side attr lane := by
  apply link.holds d _ side lane hlane attr hattr
  intro fd' value' hcall
  have hselector := congrArg UicCommand.argument1 (uicIoctl_injective hcall)
  exact uicArgMibSel_ne _ _ hne hselector.symm

/-- What the link says it can do is the same in both states. -/
def Unchanged (link : EyeLink D) (d d' : D) : Prop :=
  ∀ side lane, IsLane lane → ∀ attr ∈ reportedAttributes,
    (link.register d').ofLane side attr lane =
      (link.register d).ofLane side attr lane

theorem Unchanged.refl (d : D) : link.Unchanged d d :=
  fun _ _ _ _ _ => rfl

theorem Unchanged.trans (hleft : link.Unchanged d d')
    (hright : link.Unchanged d' d'') : link.Unchanged d d'' := by
  intro side lane hlane attr hattr
  rw [hright side lane hlane attr hattr, hleft side lane hlane attr hattr]

/-- A link that stays calm can still do the same. -/
theorem Calm.unchanged (hcalm : link.Calm d d') : link.Unchanged d d' := by
  intro side lane hlane attr hattr
  exact hcalm.held side lane hlane attr (List.mem_append_right _ hattr)

/-- A set of an attribute that says nothing about the link. -/
theorem unchanged_set {fd attr sel value side}
    (hne : ∀ attr' ∈ reportedAttributes, attr' % 65536 ≠ attr % 65536) :
    link.Unchanged d (link.device.next d (uicIoctl fd
      (uicSetCommand (uicArgMibSel attr sel) attrSetNor value side))) := by
  intro side' lane hlane attr' hattr
  exact held_set hlane (List.mem_append_right _ hattr) (hne attr' hattr)

end EyeLink

end UfsTools
