/-
A link that can be run, for every eye: two registers of settings and a counter
are enough to do all that is asked of a link with eye monitors.
-/
import UfsTools.EyeLink

namespace UfsTools

open CLib Process

/-- What the link counts at every setting, how long it does, and what the
device says about itself. -/
structure Bench where
  errors : Side → Int → UInt32 → UInt32 → UInt32
  small : ∀ side lane timing volt,
    (errors side lane timing volt).toNat < 0x80000000
  delay : Nat
  descriptor : List UInt8

/-- What was set, what the eye monitors were started with, and for how many
calls they still run. -/
structure BenchState where
  memory : Registers
  started : Side → Int → EyeSettings
  busy : Nat

def BenchState.store (b : BenchState) (side : Side) (sel value : UInt32) :
    BenchState :=
  { b with memory := fun side' sel' =>
      if side' = side ∧ sel' = sel then value else b.memory side' sel' }

/-- A register of one of the two lanes. -/
def laneSel (attr lane : Int) : UInt32 := uicArgMibSel attr (selectRx lane)

/-- The set a call makes, if it makes one. -/
def setOf : SysCall → Option (Side × UInt32 × UInt32)
  | .ioctl fd sgIo =>
      let cmd := uicCommandOf sgIo.request.upiuReq
      [Side.localSide, .peerSide].findSome? fun side =>
        if .ioctl fd sgIo = uicIoctl fd (uicSetCommand cmd.argument1 attrSetNor
          cmd.argument3 side) then some (side, cmd.argument1, cmd.argument3)
        else none
  | _ => none

/-- A set is recognised as one. -/
theorem setOf_set (fd : Int) (attrSel value : UInt32) (side : Side) :
    setOf (uicIoctl fd (uicSetCommand attrSel attrSetNor value side)) =
      some (side, attrSel, value) := by
  have hdecode : uicCommandOf (sgIoRequest (uicRequest (uicSetCommand attrSel
      attrSetNor value side)) 0 .fromDev).request.upiuReq =
        uicSetCommand attrSel attrSetNor value side :=
    uicCommandOf_uicRequest _
  simp only [setOf, uicIoctl, hdecode]
  cases side with
  | localSide => simp [uicSetCommand]
  | peerSide =>
      have hne : SysCall.ioctl fd (sgIoRequest (uicRequest (uicSetCommand
          attrSel attrSetNor value .peerSide)) 0 .fromDev) ≠
        .ioctl fd (sgIoRequest (uicRequest (uicSetCommand attrSel attrSetNor
          value .localSide)) 0 .fromDev) := by
        intro h
        have hcommand : uicCmdDmePeerSet = uicCmdDmeSet :=
          congrArg UicCommand.command (uicIoctl_injective h)
        exact absurd hcommand (by decide)
      simp [uicSetCommand] at hne ⊢
      simp [hne]

theorem setOf_eq_some {call : SysCall} {side : Side} {attrSel value : UInt32}
    (h : setOf call = some (side, attrSel, value)) :
    ∃ fd, call =
      uicIoctl fd (uicSetCommand attrSel attrSetNor value side) := by
  cases call with
  | ioctl fd sgIo =>
      obtain ⟨side', -, hset⟩ := List.exists_of_findSome?_eq_some h
      split_ifs at hset with hcall
      cases hset
      exact ⟨fd, hcall⟩
  | _ => cases h

/-- Nothing else is. -/
theorem setOf_eq_none {call : SysCall} (h : ¬ IsSet call) :
    setOf call = none := by
  rw [Option.eq_none_iff_forall_ne_some]
  rintro ⟨side, attrSel, value⟩ hset
  obtain ⟨fd, hcall⟩ := setOf_eq_some hset
  exact h ⟨fd, attrSel, value, side, hcall⟩

/-! How the bench runs. -/

namespace Bench

variable (bench : Bench)

def counted (b : BenchState) (side : Side) (lane : Int) : UInt32 :=
  bench.errors side lane (b.started side lane).timing
    (b.started side lane).volt

def register (b : BenchState) : Registers := fun side sel =>
  if sel = laneSel rxEyemonStart 0 ∨ sel = laneSel rxEyemonStart 1 then
    if b.busy = 0 then 0 else 1
  else if sel = laneSel rxEyemonTestedCount 0 ∨
      sel = laneSel rxEyemonTestedCount 1 then 127
  else if sel = laneSel rxEyemonErrorCount 0 then bench.counted b side 0
  else if sel = laneSel rxEyemonErrorCount 1 then bench.counted b side 1
  else if sel = uniproStateSel then qcomDmeVsUniproStateLinkUp
  else b.memory side sel

/-- The power mode change starts the eye monitors that are enabled. -/
def start (b : BenchState) (b' : BenchState) : BenchState :=
  { b' with
    busy := bench.delay
    started := fun side lane =>
      if (bench.register b).ofLane side rxEyemonEnable lane = 1 then
        (bench.register b).settings side lane
      else b.started side lane }

def next (b : BenchState) (call : SysCall) : BenchState :=
  match setOf call with
  | some (side, sel, value) =>
      if (side, sel, value) =
          (.localSide, uicArgMibSel paPwrmode (selectTx 0), 0x11) then
        bench.start b (b.store side sel value)
      else b.store side sel value
  | none => { b with busy := b.busy - 1 }

def answer (b : BenchState) : SysCall → SysReply
  | .ioctl _ sgIo =>
      let cmd := uicCommandOf sgIo.request.upiuReq
      let side := if cmd.command = uicCmdDmePeerGet then .peerSide
        else Side.localSide
      let value := if cmd.command = uicCmdDmeGet ∨
        cmd.command = uicCmdDmePeerGet then bench.register b side cmd.argument1
          else 0
      { registerReply value with data := bench.descriptor }
  | _ => { ret := 1 }

def device : Device SysCall SysReply BenchState := ⟨bench.answer, bench.next⟩

variable {bench}

theorem next_set (b : BenchState) (fd : Int) (sel value : UInt32)
    (side : Side) :
    (bench.next b (uicIoctl fd (uicSetCommand sel attrSetNor value
      side))).memory = (b.store side sel value).memory := by
  rw [next, setOf_set]
  dsimp only
  split_ifs <;> rfl

theorem next_powerMode (b : BenchState) (fd : Int) :
    bench.next b (uicIoctl fd powerModeSet) = bench.start b (b.store .localSide
      (uicArgMibSel paPwrmode (selectTx 0)) 0x11) := by
  rw [next, powerModeSet, setOf_set]
  exact if_pos rfl

/-- A call other than a set only lets time pass. -/
theorem next_calm {b : BenchState} {call : SysCall} (h : ¬ IsSet call) :
    bench.next b call = { b with busy := b.busy - 1 } := by
  rw [next, setOf_eq_none h]

/-- What is set up or told about a lane is in the memory. -/
theorem register_held {b : BenchState} {side : Side} {attr lane : Int}
    (hlane : IsLane lane) (hattr : attr ∈ heldAttributes) :
    (bench.register b).ofLane side attr lane =
      b.memory side (uicArgMibSel attr (selectRx lane)) := by
  have hfree : ∀ attr ∈ heldAttributes, ∀ lane ∈ [(0 : Int), 1],
      ¬ (laneSel attr lane = laneSel rxEyemonStart 0 ∨
          laneSel attr lane = laneSel rxEyemonStart 1) ∧
        ¬ (laneSel attr lane = laneSel rxEyemonTestedCount 0 ∨
          laneSel attr lane = laneSel rxEyemonTestedCount 1) ∧
        laneSel attr lane ≠ laneSel rxEyemonErrorCount 0 ∧
        laneSel attr lane ≠ laneSel rxEyemonErrorCount 1 ∧
        laneSel attr lane ≠ uniproStateSel := by
    decide +kernel
  obtain ⟨hstart, htested, hfirst, hsecond, hstate⟩ :=
    hfree attr hattr lane (List.mem_pair.mpr hlane)
  rw [Registers.ofLane, register, ← laneSel, if_neg hstart, if_neg htested,
    if_neg hfirst, if_neg hsecond, if_neg hstate]

/-- A register holds what was last set. -/
theorem memory_next {b : BenchState} {call : SysCall} {side : Side}
    {sel : UInt32} (h : ∀ fd value,
      call ≠ uicIoctl fd (uicSetCommand sel attrSetNor value side)) :
    (bench.next b call).memory side sel = b.memory side sel := by
  by_cases hset : IsSet call
  · obtain ⟨fd, sel', value, side', rfl⟩ := hset
    rw [next_set]
    have hother : ¬ (side = side' ∧ sel = sel') := by
      rintro ⟨rfl, rfl⟩
      exact h fd value rfl
    exact if_neg hother
  · rw [next_calm hset]

/-- Only the power mode set starts an eye monitor. -/
theorem started_next {b : BenchState} {call : SysCall}
    (h : ∀ fd, call ≠ uicIoctl fd powerModeSet) :
    (bench.next b call).started = b.started := by
  rw [next]
  cases hset : setOf call with
  | none => rfl
  | some parts =>
      obtain ⟨side, sel, value⟩ := parts
      dsimp only
      split_ifs with hpower
      · obtain ⟨fd, hcall⟩ := setOf_eq_some hset
        obtain ⟨rfl, hrest⟩ := Prod.mk.inj hpower
        obtain ⟨rfl, rfl⟩ := Prod.mk.inj hrest
        exact absurd hcall (h fd)
      · rfl

/-! The registers of a lane's eye monitor. -/

theorem register_start (b : BenchState) (side : Side) {lane : Int}
    (hlane : IsLane lane) :
    (bench.register b).ofLane side rxEyemonStart lane =
      if b.busy = 0 then 0 else 1 := by
  rw [Registers.ofLane, register, ← laneSel]
  rcases hlane with rfl | rfl
  · exact if_pos (.inl rfl)
  · exact if_pos (.inr rfl)

theorem register_tested (b : BenchState) (side : Side) {lane : Int}
    (hlane : IsLane lane) :
    (bench.register b).ofLane side rxEyemonTestedCount lane = 127 := by
  rw [Registers.ofLane, register, ← laneSel]
  rcases hlane with rfl | rfl
  · rw [if_neg (by decide), if_pos (by decide)]
  · rw [if_neg (by decide), if_pos (by decide)]

theorem register_errors (b : BenchState) (side : Side) {lane : Int}
    (hlane : IsLane lane) :
    (bench.register b).ofLane side rxEyemonErrorCount lane =
      bench.counted b side lane := by
  rw [Registers.ofLane, register, ← laneSel]
  rcases hlane with rfl | rfl
  · rw [if_neg (by decide), if_neg (by decide), if_pos rfl]
  · rw [if_neg (by decide), if_neg (by decide), if_neg (by decide),
      if_pos rfl]

theorem register_state (b : BenchState) :
    bench.register b .localSide uniproStateSel =
      qcomDmeVsUniproStateLinkUp := by
  rw [register, if_neg (by decide), if_neg (by decide), if_neg (by decide),
    if_neg (by decide), if_pos rfl]

/-- The eye monitor rests when its time is over. -/
theorem rests_iff (b : BenchState) (side : Side) {lane : Int}
    (hlane : IsLane lane) :
    (bench.register b).Rests side lane ↔ b.busy = 0 := by
  rw [Registers.Rests, register_start b side hlane]
  split_ifs with hbusy
  · exact iff_of_true (by decide) hbusy
  · exact iff_of_false (by decide) hbusy

/-- One that rests goes on resting. -/
theorem rests_tick {b : BenchState} {side : Side} {lane : Int}
    (h : (bench.register b).Rests side lane) :
    (bench.register { b with busy := b.busy - 1 }).Rests side lane := by
  simp only [Registers.Rests, Registers.ofLane, register, counted] at h ⊢
  split_ifs at h ⊢ with hsel hbusy hbusy'
  all_goals first | exact h | rfl | omega

/-! What the bench answers. -/

theorem not_failed_reply (value : UInt32) (data : List UInt8) :
    ¬ UicFailed { registerReply value with data := data } ∧
      registerValue { registerReply value with data := data } = value := by
  have hreply : uicReplyOf { registerReply value with data := data } =
      { argument3 := value } :=
    uicCommandOf_uicRequest _
  constructor
  · rw [UicFailed, configResultCode, hreply]
    rintro (h | h)
    · exact h rfl
    · have hclear : ((0 : UInt32) &&& maskUicConfigResultCode).toUInt8 = 0 := by
        decide
      exact h hclear
  · rw [registerValue, hreply]

/-- The answer to a read carries the register. -/
theorem answer_get (b : BenchState) (fd : Int) (sel : UInt32) (side : Side) :
    bench.answer b (uicIoctl fd (uicGetCommand sel side)) =
      { registerReply (bench.register b side sel) with
        data := bench.descriptor } := by
  have hdecode : uicCommandOf (sgIoRequest (uicRequest (uicGetCommand sel
      side)) 0 .fromDev).request.upiuReq = uicGetCommand sel side :=
    uicCommandOf_uicRequest _
  simp only [answer, uicIoctl, hdecode]
  cases side with
  | localSide => rfl
  | peerSide => rfl

/-- A set succeeds; its answer carries no value. -/
theorem answer_set (b : BenchState) (fd : Int) (sel value : UInt32)
    (side : Side) :
    bench.answer b (uicIoctl fd (uicSetCommand sel attrSetNor value side)) =
      { registerReply 0 with data := bench.descriptor } := by
  have hdecode : uicCommandOf (sgIoRequest (uicRequest (uicSetCommand sel
      attrSetNor value side)) 0 .fromDev).request.upiuReq =
        uicSetCommand sel attrSetNor value side :=
    uicCommandOf_uicRequest _
  simp only [answer, uicIoctl, hdecode]
  cases side with
  | localSide => rfl
  | peerSide => rfl

theorem setDone_reply (value : UInt32) (data : List UInt8) :
    SetDone value { registerReply 0 with data := data } := by
  obtain ⟨hok, hvalue⟩ := not_failed_reply 0 data
  refine ⟨hok, fun herror => ?_⟩
  rw [hvalue] at herror
  exact absurd herror (by decide)

/-- Polling the START register brings the end of the measurement nearer. -/
theorem busy_next_get {b : BenchState} {side : Side} {lane : Int}
    (hlane : IsLane lane) (h : ¬ (bench.register b).Rests side lane)
    (fd : Int) :
    (bench.next b (uicIoctl fd (eyeMonitorGet rxEyemonStart side lane))).busy <
      b.busy := by
  have hcall := not_isSet_get fd
    (uicArgMibSel rxEyemonStart (selectRx lane)) side
  rw [rests_iff b side hlane] at h
  simp only [eyeMonitorGet, next_calm hcall]
  omega

theorem linkUp (b : BenchState) : (bench.register b).LinkUp := by
  rw [Registers.LinkUp, register_state]
  decide

theorem register_small (b : BenchState) (side : Side) {lane : Int}
    (hlane : IsLane lane) {attr : Int} (hattr : attr ∈ readingAttributes) :
    ((bench.register b).ofLane side attr lane).toNat < 0x80000000 := by
  simp only [readingAttributes, List.mem_cons, List.not_mem_nil,
    or_false] at hattr
  rcases hattr with rfl | rfl | rfl
  · rw [register_start b side hlane]
    split_ifs <;> decide
  · rw [register_tested b side hlane]
    decide
  · rw [register_errors b side hlane]
    exact bench.small _ _ _ _

theorem state_small (b : BenchState) :
    (bench.register b .localSide uniproStateSel).toNat < 0x80000000 := by
  rw [register_state]
  decide

theorem tested_enough (b : BenchState) (side : Side) {lane : Int}
    (hlane : IsLane lane) {count : UInt32} (hcount : count.toNat < 128) :
    count.toNat ≤
      ((bench.register b).ofLane side rxEyemonTestedCount lane).toNat := by
  have htested : (127 : UInt32).toNat = 127 := rfl
  rw [register_tested b side hlane]
  omega

/-- The link of a bench. -/
def link (bench : Bench) : EyeLink BenchState where
  device := bench.device
  opens _ _ _ := Int.one_nonneg
  allocates _ _ := one_ne_zero
  aligns _ _ _ := one_ne_zero
  creates _ _ := one_ne_zero
  writes _ _ _ := Int.one_nonneg
  reads _ _ _ := Int.one_nonneg
  register := bench.register
  gets b fd sel side := by
    simp only [device, answer_get]
    exact not_failed_reply _ _
  sets b fd sel value side := by
    simp only [device, answer_set]
    exact setDone_reply _ _
  errors := bench.errors
  started b := b.started
  busy b := b.busy
  settling _ := 0
  stores := by
    intro b fd side lane hlane attr hattr value _
    have hheld : attr ∈ heldAttributes := List.mem_append_left _ hattr
    rw [register_held hlane hheld, device, eyeMonitorSet, next_set]
    exact if_pos ⟨rfl, rfl⟩
  holds := by
    intro b call side lane hlane attr hattr hcall
    rw [register_held hlane hattr, register_held hlane hattr]
    exact memory_next hcall
  starts := by
    intro b fd side lane _ henabled
    simp only [device, next_powerMode]
    exact if_pos henabled
  runs := by
    intro b call side lane hcall
    exact congrFun (congrFun (started_next hcall) side) lane
  rests := by
    intro b call side lane hcall h
    simp only [device, next_calm hcall]
    exact rests_tick h
  calms := by
    intro b call hcall
    simp only [device, next_calm hcall]
    exact Nat.sub_le _ _
  stops b fd side lane hlane h := busy_next_get hlane h fd
  settles b fd h := absurd (linkUp b) h
  counts b side lane hlane _ :=
    ⟨register_errors b side hlane,
      fun hcount => .inl (tested_enough b side hlane hcount)⟩
  small b side lane hlane attr hattr := register_small b side hlane hattr
  smallState := state_small

/-- The descriptors of a bench, which are all alike. -/
def inquiry (bench : Bench) : Inquiry bench.link.device where
  descriptor _ _ := bench.descriptor
  answers _ _ _ _ := ⟨rfl, rfl⟩

end Bench

end UfsTools
