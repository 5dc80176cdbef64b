/-
The limits of the eye monitor lane by lane: the points ufseom programs on a
lane, against what this lane reports.  `main` reads the limits of the first
lane only, and scans the second with them.
-/
import UfsTools.EomCleanUp
import UfsTools.EomEncoding
import UfsTools.RangeOptions

namespace UfsTools

open CLib Process

/-! Devices. -/

/-- What the registers of either side hold. -/
abbrev Registers := Side → UInt32 → UInt32

/-- A register of the receiver of a lane. -/
def Registers.ofLane (device : Registers) (side : Side) (attr lane : Int) :
    UInt32 :=
  device side (uicArgMibSel attr (selectRx lane))

/-- The number in a register. -/
def Registers.reading (device : Registers) (side : Side) (attr lane : Int) :
    Int :=
  (device.ofLane side attr lane).toNat

/-- The registers in which a lane reports its limits. -/
def limitRegisters : List Int :=
  [rxEyemonCapability, rxEyemonTimingMaxStepsCapability,
    rxEyemonVoltageMaxStepsCapability]

/-- Every read of these registers that went through got what the device
holds. -/
def Reports (device : Registers) (trace : Trace) : Prop :=
  ∀ attr ∈ limitRegisters, ∀ side lane r,
    (uicRequest (eyeMonitorGet attr side lane), r) ∈ exchangesOf trace →
      ¬ UicFailed r → registerValue r = device.ofLane side attr lane

/-- The lane of the point has an eye monitor, and its steps reach the
point. -/
structure Registers.Supports (device : Registers) (side : Side)
    (p : Sweep.Point) : Prop where
  capability : device.ofLane side rxEyemonCapability p.1 &&& 0x1 ≠ 0
  timing : |p.2.1| ≤
    device.reading side rxEyemonTimingMaxStepsCapability p.1
  voltage : |p.2.2| ≤
    device.reading side rxEyemonVoltageMaxStepsCapability p.1

/-! What a run programs. -/

def eyeMonitorSet (attr : Int) (value : UInt32) (side : Side) (lane : Int) :
    UicCommand :=
  uicSetCommand (uicArgMibSel attr (selectRx lane)) attrSetNor value side

def timingWrite (side : Side) (p : Sweep.Point) : UfsBsgRequest :=
  uicRequest (eyeMonitorSet rxEyemonTimingSteps (eomSteps p.2.1) side p.1)

def voltageWrite (side : Side) (p : Sweep.Point) : UfsBsgRequest :=
  uicRequest (eyeMonitorSet rxEyemonVoltageSteps (eomSteps p.2.2) side p.1)

/-- A command that sets an attribute, whatever the side and the lane. -/
def isWriteTo (attr : Int) (request : UfsBsgRequest) : Bool :=
  let cmd := uicCommandOf request.upiuReq
  request.msgcode = upiuTransactionUicCmd ∧
    (cmd.command = uicCmdDmeSet ∨ cmd.command = uicCmdDmePeerSet) ∧
      ((cmd.argument1.toNat / 65536 : Nat) : Int) = attr

/-- The requests program these points, in this order.  The last may have got
its timing only. -/
structure Programs (side : Side) (points : List Sweep.Point)
    (requests : List UfsBsgRequest) : Prop where
  timing : requests.filter (isWriteTo rxEyemonTimingSteps) =
    points.map (timingWrite side)
  voltage : requests.filter (isWriteTo rxEyemonVoltageSteps) <+:
    points.map (voltageWrite side)

/-- The run has programmed the first points of its loops, and each of them is
one that its lane supports. -/
structure WithinLimits (device : Registers) (m : Machine EomGlobals) :
    Prop where
  programmed : ∃ points, points <+: (scanBox m.mem).points ∧
    Programs m.mem.eomData.localPeer points (sentOf m.trace) ∧
      ∀ p ∈ points, device.Supports m.mem.eomData.localPeer p

/-! The checks of `main`, for any lane. -/

/-- The limits a lane reports, in place of those that were read. -/
def EomGlobals.limitedTo (g : EomGlobals) (device : Registers) (lane : Int) :
    EomGlobals :=
  let limit (attr : Int) := device.reading g.eomData.localPeer attr lane
  { g with eomData := { g.eomData with
      timingMaxSteps := limit rxEyemonTimingMaxStepsCapability
      voltageMaxSteps := limit rxEyemonVoltageMaxStepsCapability } }

/-- What `main` checks about its first lane. -/
structure LanePasses (device : Registers) (g : EomGlobals) (lane : Int) :
    Prop where
  capability : device.ofLane g.eomData.localPeer rxEyemonCapability lane &&&
    0x1 ≠ 0
  ranges : timingVoltageError (g.limitedTo device lane) = none

/-- Two lanes are to be scanned, and neither the first of them nor the size of
the scan stops the program before the second. -/
structure ReachesSecond (device : Registers) (g : EomGlobals) : Prop where
  lanes : g.eomData.numLanes = 2
  first : LanePasses device g 0
  readable : g.eomData.timingMaxSteps ≤ intMax ∧
    g.eomData.voltageMaxSteps ≤ intMax
  fits : ScanFits g

/-- Whatever `main` scans on the second lane, after it has filled in the
ranges from the first, would pass its own checks there. -/
def SecondLanePasses (device : Registers) (argv : List Text) : Prop :=
  ∀ g entries, parseArgs argv (initEomOperation {}) = .ok (g, entries) →
    let filled := timingVoltageDefaults (g.limitedTo device 0)
    ReachesSecond device filled → LanePasses device filled 1

/-! The writes of a call of `eom_scan`. -/

variable {attr attr' sel : Int} {value : UInt32} {side : Side}
  {lane timing volt targetCount : Int} {h : History}

theorem argument1_attr (attr sel : Int) :
    (((uicArgMibSel attr sel).toNat / 65536 : Nat) : Int) = attr % 65536 := by
  have hword := toNat_uicArgMibSel attr sel
  omega

theorem isWriteTo_set : isWriteTo attr (uicRequest
    (uicSetCommand (uicArgMibSel attr' sel) attrSetNor value side)) =
      decide (attr' % 65536 = attr) := by
  have hattr := argument1_attr attr' sel
  rw [isWriteTo, uicCommandOf_uicRequest]
  simp only [uicSetCommand, hattr]
  cases side <;> simp [uicRequest]

/-- A set in front of other requests. -/
theorem filter_set_hit {rest : List UfsBsgRequest}
    (hattr : attr' % 65536 = attr) : (uicRequest (uicSetCommand
      (uicArgMibSel attr' sel) attrSetNor value side) :: rest).filter
        (isWriteTo attr) = uicRequest (uicSetCommand (uicArgMibSel attr' sel)
          attrSetNor value side) :: rest.filter (isWriteTo attr) :=
  List.filter_cons_of_pos (isWriteTo_set.trans (decide_eq_true hattr))

theorem filter_set_miss {rest : List UfsBsgRequest}
    (hattr : attr' % 65536 ≠ attr) : (uicRequest (uicSetCommand
      (uicArgMibSel attr' sel) attrSetNor value side) :: rest).filter
        (isWriteTo attr) = rest.filter (isWriteTo attr) := by
  apply List.filter_cons_of_neg
  rw [isWriteTo_set, decide_eq_false hattr]
  decide

theorem isWriteTo_get {attrSel : UInt32} :
    isWriteTo attr (uicRequest (uicGetCommand attrSel side)) = false := by
  rw [isWriteTo, uicCommandOf_uicRequest]
  cases side <;> simp [uicGetCommand, uicCmdDmeGet, uicCmdDmePeerGet,
    uicCmdDmeSet, uicCmdDmePeerSet]

theorem isWriteTo_query (op : QueryOperation) (length : UInt16) :
    isWriteTo attr (querySent op length) = false := by
  simp [isWriteTo, querySent, composeUfsBsgReq, utpUpiuQueryReq,
    upiuTransactionUicCmd]

theorem Gets.filter_write (hgets : Gets h) :
    h.requests.filter (isWriteTo attr) = [] := by
  rw [List.filter_eq_nil_iff]
  intro request hmem
  obtain ⟨x, hx, rfl⟩ := List.mem_map.mp hmem
  obtain ⟨attrSel, peer, hcommand⟩ := hgets x hx
  rw [hcommand, isWriteTo_get]
  decide

theorem requests_eq (h : History) :
    h.requests = (h.map Prod.fst).map uicRequest := by
  simp [History.requests]

theorem requests_append (h h' : History) :
    History.requests (h ++ h') = h.requests ++ h'.requests :=
  List.map_append

/-- What a call writes to the two registers: nothing yet, or its timing and
perhaps its voltage. -/
inductive PointWrites (side : Side) (p : Sweep.Point) (h : History) : Prop
  | none (htiming : h.requests.filter (isWriteTo rxEyemonTimingSteps) = [])
      (hvoltage : h.requests.filter (isWriteTo rxEyemonVoltageSteps) = [])
  | timing (htiming : h.requests.filter (isWriteTo rxEyemonTimingSteps) =
        [timingWrite side p])
      (hvoltage : h.requests.filter (isWriteTo rxEyemonVoltageSteps) <+:
        [voltageWrite side p])

/-- A call up to its second set, or beyond it. -/
theorem prefix_cons_cons {α : Type} {xs rest : List α} {x y : α}
    (hinitial : xs <+: x :: y :: rest) :
    xs <+: [x] ∨ ∃ tail, xs = x :: y :: tail ∧ tail <+: rest := by
  rcases List.prefix_cons_iff.mp hinitial with rfl | ⟨ys, rfl, hys⟩
  · exact .inl List.nil_prefix
  rcases List.prefix_cons_iff.mp hys with rfl | ⟨tail, rfl, htail⟩
  · exact .inl (List.prefix_refl _)
  · exact .inr ⟨tail, rfl, htail⟩

theorem SetsBegun.pointWrites (hbegun : SetsBegun (configSets side lane
      (eomSteps timing) (eomSteps volt) targetCount) h) :
    PointWrites side (lane, timing, volt) h := by
  have hrequests := hbegun.map uicRequest
  rw [← requests_eq] at hrequests
  simp only [configSets, List.map_cons, List.map_nil, RegisterSet.command]
    at hrequests
  rcases prefix_cons_cons hrequests with hfirst | ⟨tail, hall, htail⟩
  · have htiming := hfirst.filter (isWriteTo rxEyemonTimingSteps)
    have hvoltage := hfirst.filter (isWriteTo rxEyemonVoltageSteps)
    simp (disch := decide) only [filter_set_miss, List.filter_nil,
      List.prefix_nil] at htiming hvoltage
    exact .none htiming hvoltage
  · have htiming := htail.filter (isWriteTo rxEyemonTimingSteps)
    have hvoltage := htail.filter (isWriteTo rxEyemonVoltageSteps)
    simp (disch := decide) only [filter_set_hit, filter_set_miss,
      List.filter_nil, List.prefix_nil] at htiming hvoltage
    apply PointWrites.timing
    · rw [hall, filter_set_miss (by decide), filter_set_hit (by decide),
        htiming]
      rfl
    · rw [hall, filter_set_miss (by decide), filter_set_miss (by decide)]
      exact hvoltage

theorem AllSet.pointWrites (hall : AllSet (configSets side lane
      (eomSteps timing) (eomSteps volt) targetCount) h) :
    h.requests.filter (isWriteTo rxEyemonTimingSteps) =
        [timingWrite side (lane, timing, volt)] ∧
      h.requests.filter (isWriteTo rxEyemonVoltageSteps) =
        [voltageWrite side (lane, timing, volt)] := by
  rw [requests_eq, hall.commands]
  simp only [configSets, List.map_cons, List.map_nil, RegisterSet.command]
  simp (disch := decide) only [filter_set_hit, filter_set_miss,
    List.filter_nil]
  exact ⟨rfl, rfl⟩

/-- All that a call has written when it returns or stops. -/
theorem PointWrites.append {p : Sweep.Point} {h' : History}
    (hwrites : PointWrites side p h) (hgets : Gets h') :
    PointWrites side p (h ++ h') := by
  have hsame : ∀ attr, (History.requests (h ++ h')).filter (isWriteTo attr) =
      h.requests.filter (isWriteTo attr) := by
    intro attr
    rw [requests_append, List.filter_append, hgets.filter_write,
      List.append_nil]
  cases hwrites with
  | none htiming hvoltage =>
      exact .none ((hsame _).trans htiming) ((hsame _).trans hvoltage)
  | timing htiming hvoltage =>
      exact .timing ((hsame _).trans htiming) (hsame _ ▸ hvoltage)

theorem ScanHistory.pointWrites {errors : Int}
    (hscan : ScanHistory side lane timing volt targetCount errors h) :
    h.requests.filter (isWriteTo rxEyemonTimingSteps) =
        [timingWrite side (lane, timing, volt)] ∧
      h.requests.filter (isWriteTo rxEyemonVoltageSteps) =
        [voltageWrite side (lane, timing, volt)] := by
  obtain ⟨sets, polls, rounds, final, rfl, hsets, hpolls, hrounds, hfinal⟩ :=
    hscan.split
  obtain ⟨htiming, hvoltage⟩ := hsets.pointWrites
  simp only [requests_append, List.filter_append, hpolls.gets.filter_write,
    (gets_flatten hrounds).filter_write, hfinal.gets.filter_write,
    List.append_nil]
  exact ⟨htiming, hvoltage⟩

theorem ScanRefused.pointWrites {trace : Trace}
    (hscan : ScanRefused side lane timing volt targetCount trace h) :
    PointWrites side (lane, timing, volt) h := by
  cases hscan with
  | config hrefused => exact SetsBegun.pointWrites hrefused.commands
  | round hsets hpolls hrounds hrefused =>
      have hgets := (hpolls.gets.append (gets_flatten hrounds)).append
        hrefused.gets
      simpa only [List.append_assoc] using
        hsets.begun.pointWrites.append hgets

/-! The loops. -/

/-- What the limits of a lane are held against. -/
structure SameScan (g g' : EomGlobals) : Prop where
  side : g'.eomData.localPeer = g.eomData.localPeer
  box : scanBox g' = scanBox g

theorem SameScan.symm {g g' : EomGlobals} (hsame : SameScan g g') :
    SameScan g' g := ⟨hsame.side.symm, hsame.box.symm⟩

/-- The loops started with `g`, behind the exchanges `before`, and have
programmed `points`. -/
structure Programming (g : EomGlobals)
    (before : List (UfsBsgRequest × SysReply)) (points : List Sweep.Point)
    (m : Machine EomGlobals) : Prop where
  same : SameScan g m.mem
  grows : before <+: exchangesOf m.trace
  first : points <+: (scanBox g).points
  reached : ∀ p ∈ points, p.1 = g.lane ∨ ScanFits g
  timing : (sentOf m.trace).filter (isWriteTo rxEyemonTimingSteps) =
    points.map (timingWrite g.eomData.localPeer)
  voltage : (sentOf m.trace).filter (isWriteTo rxEyemonVoltageSteps) =
    points.map (voltageWrite g.eomData.localPeer)

/-- The loops were left, or have not begun. -/
structure Stopped (g : EomGlobals) (before : List (UfsBsgRequest × SysReply))
    (m : Machine EomGlobals) : Prop where
  same : SameScan g m.mem
  grows : before <+: exchangesOf m.trace
  points : ∃ points, points <+: (scanBox g).points ∧
    (∀ p ∈ points, p.1 = g.lane ∨ ScanFits g) ∧
      Programs g.eomData.localPeer points (sentOf m.trace)

variable {g : EomGlobals} {before : List (UfsBsgRequest × SysReply)}
  {points : List Sweep.Point} {m m' : Machine EomGlobals}

theorem Programming.stopped (hm : Programming g before points m) :
    Stopped g before m := by
  refine ⟨hm.same, hm.grows, points, hm.first, hm.reached, hm.timing, ?_⟩
  rw [hm.voltage]

/-- From `m` to `m'` the program sent no write of the two registers. -/
structure Idle (m m' : Machine EomGlobals) : Prop where
  grows : exchangesOf m.trace <+: exchangesOf m'.trace
  timing : (sentOf m'.trace).filter (isWriteTo rxEyemonTimingSteps) =
    (sentOf m.trace).filter (isWriteTo rxEyemonTimingSteps)
  voltage : (sentOf m'.trace).filter (isWriteTo rxEyemonVoltageSteps) =
    (sentOf m.trace).filter (isWriteTo rxEyemonVoltageSteps)

theorem Idle.of_history {later : List (UfsBsgRequest × SysReply)}
    (hhistory : exchangesOf m'.trace = exchangesOf m.trace ++ later)
    (htiming : (later.map Prod.fst).filter (isWriteTo rxEyemonTimingSteps) =
      [])
    (hvoltage : (later.map Prod.fst).filter (isWriteTo rxEyemonVoltageSteps) =
      []) : Idle m m' := by
  constructor
  · rw [hhistory]
    exact List.prefix_append _ _
  · rw [sentOf_of_history hhistory, List.filter_append, htiming,
      List.append_nil]
  · rw [sentOf_of_history hhistory, List.filter_append, hvoltage,
      List.append_nil]

theorem Idle.of_exchanges
    (hexchanges : exchangesOf m'.trace = exchangesOf m.trace) : Idle m m' :=
  .of_history (hexchanges.trans (List.append_nil _).symm) rfl rfl

theorem Idle.note (m : Machine EomGlobals) (n : Note) :
    Idle m { m with trace := m.trace ++ [.note n] } := by
  apply Idle.of_exchanges
  rw [exchangesOf_append]
  exact List.append_nil _

theorem Talks.idle (ht : Talks m m' h)
    (htiming : h.requests.filter (isWriteTo rxEyemonTimingSteps) = [])
    (hvoltage : h.requests.filter (isWriteTo rxEyemonVoltageSteps) = []) :
    Idle m m' := by
  rw [← requestsOf_fst] at htiming hvoltage
  exact .of_history ht.history htiming hvoltage

theorem Asks.idle (hasks : Asks m m' h) : Idle m m' := by
  apply Idle.of_history hasks.history
  · rw [requestsOf_fst, hasks.gets.filter_write]
  · rw [requestsOf_fst, hasks.gets.filter_write]

theorem Queries.idle {test : Note → Bool} (hqueries : Queries test m m') :
    Idle m m' := by
  obtain ⟨queries, hhistory, hsent⟩ := hqueries.history
  have hnone : ∀ attr, (queries.map Prod.fst).filter (isWriteTo attr) = [] := by
    intro attr
    rw [List.filter_eq_nil_iff]
    intro request hmem
    obtain ⟨x, hx, rfl⟩ := List.mem_map.mp hmem
    obtain ⟨op, length, hquery⟩ := hsent x hx
    rw [hquery, isWriteTo_query]
    decide
  exact .of_history hhistory (hnone _) (hnone _)

theorem Programming.idle (hm : Programming g before points m)
    (hsame : SameScan g m'.mem) (hidle : Idle m m') :
    Programming g before points m' :=
  ⟨hsame, hm.grows.trans hidle.grows, hm.first, hm.reached,
    hidle.timing.trans hm.timing, hidle.voltage.trans hm.voltage⟩

theorem Stopped.idle (hm : Stopped g before m) (hsame : SameScan g m'.mem)
    (hidle : Idle m m') : Stopped g before m' := by
  obtain ⟨points, hfirst, hreached, htiming, hvoltage⟩ := hm.points
  refine ⟨hsame, hm.grows.trans hidle.grows, points, hfirst, hreached, ?_, ?_⟩
  · rw [hidle.timing, htiming]
  · rwa [hidle.voltage]

theorem Stopped.note (hm : Stopped g before m) (n : Note) :
    Stopped g before { m with trace := m.trace ++ [.note n] } :=
  hm.idle ⟨hm.same.side, hm.same.box⟩ (.note m n)

theorem SameScan.talks (hsame : SameScan g m.mem) (ht : Talks m m' h) :
    SameScan g m'.mem := by
  rwa [ht.mem]

theorem SameScan.logged {g' g'' : EomGlobals} (hsame : SameScan g g')
    (hlogged : Logged g' g'') : SameScan g g'' := by
  obtain ⟨er, n, rfl⟩ := hlogged
  exact ⟨hsame.side, hsame.box⟩

theorem Talks.grows (ht : Talks m m' h)
    (hgrows : before <+: exchangesOf m.trace) :
    before <+: exchangesOf m'.trace := by
  rw [ht.history]
  exact hgrows.trans (List.prefix_append _ _)

theorem Talks.filter_write (ht : Talks m m' h) (attr : Int) :
    (sentOf m'.trace).filter (isWriteTo attr) =
      (sentOf m.trace).filter (isWriteTo attr) ++
        h.requests.filter (isWriteTo attr) := by
  rw [ht.sentOf_eq, List.filter_append]

/-- A call that has written its point. -/
theorem Programming.scanned {p : Sweep.Point}
    (hm : Programming g before points m) (ht : Talks m m' h)
    (hreached : p.1 = g.lane ∨ ScanFits g)
    (hinitial : points ++ [p] <+: (scanBox g).points)
    (htiming : h.requests.filter (isWriteTo rxEyemonTimingSteps) =
      [timingWrite g.eomData.localPeer p])
    (hvoltage : h.requests.filter (isWriteTo rxEyemonVoltageSteps) =
      [voltageWrite g.eomData.localPeer p]) :
    Programming g before (points ++ [p]) m' := by
  refine ⟨hm.same.talks ht, ht.grows hm.grows, hinitial, ?_, ?_, ?_⟩
  · intro q hq
    rcases List.mem_append.mp hq with hq | hq
    · exact hm.reached q hq
    · rwa [List.mem_singleton.mp hq]
  · rw [ht.filter_write, hm.timing, htiming, List.map_append]
    rfl
  · rw [ht.filter_write, hm.voltage, hvoltage, List.map_append]
    rfl

/-- A call that stops somewhere on the way. -/
theorem Programming.left {p : Sweep.Point}
    (hm : Programming g before points m) (ht : Talks m m' h)
    (hreached : p.1 = g.lane ∨ ScanFits g)
    (hwrites : PointWrites g.eomData.localPeer p h)
    (hinitial : points ++ [p] <+: (scanBox g).points) :
    Stopped g before m' := by
  refine ⟨hm.same.talks ht, ht.grows hm.grows, ?_⟩
  cases hwrites with
  | none htiming hvoltage =>
      refine ⟨points, hm.first, hm.reached, ?_, ?_⟩
      · rw [ht.filter_write, hm.timing, htiming, List.append_nil]
      · rw [ht.filter_write, hm.voltage, hvoltage, List.append_nil]
  | timing htiming hvoltage =>
      refine ⟨points ++ [p], hinitial, ?_, ?_, ?_⟩
      · intro q hq
        rcases List.mem_append.mp hq with hq | hq
        · exact hm.reached q hq
        · rwa [List.mem_singleton.mp hq]
      · rw [ht.filter_write, hm.timing, htiming, List.map_append]
        rfl
      · rw [ht.filter_write, hm.voltage, List.map_append,
          List.prefix_append_right_inj]
        exact hvoltage

theorem wp_scanPoint_programs
    (hin : (scanBox g).Mem (lane, timing, volt))
    (hreached : lane = g.lane ∨ ScanFits g)
    (hm : Programming g before ((scanBox g).visited lane timing volt) m) :
    wp (scanPoint lane timing volt)
      (SweepStep (Programming g before) (fun _ => Stopped g before)
        ((scanBox g).visited lane timing (volt + 1)))
      (fun _ => Stopped g before) m := by
  have hlow : (scanBox g).zLow ≤ volt := hin.2.2.1
  have hstep := (scanBox g).visited_step (x := lane) (y := timing) hlow
  have hinitial := (scanBox g).visited_grows hin
  rw [hstep] at hinitial ⊢
  rw [scanPoint, wp_bind, wp_get, wp_bind, hm.same.side]
  apply wp_eomScan_logs
  · intro h m₁ errors ht hscan
    obtain ⟨htiming, hvoltage⟩ := hscan.pointWrites
    have hm₁ := hm.scanned ht hreached hinitial htiming hvoltage
    apply wp_logResult_notes
    · intro m₂ hlogged htrace
      have hm₂ := hm₁.idle (hm₁.same.logged hlogged)
        (.of_exchanges (by simp [htrace, exchangesOf]))
      simp only [success, ne_eq, not_true_eq_false, if_false, wp_pure]
      exact hm₂
    · intro m₂ text _ hlogged htrace
      have hm₂ := hm₁.idle (hm₁.same.logged hlogged)
        (.of_exchanges (by simp [htrace, exchangesOf]))
      have herror : error ≠ 0 := by decide
      simp only [if_pos herror, wp_bind, wp_note, wp_pure]
      exact hm₂.stopped.note _
    · intro m₂ hlogged htrace
      exact hm₁.stopped.idle (hm₁.same.logged hlogged)
        (.of_exchanges (by simp [htrace, exchangesOf]))
  · intro h m₁ ht hscan
    have hm₁ := hm.left ht hreached hscan.pointWrites hinitial
    have herror : error ≠ 0 := by decide
    simp only [if_pos herror, wp_bind, wp_note, wp_pure]
    exact hm₁.note _
  · intro sets gets m₁ ht hbegun hgets
    exact hm.left ht hreached (hbegun.pointWrites.append hgets) hinitial

theorem wp_disableEyeMonitor_programs
    (hm : Programming g before points m) :
    wp (disableEyeMonitor lane)
      (SweepStep (Programming g before) (fun _ => Stopped g before) points)
      (fun _ => Stopped g before) m := by
  simp only [disableEyeMonitor, uicSet_eq_exchange, wp_bind, wp_get]
  apply wp_exchange
  · exact fun _ => hm.stopped
  · intro r rest hreplies
    have ht := Talks.of_command m.mem.bsgFd (uicSetCommand (uicArgMibSel
      rxEyemonEnable (selectRx lane)) attrSetNor 0 m.mem.eomData.localPeer)
        hreplies
    have hm₁ := hm.idle (hm.same.talks ht)
      (ht.idle (filter_set_miss (by decide)) (filter_set_miss (by decide)))
    split_ifs
    · rw [wp_bind, wp_note, wp_pure]
      exact hm₁.stopped.note _
    · rw [wp_pure]
      exact hm₁

theorem CountersFit.scanFits (hfit : CountersFit g)
    (hsize : scanSize g ≤ intMax) (htiming : g.timingLeft ≤ intMax)
    (hvoltage : g.voltageLow ≤ intMax) : ScanFits g :=
  ⟨hsize, hfit.timing htiming, hfit.voltage hvoltage⟩

theorem sweeps_programming (hsize : scanSize g ≤ intMax)
    (htiming : g.timingLeft ≤ intMax) (hvoltage : g.voltageLow ≤ intMax) :
    Sweeps g (Programming g before) (fun _ => Stopped g before)
      (fun _ => Stopped g before) := by
  constructor
  · exact fun points m hm => hm.same.box
  · intro lane timing volt m hin hreached hm
    exact wp_scanPoint_programs hin (hreached.imp_right fun hfit =>
      hfit.scanFits hsize htiming hvoltage) hm
  · exact fun lane points m hm => wp_disableEyeMonitor_programs hm
  · exact fun points m _ hm => hm.stopped

/-! The checks and the points behind them. -/

variable {device : Registers} {trace : Trace} {value' : Int}

/-- What was read of a lane is what this lane reports. -/
theorem LaneReads.reported (hread : LaneReads g attr value' h)
    (hattr : attr ∈ limitRegisters) (hsent : requestsOf h <+: exchangesOf trace)
    (hreports : Reports device trace) :
    device.reading g.eomData.localPeer attr g.lane = value' := by
  obtain ⟨x, hx, hreads⟩ := hread.read
  have hmem : (uicRequest x.1, x.2) ∈ exchangesOf trace :=
    hsent.subset (List.mem_map.mpr ⟨x, hx, rfl⟩)
  rw [hreads.command] at hmem
  rw [Registers.reading, ← hreports attr hattr _ _ _ hmem hreads.succeeded,
    hreads.value]

theorem EomGlobals.limitedTo_eq
    (htiming : device.reading g.eomData.localPeer
      rxEyemonTimingMaxStepsCapability lane = g.eomData.timingMaxSteps)
    (hvoltage : device.reading g.eomData.localPeer
      rxEyemonVoltageMaxStepsCapability lane = g.eomData.voltageMaxSteps) :
    g.limitedTo device lane = g := by
  simp only [EomGlobals.limitedTo, htiming, hvoltage]

/-- The points of the loops are within the limits of a lane that passes. -/
theorem LanePasses.supports (hpasses : LanePasses device g lane)
    (hin : (scanBox g).Mem (lane, timing, volt)) :
    device.Supports g.eomData.localPeer (lane, timing, volt) := by
  obtain ⟨⟨hlow, hhigh, -⟩, hleft, hright, -⟩ :=
    (timingVoltageError_eq_none_iff _).mp hpasses.ranges
  rw [beyond_eq_false_iff] at hlow hhigh hleft hright
  obtain ⟨-, ⟨htimingLo, htimingHi⟩, hvoltLo, hvoltHi⟩ := hin
  constructor
  · exact hpasses.capability
  · exact abs_le.mpr ⟨hleft.1.trans htimingLo,
      (Int.le_of_lt_add_one htimingHi).trans hright.2⟩
  · exact abs_le.mpr ⟨hlow.1.trans hvoltLo,
      (Int.le_of_lt_add_one hvoltHi).trans hhigh.2⟩

/-- The checks depend on the side and on the ranges only. -/
theorem SameScan.lanePasses {g' : EomGlobals} (hsame : SameScan g g')
    (hpasses : LanePasses device g lane) : LanePasses device g' lane := by
  obtain ⟨-, -, ⟨hleft, hright⟩, hlow, hhigh⟩ := scanBox_eq_iff.mp hsame.box
  have hranges := hpasses.ranges
  constructor
  · rw [hsame.side]
    exact hpasses.capability
  · rw [timingVoltageError_eq_none_iff] at hranges ⊢
    simpa only [EomGlobals.limitedTo, hsame.side, hleft, hright, hlow, hhigh]
      using hranges

theorem SameScan.scanFits {g' : EomGlobals} (hsame : SameScan g g')
    (hfits : ScanFits g) : ScanFits g' := by
  obtain ⟨-, hnum, ⟨hleft, hright⟩, hlow, hhigh⟩ := scanBox_eq_iff.mp hsame.box
  constructor
  · simpa only [scanSize, hnum, hleft, hright, hlow, hhigh] using hfits.size
  · rw [hright]
    exact hfits.timing
  · rw [hhigh]
    exact hfits.voltage

theorem ofInt_toNat (x : UInt32) : UInt32.ofInt x.toNat = x := by
  have hlt := x.toNat_lt
  rw [UInt32.ofInt, Int.emod_eq_of_lt (by omega) (by exact_mod_cast hlt),
    Int.toNat_natCast, UInt32.ofNat_toNat]

/-- What `main` has checked about its first lane before the loops. -/
theorem Checked.first {g₀ : EomGlobals} (hchecked : Checked g₀ g h)
    (hsent : requestsOf h <+: exchangesOf trace)
    (hreports : Reports device trace) : LanePasses device g g.lane := by
  obtain ⟨value, hread, hbit⟩ := hchecked.capability
  have hvalue := hread.reported (by simp [limitRegisters]) hsent hreports
  have htiming := hchecked.timing.reported (by simp [limitRegisters]) hsent
    hreports
  have hvoltage := hchecked.voltage.reported (by simp [limitRegisters]) hsent
    hreports
  constructor
  · rwa [← hvalue, Registers.reading, ofInt_toNat] at hbit
  · rw [EomGlobals.limitedTo_eq htiming hvoltage]
    exact hchecked.accepted

theorem scanBox_given (g : EomGlobals) : scanBox g.given = scanBox g := rfl

/-- The defaults depend on the given variables and on the limits. -/
theorem SameScan.filled {g' : EomGlobals} (hgiven : g.given = g'.given)
    (htiming : g.eomData.timingMaxSteps = g'.eomData.timingMaxSteps)
    (hvoltage : g.eomData.voltageMaxSteps = g'.eomData.voltageMaxSteps) :
    SameScan (timingVoltageDefaults g) (timingVoltageDefaults g') := by
  have hbox : scanBox g' = scanBox g := by
    rw [← scanBox_given g', ← hgiven, scanBox_given]
  obtain ⟨hlane, hnum, ⟨hleft, hright⟩, hlow, hhigh⟩ := scanBox_eq_iff.mp hbox
  constructor
  · exact (congrArg (fun g => g.eomData.localPeer) hgiven).symm
  · rw [scanBox_eq_iff]
    simp only [timingVoltageDefaults, htiming, hvoltage, hlane, hnum, hleft,
      hright, hlow, hhigh, and_self]

/-- The variables of the loops, from those of the command line. -/
theorem Checked.sameScan {g₀ : EomGlobals} {fd : Int}
    (hchecked : Checked { g₀ with bsgFd := fd } g h)
    (hsent : requestsOf h <+: exchangesOf trace)
    (hreports : Reports device trace) :
    SameScan (timingVoltageDefaults (g₀.limitedTo device g.lane)) g := by
  have htiming := hchecked.timing.reported (by simp [limitRegisters]) hsent
    hreports
  have hvoltage := hchecked.voltage.reported (by simp [limitRegisters]) hsent
    hreports
  obtain ⟨g₁, hgiven, rfl⟩ := hchecked.ranges
  have hside : g₁.eomData.localPeer = g₀.eomData.localPeer :=
    congrArg (fun g => g.eomData.localPeer) hgiven
  have hfilled : SameScan
      (timingVoltageDefaults ({ g₀ with bsgFd := fd }.limitedTo device g₁.lane))
      (timingVoltageDefaults g₁) := by
    apply SameScan.filled
    · exact hgiven.symm
    · exact (congrArg (device.reading · _ g₁.lane) hside.symm).trans htiming
    · exact (congrArg (device.reading · _ g₁.lane) hside.symm).trans hvoltage
  exact ⟨hfilled.side, hfilled.box⟩

/-- The lanes of the loops pass the checks. -/
structure LanesPass (device : Registers) (g : EomGlobals) : Prop where
  lanes : LanesChosen g
  first : LanePasses device g g.lane
  second : g.eomData.numLanes = 2 → ScanFits g → LanePasses device g 1

theorem LanesPass.supports (hpass : LanesPass device g) {p : Sweep.Point}
    (hin : (scanBox g).Mem p) (hreached : p.1 = g.lane ∨ ScanFits g) :
    device.Supports g.eomData.localPeer p := by
  obtain ⟨lane, timing, volt⟩ := p
  by_cases hlane : lane = g.lane
  · subst hlane
    exact hpass.first.supports hin
  -- only a measurement of both lanes has another lane
  · have hbounds : g.lane ≤ lane ∧ lane < g.lane + g.eomData.numLanes := hin.1
    have hboth : g.eomData.numLanes = 2 ∧ lane = 1 := by
      rcases hpass.lanes with hone | hboth <;> omega
    obtain ⟨hnum, rfl⟩ := hboth
    exact (hpass.second hnum (hreached.resolve_left hlane)).supports hin

theorem SameScan.lanesPass {g' : EomGlobals} (hsame : SameScan g g')
    (hpass : LanesPass device g) : LanesPass device g' := by
  obtain ⟨hlane, hnum, -⟩ := scanBox_eq_iff.mp hsame.box
  constructor
  · rw [LanesChosen, hlane, hnum]
    exact hpass.lanes
  · rw [hlane]
    exact hsame.lanePasses hpass.first
  · intro hboth hfits
    rw [hnum] at hboth
    exact hsame.lanePasses (hpass.second hboth (hsame.symm.scanFits hfits))

/-- The first lane passes the checks of `main`, the second by assumption. -/
theorem Checked.lanesPass {g₀ : EomGlobals} {fd : Int} {argv : List Text}
    {entries : List Note} (hsecond : SecondLanePasses device argv)
    (hargs : parseArgs argv (initEomOperation {}) = .ok (g₀, entries))
    (hchecked : Checked { g₀ with bsgFd := fd } g h) (hlanes : LanesChosen g)
    (hsent : requestsOf h <+: exchangesOf trace)
    (hreports : Reports device trace) : LanesPass device g := by
  have hfirst := hchecked.first hsent hreports
  refine ⟨hlanes, hfirst, ?_⟩
  intro hboth hfits
  have hzero : g.lane = 0 := by rcases hlanes with hone | htwo <;> omega
  have hsame := hchecked.sameScan hsent hreports
  have htiming := hchecked.timing.reported (by simp [limitRegisters]) hsent
    hreports
  have hvoltage := hchecked.voltage.reported (by simp [limitRegisters]) hsent
    hreports
  rw [hzero] at hsame hfirst htiming hvoltage
  obtain ⟨-, hnum, -⟩ := scanBox_eq_iff.mp hsame.box
  apply hsame.lanePasses
  apply hsecond g₀ entries hargs
  constructor
  · exact hnum.symm.trans hboth
  · exact hsame.symm.lanePasses hfirst
  · have hside : g.eomData.localPeer = g₀.eomData.localPeer := hsame.side
    rw [hside] at htiming hvoltage
    exact ⟨htiming.trans_le hchecked.timing.bounds.2,
      hvoltage.trans_le hchecked.voltage.bounds.2⟩
  · exact hsame.symm.scanFits hfits

theorem Stopped.withinLimits (hm : Stopped g before m)
    (hpass : LanesPass device g) : WithinLimits device m := by
  obtain ⟨points, hfirst, hreached, hprograms⟩ := hm.points
  refine ⟨points, ?_, ?_, ?_⟩
  · rwa [hm.same.box]
  · rwa [hm.same.side]
  · intro p hp
    rw [hm.same.side]
    exact hpass.supports ((scanBox g).mem_points_iff.mp (hfirst.subset hp))
      (hreached p hp)

/-- No point is programmed. -/
structure Unwritten (trace : Trace) : Prop where
  timing : (sentOf trace).filter (isWriteTo rxEyemonTimingSteps) = []
  voltage : (sentOf trace).filter (isWriteTo rxEyemonVoltageSteps) = []

theorem Unwritten.idle (hm : Unwritten m.trace) (hidle : Idle m m') :
    Unwritten m'.trace :=
  ⟨hidle.timing.trans hm.timing, hidle.voltage.trans hm.voltage⟩

theorem Started.unwritten (hm : Started m) : Unwritten m.trace := by
  have hnone : sentOf m.trace = [] := by rw [sentOf, hm.silent, List.map_nil]
  constructor <;> rw [hnone, List.filter_nil]

theorem Unwritten.withinLimits (hm : Unwritten m.trace) :
    WithinLimits device m := by
  refine ⟨[], List.nil_prefix, ⟨hm.timing, ?_⟩, by simp⟩
  rw [hm.voltage]
  exact List.nil_prefix

/-- The loops are about to start. -/
theorem Unwritten.programming (hm : Unwritten m.trace)
    (hsame : SameScan g m.mem) (hgrows : before <+: exchangesOf m.trace) :
    Programming g before [] m :=
  ⟨hsame, hgrows, List.nil_prefix, by simp, hm.timing, hm.voltage⟩

/-- The first counters of the loops are `int`s. -/
theorem Measurable.starts_le {g₀ : EomGlobals}
    (hmeasurable : Measurable g₀ g h) :
    g.timingLeft ≤ intMax ∧ g.voltageLow ≤ intMax := by
  obtain ⟨⟨hlow, -, -⟩, hleft, -, -⟩ :=
    (timingVoltageError_eq_none_iff g).mp hmeasurable.accepted
  rw [beyond_eq_false_iff] at hlow hleft
  exact ⟨hleft.2.trans hmeasurable.timing.bounds.2,
    hlow.2.trans hmeasurable.voltage.bounds.2⟩

/-- Whatever the run has programmed is within the limits of its lanes, as far
as the reads of the run tell what the device holds. -/
def Limited (device : Registers) (m : Machine EomGlobals) : Prop :=
  Reports device m.trace → WithinLimits device m

theorem Limited.note (hm : Limited device m) (n : Note) :
    Limited device { m with trace := m.trace ++ [.note n] } := by
  have hexchanges : exchangesOf (m.trace ++ [.note n]) =
      exchangesOf m.trace := by
    rw [exchangesOf_append]
    exact List.append_nil _
  intro hreports
  obtain ⟨points, hfirst, hprograms, hsupports⟩ := hm (by
    simpa only [Reports, hexchanges] using hreports)
  refine ⟨points, hfirst, ?_, hsupports⟩
  rwa [sentOf, hexchanges, ← sentOf]

theorem Unwritten.limited (hm : Unwritten m.trace) : Limited device m :=
  fun _ => hm.withinLimits

theorem wp_scanAndReport_limited {file : Text} (hlanes : LanesChosen m.mem)
    (hranges : timingVoltageError m.mem = none)
    (hleft : m.mem.timingLeft ≤ intMax) (hlow : m.mem.voltageLow ≤ intMax)
    (hm : Unwritten m.trace)
    (hpass : ∀ trace, exchangesOf m.trace <+: exchangesOf trace →
      Reports device trace → LanesPass device m.mem) :
    wp (scanAndReport file) (fun _ m' => Limited device m')
      (fun _ m' => Limited device m') m := by
  obtain ⟨htiming, hvoltage⟩ := timingVoltage_ordered hranges
  let g : EomGlobals := { m.mem with eomResultCount := scanSize m.mem }
  have hsame : SameScan m.mem g := ⟨rfl, rfl⟩
  have hready : ScanReady g := ⟨hlanes, htiming, hvoltage, rfl⟩
  have hstopped : ∀ m', Stopped g (exchangesOf m.trace) m' →
      Limited device m' := fun m' hm' hreports =>
    hm'.withinLimits (hsame.lanesPass (hpass m'.trace hm'.grows hreports))
  apply wp_scanAndReport_swept (I := Programming g (exchangesOf m.trace))
    (scanBox g).points
  · exact fun m' hasks => (hm.idle hasks.idle).limited
  · exact fun m' hasks => (hm.idle hasks.idle).limited
  · exact fun _ => hm.limited
  · intro m' hasks hsize hallocated
    have hsame' : SameScan g m'.mem := by
      rw [hallocated]
      exact ⟨rfl, rfl⟩
    have hm' := (hm.idle hasks.idle).programming hsame' hasks.idle.grows
    have hsweeps : Sweeps g (Programming g (exchangesOf m.trace))
        (fun _ => Stopped g (exchangesOf m.trace))
        (fun _ => Stopped g (exchangesOf m.trace)) :=
      sweeps_programming hsize hleft hlow
    apply wp_mono (hsweeps.wp_scanLanes hready hm')
    · rintro (_ | ret) m'' hstep
      · exact hstep
      · exact hstopped m'' hstep
    · exact fun why m'' => hstopped m''
  · intro m₁ m₂ hm₁ hqueries
    have hm₂ := hm₁.stopped.idle (hqueries.mem ▸ hm₁.same) hqueries.idle
    exact ⟨fun _ => hstopped m₂ hm₂, fun _ => hstopped m₂ hm₂⟩

theorem wp_checkLink_limited {g₀ : EomGlobals} {fd : Int} {argv : List Text}
    {entries : List Note} (hsecond : SecondLanePasses device argv)
    (hargs : parseArgs argv (initEomOperation {}) = .ok (g₀, entries))
    (hm : Started m) (hp : Prepared m)
    (hmem : m.mem = { g₀ with bsgFd := fd }) :
    wp checkLink (fun _ m' => Limited device m')
      (fun _ m' => Limited device m') m := by
  apply wp_checkLink_checked
  · exact fun h m' hasks => (hm.unwritten.idle hasks.idle).limited
  · exact fun h m' hasks => (hm.unwritten.idle hasks.idle).limited
  · intro file h m' hasks hchecked
    have hlanes := (hp.checked hasks hchecked).lanes
    have hread : exchangesOf m'.trace = requestsOf h := by
      rw [hasks.history, hm.silent, List.nil_append]
    obtain ⟨htiming, hvoltage⟩ := hchecked.starts_le
    have hpass : ∀ trace, exchangesOf m'.trace <+: exchangesOf trace →
        Reports device trace → LanesPass device m'.mem := by
      intro trace hgrows hreports
      rw [hread] at hgrows
      rw [hmem] at hchecked
      exact hchecked.lanesPass hsecond hargs hlanes hgrows hreports
    apply wp_imp (wp_scanAndReport_limited hlanes hchecked.accepted htiming
      hvoltage (hm.unwritten.idle hasks.idle) hpass)
    exact fun ret m'' hlimited => hlimited.note _

/-- Hardware limits hold per lane as long as the second lane, where it is
scanned too, has limits that would let these ranges pass.  The program compares
them with the limits of the first lane only. -/
theorem ufseom_within_limits (argv : List Text) (replies : List SysReply)
    (device : Registers) (hsecond : SecondLanePasses device argv) :
    wp (ufseomMain argv)
      (fun _ m => Reports device m.trace → WithinLimits device m)
      (fun _ m => Reports device m.trace → WithinLimits device m)
      (powerOn replies ({} : EomGlobals)) := by
  apply wp_ufseomMain
  · exact fun m hm => hm.unwritten.limited
  · exact fun m hm _ => hm.unwritten.limited
  · intro m g entries hm hp hargs hmem
    apply wp_imp (wp_checkLink_limited hsecond hargs hm hp hmem)
    exact fun ret m' hlimited => hlimited.note _


/-! Devices by what they hold. -/

/-- Lanes with the same limits pass together. -/
theorem SecondLanePasses.of_alike {argv : List Text}
    (halike : ∀ side attr,
      device.ofLane side attr 1 = device.ofLane side attr 0) :
    SecondLanePasses device argv := by
  intro g entries _ filled hreaches
  obtain ⟨hcapability, hranges⟩ := hreaches.first
  constructor
  · rwa [halike]
  · simpa only [EomGlobals.limitedTo, Registers.reading, halike] using hranges

theorem Reports.of_commands (hall : ∀ side, ∀ x ∈ exchangesOf trace,
      ∀ attr ∈ limitRegisters,
        ((uicCommandOf x.1.upiuReq).argument1.toNat / 65536 : Nat) = attr →
          registerValue x.2 =
            device side (uicCommandOf x.1.upiuReq).argument1) :
    Reports device trace := by
  intro attr hattr side lane r hmem _
  have hx := hall side _ hmem attr hattr
  simp only [uicCommandOf_uicRequest, eyeMonitorGet, uicGetCommand] at hx
  apply hx
  rw [argument1_attr]
  simp only [limitRegisters, List.mem_cons, List.not_mem_nil, or_false] at hattr
  rcases hattr with rfl | rfl | rfl <;> rfl

/-- Both lanes at one point. -/
def onePointLine : List Text :=
  localLine ++ [lit "--timing-left", lit "1", lit "--timing-right", lit "1",
    lit "--voltage-low", lit "0", lit "--voltage-high", lit "0"]

/-- A first lane with one step both ways, and a measurement on each lane.  The
last command is refused. -/
def onePointReplies : List SysReply :=
  let measured := List.replicate 6 (registerReply 0) ++ [registerReply 2,
    registerReply 0, registerReply 0x5D, registerReply 0]
  [{ ret := 3 }, registerReply 1, registerReply 4, registerReply 1,
    registerReply 1, registerReply 0, registerReply 1, registerReply 0,
    { ret := 1 }, { ret := 0 }] ++ measured ++ [registerReply 0] ++
      measured ++ [{ ret := -1 }]

/-- All lanes are as the first. -/
def evenLanes : Registers := fun _ _ => 1

/-- The second lane has no timing steps. -/
def unevenLanes : Registers := fun _ attrSel =>
  if attrSel = uicArgMibSel rxEyemonTimingMaxStepsCapability (selectRx 1) then 0
  else 1

theorem even_lanes_within_limits :
    wp (ufseomMain onePointLine)
      (fun _ m => Reports evenLanes m.trace → WithinLimits evenLanes m)
      (fun _ m => Reports evenLanes m.trace → WithinLimits evenLanes m)
      (powerOn onePointReplies ({} : EomGlobals)) :=
  ufseom_within_limits onePointLine onePointReplies evenLanes
    (SecondLanePasses.of_alike fun _ _ => rfl)

/-- The second lane has no timing steps and is sent timing 1. -/
theorem second_lane_beyond_limits :
    ¬ ∀ (argv : List Text) (replies : List SysReply) (device : Registers),
      wp (ufseomMain argv)
        (fun _ m => Reports device m.trace → WithinLimits device m)
        (fun _ m => Reports device m.trace → WithinLimits device m)
        (powerOn replies ({} : EomGlobals)) := by
  intro h
  have hrun : (ufseomMain onePointLine (powerOn onePointReplies {})).value? =
      some error := by decide +kernel
  have hreports : Reports unevenLanes (ufseomMain onePointLine
      (powerOn onePointReplies {})).machine.trace := by
    apply Reports.of_commands
    intro side
    cases side <;> decide +kernel
  obtain ⟨points, hfirst, hprograms, hsupports⟩ :=
    wp_done (h onePointLine onePointReplies unevenLanes) (Result.eq_done hrun)
      hreports
  have hbox : (scanBox (ufseomMain onePointLine
      (powerOn onePointReplies {})).machine.mem).points =
        [(0, 1, 0), (1, 1, 0)] := by decide +kernel
  have hsent : ((sentOf (ufseomMain onePointLine
      (powerOn onePointReplies {})).machine.trace).filter
        (isWriteTo rxEyemonTimingSteps)).length = 2 := by decide +kernel
  rw [hprograms.timing, List.length_map] at hsent
  rw [hbox] at hfirst
  obtain rfl := hfirst.eq_of_length hsent
  have hbeyond := (hsupports (1, 1, 0) (by simp)).timing
  have hlimit : ∀ side, unevenLanes.reading side
      rxEyemonTimingMaxStepsCapability 1 = 0 := fun side => by rfl
  rw [hlimit] at hbeyond
  exact absurd hbeyond (by decide)

end UfsTools
