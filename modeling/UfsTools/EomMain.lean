/-
A whole run of ufseom: which points the three loops of `main` measure, where
they are stored, and what the report lists.
-/
import UfsTools.EomChecks
import UfsTools.OptionOrder
import UfsTools.Sweep

namespace UfsTools

open CLib Getopt Process

variable {m m' m'' : Machine EomGlobals} {g : EomGlobals}

/-- From `m` to `m'` the variables stayed as they were and the notes quiet. -/
structure Steady (m m' : Machine EomGlobals) : Prop where
  mem : m'.mem = m.mem
  leaves : Leaves quiet m m'

/-- Commands of `eom_scan` leave the variables and write quiet notes. -/
theorem Talks.steady {h : History} (ht : Talks m m' h) : Steady m m' :=
  ⟨ht.mem, ht.leaves.mono fun _ => quiet_of_discreet⟩

theorem Steady.trans (hleft : Steady m m') (hright : Steady m' m'') :
    Steady m m'' :=
  ⟨hright.mem.trans hleft.mem, hleft.leaves.trans hright.leaves⟩

theorem Steady.of_notes {entries : List Note}
    (hentries : ∀ n ∈ entries, quiet n = true) :
    Steady m { m with trace := m.trace ++ entries.map .note } :=
  ⟨rfl, .of_notes hentries⟩

theorem Steady.of_note {n : Note} (hn : quiet n = true) :
    Steady m { m with trace := m.trace ++ [.note n] } :=
  .of_notes (List.forall_mem_singleton.mpr hn)

/-! Where the loops stand. -/

def EomResult.point (e : EomResult) : Sweep.Point := (e.lane, e.timing, e.volt)

/-- The points `main` is to measure. -/
def scanBox (g : EomGlobals) : Sweep.Box where
  xLow := g.lane
  xHigh := g.lane + g.eomData.numLanes
  yLow := g.timingLeft
  yHigh := g.timingRight + 1
  zLow := g.voltageLow
  zHigh := g.voltageHigh + 1

/-- One of the two lanes, or both. -/
def LanesChosen (g : EomGlobals) : Prop :=
  (0 ≤ g.lane ∧ g.lane ≤ 1 ∧ g.eomData.numLanes = 1) ∨
    (g.lane = 0 ∧ g.eomData.numLanes = 2)

/-- The variables when the loops start. -/
structure ScanReady (g : EomGlobals) : Prop where
  lanes : LanesChosen g
  timing : g.timingLeft ≤ g.timingRight
  voltage : g.voltageLow ≤ g.voltageHigh
  count : g.eomResultCount = scanSize g

/-- The sizes and the counters stay within an `int`. -/
structure ScanFits (g : EomGlobals) : Prop where
  size : scanSize g ≤ intMax
  timing : g.timingRight < intMax
  voltage : g.voltageHigh < intMax

/-- The loops started with `g` and have measured `points`. -/
structure Scanning (g : EomGlobals) (points : List Sweep.Point)
    (m : Machine EomGlobals) : Prop where
  frame : ∃ er n, m.mem =
    { g with eomData := { g.eomData with er := er, dataCnt := n } }
  allocated : (m.mem.eomData.er.length : Int) = g.eomResultCount
  counted : m.mem.eomData.dataCnt = points.length
  points : m.mem.eomData.results.map EomResult.point = points
  notes : ∀ n ∈ notesOf m.trace, quiet n = true ∨
    ∃ i : Nat, n = .store i ∧ (i : Int) < g.eomResultCount

/-- A scan over ranges that are not empty has points. -/
theorem scanSize_pos (hlanes : LanesChosen g)
    (htiming : g.timingLeft ≤ g.timingRight)
    (hvoltage : g.voltageLow ≤ g.voltageHigh) : 0 < scanSize g := by
  have hnum : 0 < g.eomData.numLanes := by
    rcases hlanes with h | h <;> omega
  exact mul_pos (mul_pos (by omega) (by omega)) hnum

/-- The program counts as many results as there are points to visit. -/
theorem length_scanBox (hready : ScanReady g) :
    ((scanBox g).points.length : Int) = g.eomResultCount := by
  have htiming := hready.timing
  have hvoltage := hready.voltage
  have hlanes : 0 ≤ g.eomData.numLanes := by
    rcases hready.lanes with h | h <;> omega
  rw [hready.count, scanSize, Sweep.Box.points, Sweep.Box.length_space]
  simp only [scanBox, Nat.cast_mul]
  rw [Int.toNat_of_nonneg (by omega), Int.toNat_of_nonneg (by omega),
    Int.toNat_of_nonneg (by omega)]
  ring

/-- Steps that write no result leave the loops where they stand. -/
theorem Scanning.steady {points : List Sweep.Point}
    (hs : Scanning g points m) (hm : Steady m m') : Scanning g points m' := by
  obtain ⟨entries, hnotes, hquiet⟩ := hm.leaves.notes
  constructor
  · rw [hm.mem]
    exact hs.frame
  · rw [hm.mem]
    exact hs.allocated
  · rw [hm.mem]
    exact hs.counted
  · rw [hm.mem]
    exact hs.points
  · intro n hn
    rw [hnotes, List.mem_append] at hn
    rcases hn with hn | hn
    · exact hs.notes n hn
    · exact .inl (hquiet n hn)

/-- Before the last point the results have a free place. -/
theorem Scanning.hasRoom {points : List Sweep.Point}
    (hs : Scanning g points m)
    (hlt : (points.length : Int) < g.eomResultCount) : HasRoom m.mem := by
  obtain ⟨er, n, hmem⟩ := hs.frame
  have hcount : m.mem.eomResultCount = g.eomResultCount := by rw [hmem]
  constructor
  · rw [hcount, hs.counted]
    exact hlt
  · rw [hcount]
    exact hs.allocated

/-- A logged result moves the loops on by one point. -/
theorem Scanning.logs {points : List Sweep.Point} {h : History}
    {result : EomResult} (hs : Scanning g points m)
    (hlt : (points.length : Int) < g.eomResultCount)
    (hlogs : Logs m m' h result) :
    Scanning g (points ++ [result.point]) m' := by
  obtain ⟨er, n, hmem⟩ := hs.frame
  obtain ⟨entries, hnotes, hquiet⟩ := hlogs.notes
  constructor
  · rw [hlogs.mem, hmem]
    exact ⟨_, _, rfl⟩
  · rw [hlogs.mem]
    simpa [EOMData.record] using hs.allocated
  · rw [hlogs.mem, List.length_append, ← hs.counted]
    rfl
  · rw [hlogs.mem, (hs.hasRoom hlt).results_record, List.map_append, hs.points]
    rfl
  · intro n hn
    rw [hnotes, List.mem_append, List.mem_append, List.mem_singleton] at hn
    rcases hn with (hn | hn) | hn
    · exact hs.notes n hn
    · exact .inl (hquiet n hn)
    · refine .inr ⟨_, hn, ?_⟩
      rwa [hs.counted]

/-! The loops. -/

/-- The end of a loop body: on to the points `next`, or out with an error. -/
def SweepStep (I : List Sweep.Point → Machine EomGlobals → Prop)
    (Q : Int → Machine EomGlobals → Prop) (next : List Sweep.Point)
    (out : Option Int) (m : Machine EomGlobals) : Prop :=
  match out with
  | some ret => Q ret m
  | none => I next m

/-- The counters can step past the ends of their ranges. -/
structure CountersFit (g : EomGlobals) : Prop where
  timing : g.timingLeft ≤ intMax → g.timingRight < intMax
  voltage : g.voltageLow ≤ intMax → g.voltageHigh < intMax

/-- Two settings of the program scan the same points exactly when they agree on
the lanes and on both ranges. -/
theorem scanBox_eq_iff {g' : EomGlobals} :
    scanBox g' = scanBox g ↔ g'.lane = g.lane ∧
      g'.eomData.numLanes = g.eomData.numLanes ∧
      (g'.timingLeft = g.timingLeft ∧ g'.timingRight = g.timingRight) ∧
        g'.voltageLow = g.voltageLow ∧ g'.voltageHigh = g.voltageHigh := by
  simp only [scanBox, Sweep.Box.mk.injEq]
  omega

/-- What the loops ask of an invariant that is indexed by the points they have
passed.  A lane behind the first is reached only past both ends. -/
structure Sweeps (g : EomGlobals)
    (I : List Sweep.Point → Machine EomGlobals → Prop)
    (Q : Int → Machine EomGlobals → Prop)
    (E : Halt → Machine EomGlobals → Prop) : Prop where
  box : ∀ points m, I points m → scanBox m.mem = scanBox g
  point : ∀ lane timing volt m, (scanBox g).Mem (lane, timing, volt) →
    (lane = g.lane ∨ CountersFit g) →
    I ((scanBox g).visited lane timing volt) m →
    wp (scanPoint lane timing volt)
      (SweepStep I Q ((scanBox g).visited lane timing (volt + 1))) E m
  disable : ∀ lane points m, I points m →
    wp (disableEyeMonitor lane) (SweepStep I Q points) E m
  overflow : ∀ points m, intMax ≤ g.timingRight ∨ intMax ≤ g.voltageHigh →
    I points m → E .fault m

section

variable {I : List Sweep.Point → Machine EomGlobals → Prop}
  {Q : Int → Machine EomGlobals → Prop}
  {E : Halt → Machine EomGlobals → Prop}

/-- The voltage loop at one timing step, from what the sweep keeps at each
point. -/
theorem Sweeps.wp_scanTiming (hsweeps : Sweeps g I Q E) (hready : ScanReady g)
    {lane timing : Int}
    (hlane : g.lane ≤ lane ∧ lane < g.lane + g.eomData.numLanes)
    (htiming : g.timingLeft ≤ timing ∧ timing ≤ g.timingRight)
    (hreached : lane = g.lane ∨ CountersFit g)
    (hm : I ((scanBox g).visited lane timing g.voltageLow) m) :
    wp (scanTiming lane timing)
      (SweepStep (fun points m' => I points m' ∧
          (g.voltageLow ≤ intMax → g.voltageHigh < intMax)) Q
        ((scanBox g).visited lane (timing + 1) g.voltageLow)) E m := by
  obtain ⟨-, -, -, hlow, hhigh⟩ := scanBox_eq_iff.mp (hsweeps.box _ m hm)
  have hvoltage := hready.voltage
  simp only [scanTiming, wp_bind, wp_get, hlow, hhigh]
  refine wp_forUpTo
    (fun volt m' => I ((scanBox g).visited lane timing volt) m')
    (by omega) ?_ ?_ ?_ hm
  · intro volt m₁ hlo hhi hm₁
    have hin : (scanBox g).Mem (lane, timing, volt) :=
      ⟨hlane, ⟨htiming.1, Int.lt_add_one_of_le htiming.2⟩, hlo,
        Int.lt_add_one_of_le hhi⟩
    apply wp_imp (hsweeps.point lane timing volt m₁ hin hreached hm₁)
    rintro (_ | ret) m₂ hstep <;> exact hstep
  · intro m₁ hbelow hm₁
    have hrow := (scanBox g).visited_row (x := lane) (y := timing) htiming.1
    exact ⟨hrow ▸ hm₁, by omega⟩
  · exact fun m₁ hover hm₁ => hsweeps.overflow _ m₁ (.inr hover) hm₁

/-- The timing loop of one lane, and the disabling of the eye monitor behind it.
-/
theorem Sweeps.wp_scanLane (hsweeps : Sweeps g I Q E) (hready : ScanReady g)
    {lane : Int} (hlane : g.lane ≤ lane ∧ lane < g.lane + g.eomData.numLanes)
    (hreached : lane = g.lane ∨ CountersFit g)
    (hm : I ((scanBox g).visited lane g.timingLeft g.voltageLow) m) :
    wp (scanLane lane)
      (SweepStep (fun points m' => I points m' ∧ CountersFit g) Q
        ((scanBox g).visited (lane + 1) g.timingLeft g.voltageLow)) E m := by
  obtain ⟨-, -, ⟨hleft, hright⟩, -⟩ := scanBox_eq_iff.mp (hsweeps.box _ m hm)
  have htiming := hready.timing
  simp only [scanLane, wp_bind, wp_get, hleft, hright]
  -- a row behind the first shows that the voltages have an end
  refine wp_forUpTo (fun timing m' =>
    I ((scanBox g).visited lane timing g.voltageLow) m' ∧
      (timing = g.timingLeft ∨
        (g.voltageLow ≤ intMax → g.voltageHigh < intMax)))
    (by omega) ?_ ?_ ?_ ⟨hm, .inl rfl⟩
  · rintro timing m₁ hlo hhi ⟨hm₁, -⟩
    apply wp_imp
      (hsweeps.wp_scanTiming hready hlane ⟨hlo, hhi⟩ hreached hm₁)
    rintro (_ | ret) m₂ hstep
    · exact ⟨hstep.1, .inr hstep.2⟩
    · simp only [wp_pure]
      exact hstep
  · rintro m₁ hbelow ⟨hm₁, hvoltage⟩
    have hfit : CountersFit g :=
      ⟨by omega, hvoltage.resolve_left (by omega)⟩
    have hplane := (scanBox g).visited_plane (x := lane) hlane.1
    apply wp_imp (hsweeps.disable lane _ m₁ (hplane ▸ hm₁))
    rintro (_ | ret) m₂ hstep
    · exact ⟨hstep, hfit⟩
    · exact hstep
  · exact fun m₁ hover hm₁ => hsweeps.overflow _ m₁ (.inl hover) hm₁.1

/-- The loop over the lanes; the counters fit once the first lane is through. -/
theorem Sweeps.wp_scanLanes (hsweeps : Sweeps g I Q E) (hready : ScanReady g)
    (hm : I [] m) :
    wp scanLanes (SweepStep I Q (scanBox g).points) E m := by
  obtain ⟨hfirst, hnum, -⟩ := scanBox_eq_iff.mp (hsweeps.box _ m hm)
  have hlanes : 0 ≤ g.eomData.numLanes ∧
      g.lane + g.eomData.numLanes ≤ 2 := by
    rcases hready.lanes with h | h <;> omega
  have hlast : g.lane + (g.eomData.numLanes.toNat : Int) =
      g.lane + g.eomData.numLanes := by omega
  simp only [scanLanes, wp_bind, wp_get, hfirst, hnum]
  refine wp_forCount (fun lane m' =>
    I ((scanBox g).visited lane g.timingLeft g.voltageLow) m' ∧
      (lane = g.lane ∨ CountersFit g)) _ _ ?_ ?_ ?_ ?_
  · rintro lane m₁ hlo hhi ⟨hm₁, hreached⟩
    apply wp_imp (hsweeps.wp_scanLane hready ⟨hlo, by omega⟩ hreached hm₁)
    rintro (_ | ret) m₂ hstep
    · exact ⟨hstep.1, .inr hstep.2⟩
    · exact hstep
  · rintro m₁ - ⟨hm₁, -⟩
    rw [hlast] at hm₁
    exact (scanBox g).visited_end ▸ hm₁
  · intro m₁ hover _
    have hmax : intMax = 2147483647 := rfl
    omega
  · have hstart := (scanBox g).visited_start
    exact ⟨hstart.symm ▸ hm, .inl rfl⟩

end

/-- A loop was left with an error. -/
def ScanFailed (g : EomGlobals) (ret : Int) (m : Machine EomGlobals) : Prop :=
  ret ≠ success ∧ ∃ points, Scanning g points m

/-- The run stopped inside a loop. -/
def ScanHalted (g : EomGlobals) (why : Halt) (m : Machine EomGlobals) : Prop :=
  (∃ points, Scanning g points m) ∧ (why = .fault → ¬ ScanFits g)

/-- The end of a loop body: on to `next`, or out with an error. -/
def ScanStep (g : EomGlobals) (next : List Sweep.Point) (out : Option Int)
    (m : Machine EomGlobals) : Prop :=
  match out with
  | some ret => ScanFailed g ret m
  | none => Scanning g next m

/-- One point: its result is logged, or the loops stop with the points before
it. -/
theorem wp_scanPoint (hready : ScanReady g) {lane timing volt : Int}
    (hin : (scanBox g).Mem (lane, timing, volt))
    (hs : Scanning g ((scanBox g).visited lane timing volt) m) :
    wp (scanPoint lane timing volt)
      (ScanStep g ((scanBox g).visited lane timing (volt + 1)))
      (ScanHalted g) m := by
  have hlt : (((scanBox g).visited lane timing volt).length : Int) <
      g.eomResultCount := by
    rw [← length_scanBox hready]
    exact_mod_cast (scanBox g).length_visited_lt hin
  have hlow : (scanBox g).zLow ≤ volt := hin.2.2.1
  simp only [scanPoint, wp_bind, wp_get]
  refine wp_eomScan (hs.hasRoom hlt) ?_ ?_ ?_
  · intro h m₁ errors hlogs _
    simp only [success, ne_eq, not_true_eq_false, if_false, wp_pure, ScanStep]
    rw [(scanBox g).visited_step hlow]
    exact hs.logs hlt hlogs
  · intro h m₁ ht
    have herror : error ≠ 0 := by decide
    simp only [if_pos herror, wp_bind, wp_note, wp_pure, ScanStep]
    have hend := ht.steady.trans (Steady.of_note (m := m₁)
      (n := prErr (lit "Fail to run EOM scan\n")) rfl)
    exact ⟨herror, _, hs.steady hend⟩
  · intro h m₁ ht
    exact ⟨⟨_, hs.steady ht.steady⟩, by simp⟩

theorem wp_disableEyeMonitor {lane : Int} {points : List Sweep.Point}
    (hs : Scanning g points m) :
    wp (disableEyeMonitor lane) (ScanStep g points) (ScanHalted g) m := by
  simp only [disableEyeMonitor, uicSet_eq_exchange, wp_bind, wp_get]
  refine wp_exchange _ _ ?_ ?_
  · exact fun _ => ⟨⟨_, hs⟩, by simp⟩
  · intro r rest hreplies
    have ht := Talks.of_command m.mem.bsgFd
      (uicSetCommand (uicArgMibSel rxEyemonEnable (selectRx lane))
        attrSetNor 0 m.mem.eomData.localPeer) hreplies
    rcases uicSetStatus_eq r with hstatus | hstatus
    · simp only [hstatus, success, ne_eq, not_true_eq_false, if_false, wp_pure,
        ScanStep]
      exact hs.steady ht.steady
    · have herror : error ≠ 0 := by decide
      simp only [hstatus, if_pos herror, wp_bind, wp_note, wp_pure, ScanStep]
      have hend := ht.trans (Talks.of_note
        (n := prErr (lit "Filed to disable EOM for lane " ++ showInt lane ++
          lit "\n")) rfl)
      exact ⟨herror, _, hs.steady hend.steady⟩

/-- The places where the loops stand are kept by a point and by the step between
two lanes. -/
theorem sweeps_scanning (hready : ScanReady g) :
    Sweeps g (Scanning g) (ScanFailed g) (ScanHalted g) := by
  constructor
  · intro points m hs
    obtain ⟨er, n, hmem⟩ := hs.frame
    rw [hmem]
    rfl
  · intro lane timing volt m hin _ hs
    apply wp_imp (wp_scanPoint hready hin hs)
    rintro (_ | ret) m₁ hstep <;> exact hstep
  · intro lane points m hs
    apply wp_imp (wp_disableEyeMonitor hs)
    rintro (_ | ret) m₁ hstep <;> exact hstep
  · intro points m hover hs
    refine ⟨⟨_, hs⟩, fun _ hfits => ?_⟩
    have htiming := hfits.timing
    have hvoltage := hfits.voltage
    omega

/-- The three loops visit every point, in their order. -/
theorem wp_scanLanes (hready : ScanReady g) (hs : Scanning g [] m) :
    wp scanLanes (ScanStep g (scanBox g).points) (ScanHalted g) m := by
  apply wp_imp ((sweeps_scanning hready).wp_scanLanes hready hs)
  rintro (_ | ret) m₁ hstep <;> exact hstep

/-! What a run comes to. -/

/-- The lines written to the report file. -/
def writtenOf (entries : List Note) : List Text :=
  entries.filterMap fun
    | .fprint text => some text
    | _ => none

theorem writtenOf_of_discreet {entries : List Note}
    (h : ∀ n ∈ entries, discreet n = true) : writtenOf entries = [] := by
  rw [writtenOf, List.filterMap_eq_nil_iff]
  intro n hn
  cases n with
  | fprint text => exact absurd (h _ hn) (by simp [discreet, quiet])
  | _ => rfl

@[simp] theorem writtenOf_append (left right : List Note) :
    writtenOf (left ++ right) = writtenOf left ++ writtenOf right := by
  simp [writtenOf]

/-- Every write to the results was inside what was allocated, and nothing
announced that they are full. -/
structure SafeStores (m : Machine EomGlobals) : Prop where
  inside : ∀ i : Nat, .store i ∈ notesOf m.trace →
    (i : Int) < m.mem.eomResultCount ∧
      (m.mem.eomData.er.length : Int) = m.mem.eomResultCount
  room : ∀ text, prErr text ∈ notesOf m.trace → ¬ exceedsPrefix <+: text

/-- The results are the points to measure, each once and in order, and the
report lists them. -/
structure ScanComplete (m : Machine EomGlobals) : Prop where
  counted : (m.mem.eomData.dataCnt : Int) = m.mem.eomResultCount
  measured : 0 < m.mem.eomData.dataCnt
  lanes : 0 ≤ m.mem.lane ∧ m.mem.lane + m.mem.eomData.numLanes ≤ 2
  ordered :
    (m.mem.eomData.results.map EomResult.point).Pairwise Sweep.Before
  exact : ∀ p, p ∈ m.mem.eomData.results.map EomResult.point ↔
    (scanBox m.mem).Mem p
  reported : ∃ mname pname pver, writtenOf (notesOf m.trace) =
    eomReportHeader mname pname pver m.mem.eomData ++
      m.mem.eomData.results.map eomRecordLine

/-- What holds when `main` returns. -/
structure EomReturned (ret : Int) (m : Machine EomGlobals) : Prop where
  safe : SafeStores m
  complete : ret = success → ScanComplete m

/-- What holds when `main` stops before.  Where the sizes fit, only the copies
of the report's strings can go wrong, when all results are there. -/
structure EomHalted (why : Halt) (m : Machine EomGlobals) : Prop where
  safe : SafeStores m
  fault : why = .fault → ScanFits m.mem →
    (m.mem.eomData.dataCnt : Int) = m.mem.eomResultCount

theorem not_exceeds_of_quiet {text : Text} (hn : quiet (prErr text) = true) :
    ¬ exceedsPrefix <+: text := by
  intro hprefix
  rw [← List.isPrefixOf_iff_prefix] at hprefix
  simp [quiet, prErr, hprefix] at hn

/-- Quiet notes hold no store to the results. -/
theorem SafeStores.steady (hsafe : SafeStores m) (hm : Steady m m') :
    SafeStores m' := by
  obtain ⟨entries, hnotes, hquiet⟩ := hm.leaves.notes
  constructor
  · intro i hi
    rw [hm.mem]
    rw [hnotes, List.mem_append] at hi
    rcases hi with hi | hi
    · exact hsafe.inside i hi
    · exact absurd (hquiet _ hi) (by simp [quiet])
  · intro text htext
    rw [hnotes, List.mem_append] at htext
    rcases htext with htext | htext
    · exact hsafe.room text htext
    · exact not_exceeds_of_quiet (hquiet _ htext)

theorem writtenOf_of_quiet {entries : List Note}
    (hquiet : ∀ n ∈ entries, quiet n = true) : writtenOf entries = [] := by
  rw [writtenOf, List.filterMap_eq_nil_iff]
  intro n hn
  have hq := hquiet n hn
  cases n with
  | fprint text => simp [quiet] at hq
  | _ => rfl

/-- Quiet notes after the report leave it complete. -/
theorem ScanComplete.steady (hcomplete : ScanComplete m) (hm : Steady m m') :
    ScanComplete m' := by
  obtain ⟨entries, hnotes, hquiet⟩ := hm.leaves.notes
  obtain ⟨mname, pname, pver, hwritten⟩ := hcomplete.reported
  constructor
  · rw [hm.mem]
    exact hcomplete.counted
  · rw [hm.mem]
    exact hcomplete.measured
  · rw [hm.mem]
    exact hcomplete.lanes
  · rw [hm.mem]
    exact hcomplete.ordered
  · rw [hm.mem]
    exact hcomplete.exact
  · refine ⟨mname, pname, pver, ?_⟩
    rw [hnotes, writtenOf_append, writtenOf_of_quiet hquiet, List.append_nil,
      hm.mem, hwritten]

theorem EomReturned.steady {ret : Int} (hret : EomReturned ret m)
    (hm : Steady m m') : EomReturned ret m' :=
  ⟨hret.safe.steady hm, fun hsuccess => (hret.complete hsuccess).steady hm⟩

/-- All stores of the loops so far were in the results. -/
theorem Scanning.safe {points : List Sweep.Point} (hs : Scanning g points m) :
    SafeStores m := by
  obtain ⟨er, n, hmem⟩ := hs.frame
  have hcount : m.mem.eomResultCount = g.eomResultCount := by rw [hmem]
  constructor
  · intro i hi
    rw [hcount]
    refine ⟨?_, hs.allocated⟩
    rcases hs.notes _ hi with hq | ⟨j, hj, hlt⟩
    · simp [quiet] at hq
    · rwa [Note.store.inj hj]
  · intro text htext
    rcases hs.notes _ htext with hq | ⟨j, hj, -⟩
    · exact not_exceeds_of_quiet hq
    · simp [prErr] at hj

/-- The loops write no line of the report. -/
theorem Scanning.writtenOf_eq {points : List Sweep.Point}
    (hs : Scanning g points m) : writtenOf (notesOf m.trace) = [] := by
  rw [writtenOf, List.filterMap_eq_nil_iff]
  intro n hn
  rcases hs.notes n hn with hq | ⟨j, rfl, -⟩
  · cases n with
    | fprint text => simp [quiet] at hq
    | _ => rfl
  · rfl

/-- The loops are through. -/
theorem Scanning.counted_eq (hready : ScanReady g)
    (hs : Scanning g (scanBox g).points m) :
    (m.mem.eomData.dataCnt : Int) = m.mem.eomResultCount := by
  obtain ⟨er, n, hmem⟩ := hs.frame
  have hcount : m.mem.eomResultCount = g.eomResultCount := by rw [hmem]
  rw [hs.counted, length_scanBox hready, hcount]

/-- A stop within the loops is one the whole program allows. -/
theorem ScanHalted.eomHalted {why : Halt} (hhalt : ScanHalted g why m) :
    EomHalted why m := by
  obtain ⟨⟨points, hs⟩, hfault⟩ := hhalt
  obtain ⟨er, n, hmem⟩ := hs.frame
  refine ⟨hs.safe, fun hwhy hfits => absurd ?_ (hfault hwhy)⟩
  rw [hmem] at hfits
  exact ⟨hfits.size, hfits.timing, hfits.voltage⟩

/-- A failure within the loops is one the whole program allows. -/
theorem ScanFailed.eomReturned {ret : Int} (hfailed : ScanFailed g ret m) :
    EomReturned ret m := by
  obtain ⟨hne, points, hs⟩ := hfailed
  exact ⟨hs.safe, fun hsuccess => absurd hsuccess hne⟩

/-! The report. -/

/-- From `m` to `m'` the program sent queries only, changed none of its
variables, and the notes pass the test. -/
structure Queries (test : Note → Bool) (m m' : Machine EomGlobals) : Prop where
  mem : m'.mem = m.mem
  leaves : Leaves test m m'
  history : ∃ queries, exchangesOf m'.trace = exchangesOf m.trace ++ queries ∧
    ∀ x ∈ queries, ∃ op length, x.1 = querySent op length

variable {test test' : Note → Bool}

theorem Talks.queries (ht : Talks m m' []) : Queries discreet m m' :=
  ⟨ht.mem, ht.leaves, [], ht.history, by simp⟩

theorem Queries.refl (m : Machine EomGlobals) : Queries test m m :=
  ⟨rfl, .refl m, [], by simp, by simp⟩

theorem Queries.of_notes {entries : List Note}
    (hentries : ∀ n ∈ entries, test n = true) :
    Queries test m { m with trace := m.trace ++ entries.map .note } :=
  ⟨rfl, .of_notes hentries, [], by simp, by simp⟩

theorem Queries.of_note {n : Note} (hn : test n = true) :
    Queries test m { m with trace := m.trace ++ [.note n] } :=
  .of_notes (List.forall_mem_singleton.mpr hn)

/-- Queries in a row are queries. -/
theorem Queries.trans (hleft : Queries test m m')
    (hright : Queries test m' m'') : Queries test m m'' := by
  obtain ⟨left, hl, hlq⟩ := hleft.history
  obtain ⟨right, hr, hrq⟩ := hright.history
  refine ⟨hright.mem.trans hleft.mem, hleft.leaves.trans hright.leaves,
    left ++ right, ?_, ?_⟩
  · rw [hr, hl, List.append_assoc]
  · intro x hx
    rcases List.mem_append.mp hx with hx | hx
    · exact hlq x hx
    · exact hrq x hx

theorem Queries.mono (hqueries : Queries test m m')
    (htest : ∀ n, test n = true → test' n = true) : Queries test' m m' :=
  ⟨hqueries.mem, hqueries.leaves.mono htest, hqueries.history⟩

theorem Queries.steady (hqueries : Queries discreet m m') : Steady m m' :=
  ⟨hqueries.mem, hqueries.leaves.mono fun _ => quiet_of_discreet⟩

/-- Reading a descriptor asks a query and changes no variable. -/
theorem wp_queryReadDescriptor {fd idn index sel : Int} {buf : DescBuf}
    {bufLen : UInt16} {Q : Int × DescBuf → Machine EomGlobals → Prop}
    {E : Halt → Machine EomGlobals → Prop}
    (hdone : ∀ out m', Queries discreet m m' → Q out m')
    (hwait : E .waiting m) :
    wp (queryReadDescriptor fd idn index sel buf bufLen) Q E m := by
  rw [queryReadDescriptor_eq_exchange]
  apply wp_exchange
  · exact fun _ => hwait
  · intro r rest _
    apply hdone
    refine ⟨rfl, ⟨queryNotes r ++
      if bsgStatus r ≠ 0 then [readDescriptorFailed idn] else [], by simp, ?_⟩,
      [(querySent { opcode := queryReqOpReadDesc, idn := idn,
                    index := index, selector := sel } bufLen, r)], ?_, ?_⟩
    · intro n hn
      rcases List.mem_append.mp hn with hn | hn
      · exact forall_mem_queryNotes (P := fun n => discreet n = true)
          (fun _ => rfl) (fun _ => rfl) n hn
      · split at hn
        · rw [List.mem_singleton.mp hn]
          rfl
        · contradiction
    · simp [queryIoctl, sgIoRequest]
    · exact List.forall_mem_singleton.mpr ⟨_, _, rfl⟩

variable {Q : Int → Machine EomGlobals → Prop}
  {E : Halt → Machine EomGlobals → Prop}

/-- The loop that copies a string descriptor writes characters only. -/
theorem forall_mem_storeStringDesc {P : Note → Prop}
    (hstore : ∀ size i, P (.storeChar size i)) {buf : DescBuf} {is : List Nat}
    {j : Nat} : ∀ n ∈ storeStringDesc buf is j, P n := by
  induction is generalizing j with
  | nil => exact fun n hn => nomatch hn
  | cons i rest ih =>
      intro n hn
      rw [storeStringDesc] at hn
      split at hn
      · exact ih n hn
      · rcases List.mem_cons.mp hn with rfl | hn
        · exact hstore _ _
        · exact ih n hn

theorem forall_mem_parseStringDescStores {P : Note → Prop}
    (hstore : ∀ size i, P (.storeChar size i)) (buf : DescBuf) :
    ∀ n ∈ parseStringDescStores buf, P n := by
  intro n hn
  rcases List.mem_append.mp hn with hn | hn
  · exact forall_mem_storeStringDesc hstore n hn
  · rw [List.mem_singleton.mp hn]
    exact hstore _ _

theorem forall_mem_strcpyStores {P : Note → Prop}
    (hstore : ∀ size i, P (.storeChar size i)) (size : Nat) (text : Text) :
    ∀ n ∈ strcpyStores size text, P n := by
  intro n hn
  obtain ⟨i, -, rfl⟩ := List.mem_map.mp hn
  exact hstore size i

/-- One string of the device: it is read, or the error is passed on. -/
theorem wp_readString {index : UInt8} {size : Nat} {failed : String}
    {buf : DescBuf} {use : Text → DescBuf → Prog EomGlobals Int}
    (hmessage : discreet (prErr (lit failed)) = true)
    (huse : ∀ text buf m', Queries discreet m m' → wp (use text buf) Q E m')
    (hfail : ∀ ret m', Queries discreet m m' → ret ≠ success → Q ret m')
    (hhalt : ∀ why m', Queries discreet m m' → E why m') :
    wp (readString index size failed buf use) Q E m := by
  simp only [readString, wp_bind, wp_get]
  refine wp_queryReadDescriptor ?_ (hhalt _ m (.refl m))
  rintro ⟨ret, buf'⟩ m₁ hm₁
  by_cases hret : ret ≠ 0
  · simp only [if_pos hret, wp_bind, wp_note, wp_pure]
    exact hfail ret _ (hm₁.trans (Queries.of_note hmessage)) hret
  · simp only [if_neg hret, wp_bind, wp_notes]
    have hm₂ := hm₁.trans (Queries.of_notes
      (forall_mem_parseStringDescStores (fun _ _ => rfl) buf'))
    by_cases hlong : stringBufferSize ≤ (parseStringDesc buf').length
    · rw [if_pos hlong, wp_fault]
      exact hhalt _ _ hm₂
    rw [if_neg hlong, wp_bind, wp_notes]
    have hm₃ := hm₂.trans (Queries.of_notes
      (forall_mem_strcpyStores (fun _ _ => rfl) size (parseStringDesc buf')))
    by_cases hfull : size ≤ (parseStringDesc buf').length
    · rw [if_pos hfull, wp_fault]
      exact hhalt _ _ hm₃
    · rw [if_neg hfull]
      exact huse _ _ _ hm₃

/-- `get_device_info` asks queries only, whatever is made of the strings. -/
theorem wp_getDeviceInfo {use : Text → Text → Text → Prog EomGlobals Int}
    (huse : ∀ mname pname pver m', Queries discreet m m' →
      wp (use mname pname pver) Q E m')
    (hfail : ∀ ret m', Queries discreet m m' → ret ≠ success → Q ret m')
    (hhalt : ∀ why m', Queries discreet m m' → E why m') :
    wp (getDeviceInfo use) Q E m := by
  simp only [getDeviceInfo, wp_bind, wp_get]
  refine wp_queryReadDescriptor ?_ (hhalt _ m (.refl m))
  rintro ⟨ret, buf⟩ m₁ hm₁
  by_cases hret : ret ≠ 0
  · simp only [if_pos hret, wp_bind, wp_note, wp_pure]
    exact hfail ret _ (hm₁.trans (Queries.of_note rfl)) hret
  simp only [if_neg hret]
  refine wp_readString rfl ?_ (fun ret m' h => hfail ret m' (hm₁.trans h))
    (fun why m' h => hhalt why m' (hm₁.trans h))
  intro mname buf₂ m₂ hm₂
  have htwo := hm₁.trans hm₂
  refine wp_readString rfl ?_ (fun ret m' h => hfail ret m' (htwo.trans h))
    (fun why m' h => hhalt why m' (htwo.trans h))
  intro pname buf₃ m₃ hm₃
  have hthree := htwo.trans hm₃
  refine wp_readString rfl ?_ (fun ret m' h => hfail ret m' (hthree.trans h))
    (fun why m' h => hhalt why m' (hthree.trans h))
  exact fun pver _ m₄ hm₄ => huse mname pname pver m₄ (hthree.trans hm₄)

@[simp] theorem writtenOf_map_fprint (lines : List Text) :
    writtenOf (lines.map .fprint) = lines := by
  simp [writtenOf, List.filterMap_map]

/-- The report of a finished scan lists it. -/
theorem Scanning.complete (hready : ScanReady g)
    (hs : Scanning g (scanBox g).points m) (mname pname pver : Text)
    {lines : List Text}
    (hlines : lines = eomReport mname pname pver m.mem.eomData) :
    ScanComplete
      { m with trace := m.trace ++ (lines.map .fprint).map .note } := by
  obtain ⟨er, n, hmem⟩ := hs.frame
  have hbox : scanBox m.mem = scanBox g := by rw [hmem]; rfl
  have hcounted := hs.counted_eq hready
  constructor
  · exact hcounted
  · have hpos := scanSize_pos hready.lanes hready.timing hready.voltage
    have hcount : m.mem.eomResultCount = scanSize g := by
      rw [hmem, ← hready.count]
    have hmeasured : (0 : Int) < m.mem.eomData.dataCnt := by
      rw [hcounted, hcount]
      exact hpos
    exact_mod_cast hmeasured
  · rw [hmem]
    rcases hready.lanes with h | h <;> simp only <;> omega
  · rw [hs.points]
    exact (scanBox g).pairwise_points
  · intro p
    rw [hs.points, hbox]
    exact (scanBox g).mem_points_iff
  · refine ⟨mname, pname, pver, ?_⟩
    rw [notesOf_append, notesOf_map_note, writtenOf_append, hs.writtenOf_eq,
      writtenOf_map_fprint, List.nil_append, hlines]
    rfl

theorem SafeStores.fprint (hsafe : SafeStores m) (lines : List Text) :
    SafeStores
      { m with trace := m.trace ++ (lines.map .fprint).map .note } := by
  constructor
  · intro i hi
    rw [notesOf_append, notesOf_map_note, List.mem_append] at hi
    rcases hi with hi | hi
    · exact hsafe.inside i hi
    · simp at hi
  · intro text htext
    rw [notesOf_append, notesOf_map_note, List.mem_append] at htext
    rcases htext with htext | htext
    · exact hsafe.room text htext
    · simp [prErr] at htext

/-- The report after the loops, written or not. -/
theorem wp_generateEomReport {file : Text} (hready : ScanReady g)
    (hs : Scanning g (scanBox g).points m) :
    wp (generateEomReport file) EomReturned EomHalted m := by
  have hhalt : ∀ why m', Queries discreet m m' → EomHalted why m' := by
    intro why m' hm'
    have hs' := hs.steady hm'.steady
    exact ⟨hs'.safe, fun _ _ => hs'.counted_eq hready⟩
  refine wp_getDeviceInfo ?_ ?_ hhalt
  · intro mname pname pver m₁ hm₁
    simp only [wp_bind, wp_get]
    refine wp_sysCall (by simp) ?_ (hhalt _ m₁ hm₁)
    intro ret m₂ ht
    have hm₂ := hm₁.trans ht.queries
    have hs₂ := hs.steady hm₂.steady
    by_cases hfile : ret = 0
    · simp only [if_pos hfile, wp_bind, wp_note, wp_pure]
      have hs₃ := hs₂.steady (Steady.of_note (n := prErr (lit
        "Failed to create EOM result file " ++ file ++ lit "\n")) rfl)
      exact ⟨hs₃.safe, fun hsuccess => absurd hsuccess (by decide)⟩
    · simp only [if_neg hfile, wp_bind, wp_notes, wp_note, wp_pure]
      have hlines : eomReport mname pname pver m₁.mem.eomData =
          eomReport mname pname pver m₂.mem.eomData := by
        rw [ht.mem]
      have hwritten : EomReturned success _ :=
        ⟨hs₂.safe.fprint _,
          fun _ => hs₂.complete hready mname pname pver hlines⟩
      exact hwritten.steady (Steady.of_note rfl)
  · intro ret m₁ hm₁ hret
    exact ⟨(hs.steady hm₁.steady).safe, fun hsuccess => absurd hsuccess hret⟩

/-- A note other than the message on a failed scan. -/
def tame (n : Note) : Bool := n ≠ scanFailed

theorem tame_of_discreet {n : Note} (hn : discreet n = true) :
    tame n = true :=
  decide_eq_true (ne_scanFailed_of_discreet hn)

/-- The same function from any state: no UIC command and no message about a scan
that failed. -/
theorem wp_generateEomReport_queries {file : Text} :
    wp (generateEomReport file) (fun _ m' => Queries tame m m')
      (fun _ m' => Queries tame m m') m := by
  have htame : ∀ m', Queries discreet m m' → Queries tame m m' :=
    fun m' hm' => hm'.mono fun _ => tame_of_discreet
  apply wp_getDeviceInfo
  · intro mname pname pver m₁ hm₁
    simp only [wp_bind, wp_get]
    apply wp_sysCall (by simp) _ (htame m₁ hm₁)
    intro ret m₂ ht
    have hm₂ := htame m₂ (hm₁.trans ht.queries)
    split_ifs
    · simp only [wp_bind, wp_note, wp_pure]
      exact hm₂.trans (.of_note rfl)
    · simp only [wp_bind, wp_notes, wp_note, wp_pure]
      have hlines : ∀ n ∈ (eomReport mname pname pver m₁.mem.eomData).map
          Note.fprint, tame n = true := by
        intro n hn
        obtain ⟨text, -, rfl⟩ := List.mem_map.mp hn
        rfl
      exact (hm₂.trans (.of_notes hlines)).trans (.of_note rfl)
  · exact fun ret m' hm' _ => htame m' hm'
  · exact fun why m' hm' => htame m' hm'

/-! Up to the loops. -/

/-- No result is logged and nothing but quiet notes left. -/
structure Prepared (m : Machine EomGlobals) : Prop where
  notes : ∀ n ∈ notesOf m.trace, quiet n = true
  empty : m.mem.eomData.dataCnt = 0
  lanes : LanesChosen m.mem

/-- Quiet steps keep the program ahead of its loops. -/
theorem Prepared.steady (hp : Prepared m) (hm : Steady m m') :
    Prepared m' := by
  obtain ⟨entries, hnotes, hquiet⟩ := hm.leaves.notes
  constructor
  · intro n hn
    rw [hnotes, List.mem_append] at hn
    rcases hn with hn | hn
    · exact hp.notes n hn
    · exact hquiet n hn
  · rw [hm.mem]
    exact hp.empty
  · rw [hm.mem]
    exact hp.lanes

/-- A change of the variables that neither logs results nor moves the lanes. -/
theorem Prepared.modify (hp : Prepared m) {f : EomGlobals → EomGlobals}
    (hcnt : (f m.mem).eomData.dataCnt = m.mem.eomData.dataCnt)
    (hlane : (f m.mem).lane = m.mem.lane)
    (hnum : (f m.mem).eomData.numLanes = m.mem.eomData.numLanes) :
    Prepared { m with mem := f m.mem } := by
  refine ⟨hp.notes, hcnt.trans hp.empty, ?_⟩
  simpa only [LanesChosen, hlane, hnum] using hp.lanes

/-- Without a store there is none outside the results. -/
theorem SafeStores.of_quiet (hquiet : ∀ n ∈ notesOf m.trace, quiet n = true) :
    SafeStores m := by
  constructor
  · intro i hi
    exact absurd (hquiet _ hi) (by simp [quiet])
  · exact fun text htext => not_exceeds_of_quiet (hquiet _ htext)

/-- A failure before the loops asks for nothing but quiet notes. -/
theorem EomReturned.of_quiet {ret : Int} (hret : ret ≠ success)
    (hquiet : ∀ n ∈ notesOf m.trace, quiet n = true) : EomReturned ret m :=
  ⟨.of_quiet hquiet, fun hsuccess => absurd hsuccess hret⟩

theorem Prepared.safe (hp : Prepared m) : SafeStores m :=
  .of_quiet hp.notes

theorem Prepared.returned (hp : Prepared m) {ret : Int}
    (hret : ret ≠ success) : EomReturned ret m :=
  .of_quiet hret hp.notes

theorem Prepared.waiting (hp : Prepared m) : EomHalted .waiting m :=
  ⟨hp.safe, by simp⟩

theorem error_ne_success : error ≠ success := by decide

/-- The failure of a step before the loops: a message, then the way out. -/
theorem Prepared.failed (hp : Prepared m) {n : Note} (hn : quiet n = true) :
    EomReturned error { m with trace := m.trace ++ [.note n] } :=
  (hp.steady (Steady.of_note hn)).returned error_ne_success

/-- The results are allocated; the loops can start. -/
theorem Prepared.scanning (hp : Prepared m)
    (halloc : (m.mem.eomData.er.length : Int) = m.mem.eomResultCount) :
    Scanning m.mem [] m := by
  refine ⟨⟨_, _, rfl⟩, halloc, hp.empty, ?_, fun n hn => .inl (hp.notes n hn)⟩
  simp [EOMData.results, hp.empty]

/-- What is asked before the loops is quiet. -/
theorem Prepared.quiet_asks {h : History} (hp : Prepared m)
    (hasks : Asks m m' h) : ∀ n ∈ notesOf m'.trace, quiet n = true := by
  obtain ⟨entries, hnotes, hdiscreet⟩ := hasks.leaves.notes
  intro n hn
  rw [hnotes, List.mem_append] at hn
  rcases hn with hn | hn
  · exact hp.notes n hn
  · exact quiet_of_discreet (hdiscreet n hn)

/-- What the allocation makes of the variables. -/
def Allocated (g g' : EomGlobals) : Prop :=
  g' = { g with
    eomResultCount := scanSize g
    eomData := { g.eomData with
      er := List.replicate (scanSize g).toNat ⟨0, 0, 0, 0⟩ } }

/-- The loops and the report behind the allocation. -/
def scanLoops (file : Text) (tsStart : Int) : Prog EomGlobals Int := do
  let out ← scanLanes
  match out with
  | some ret => pure ret
  | none => do
      let tsEnd ← sysCall .clockGettime
      note (printf (lit "EOM Scan Finished!\n Time elapsed: " ++
        showInt (tsEnd - tsStart) ++ lit " seconds\n"))
      let ret ← generateEomReport file
      notes (if ret ≠ 0 then
        [prErr (lit "Filed to generate EOM report\n")] else [])
      pure ret

/-- The allocation and what stands around it, up to the loops. -/
theorem wp_scanAndReport_allocated {file : Text}
    (hquit : ∀ m', Asks m m' [] → Q error m')
    (hwait : ∀ m', Asks m m' [] → E .waiting m')
    (hfault : intMax < scanSize m.mem → E .fault m)
    (hloops : ∀ m' tsStart, Asks m m' [] → scanSize m.mem ≤ intMax →
      Allocated m.mem m'.mem → wp (scanLoops file tsStart) Q E m') :
    wp (scanAndReport file) Q E m := by
  simp only [scanAndReport, wp_bind, wp_get]
  by_cases hsize : intMax < scanSize m.mem
  · simp only [if_pos hsize, wp_fault]
    exact hfault hsize
  simp only [if_neg hsize, wp_bind, wp_modify]
  have ha := (Asks.refl m).modify
    { m.mem with eomResultCount := scanSize m.mem }
  refine wp_sysCall (by simp) ?_ (hwait _ ha)
  intro er m₁ hm₁
  have ha₁ := ha.step hm₁
  by_cases her : er = 0
  · simp only [if_pos her, wp_bind, wp_note, wp_pure]
    exact hquit _ (ha₁.note rfl)
  simp only [if_neg her, wp_bind, wp_modify, wp_note]
  have ha₂ := (ha₁.modify { m₁.mem with eomData := { m₁.mem.eomData with
      er := List.replicate (scanSize m₁.mem).toNat ⟨0, 0, 0, 0⟩ } }).note
    (n := printf (lit "Start EOM Scan...\n")) rfl
  refine wp_sysCall (by simp) ?_ (hwait _ ha₂)
  intro tsStart m₂ hm₂
  apply hloops m₂ tsStart (ha₂.step hm₂) (not_lt.mp hsize)
  rw [Allocated, hm₂.mem, hm₁.mem]
  rfl

/-- The loops and the report behind them, once the results are allocated. -/
theorem wp_scanLoops {file : Text} {tsStart : Int} (hready : ScanReady g)
    (hs : Scanning g [] m) :
    wp (scanLoops file tsStart) EomReturned EomHalted m := by
  rw [scanLoops, wp_bind]
  refine wp_mono (wp_scanLanes hready hs) ?_ (fun _ _ h => h.eomHalted)
  rintro (_ | ret) m₁ hstep
  · simp only [wp_bind]
    refine wp_sysCall (by simp) ?_
      (ScanHalted.eomHalted ⟨⟨_, hstep⟩, by simp⟩)
    intro tsEnd m₂ ht
    rw [wp_bind, wp_note, wp_bind]
    have hs₃ := (Scanning.steady hstep ht.steady).steady (Steady.of_note
      (n := printf (lit "EOM Scan Finished!\n Time elapsed: " ++
        showInt (tsEnd - tsStart) ++ lit " seconds\n")) rfl)
    apply wp_imp (wp_generateEomReport hready hs₃)
    intro ret m₃ hret
    rw [wp_bind, wp_notes, wp_pure]
    refine hret.steady (Steady.of_notes ?_)
    intro n hn
    split at hn
    · rw [List.mem_singleton.mp hn]
      rfl
    · contradiction
  · rw [wp_pure]
    exact ScanFailed.eomReturned hstep

/-- Allocation, loops and report: the count of results is computed first and may
overflow. -/
theorem wp_scanAndReport {file : Text} (hp : Prepared m)
    (htiming : m.mem.timingLeft ≤ m.mem.timingRight)
    (hvoltage : m.mem.voltageLow ≤ m.mem.voltageHigh) :
    wp (scanAndReport file) EomReturned EomHalted m := by
  apply wp_scanAndReport_allocated
  · exact fun m' hasks => .of_quiet error_ne_success (hp.quiet_asks hasks)
  · exact fun m' hasks => ⟨.of_quiet (hp.quiet_asks hasks), by simp⟩
  · exact fun hsize =>
      ⟨hp.safe, fun _ hfits => absurd hfits.size (not_le.mpr hsize)⟩
  · intro m' tsStart hasks hsize hallocated
    have hp' : Prepared m' := by
      refine ⟨hp.quiet_asks hasks, ?_, ?_⟩ <;> rw [hallocated]
      · exact hp.empty
      · exact hp.lanes
    have hready : ScanReady m'.mem := by
      rw [hallocated]
      exact ⟨hp.lanes, htiming, hvoltage, rfl⟩
    have hnonneg := (scanSize_pos hp.lanes htiming hvoltage).le
    apply wp_scanLoops hready (hp'.scanning _)
    rw [hallocated, List.length_replicate]
    exact Int.toNat_of_nonneg hnonneg

/-- The loops and what stands around them, for an invariant that the queries
of the report leave alone. -/
theorem wp_scanAndReport_swept {file : Text}
    {I : List Sweep.Point → Machine EomGlobals → Prop}
    (points : List Sweep.Point) (hquit : ∀ m', Asks m m' [] → Q error m')
    (hwait : ∀ m', Asks m m' [] → E .waiting m')
    (hfault : intMax < scanSize m.mem → E .fault m)
    (hloops : ∀ m', Asks m m' [] → scanSize m.mem ≤ intMax →
      Allocated m.mem m'.mem → wp scanLanes (SweepStep I Q points) E m')
    (hreport : ∀ m' m'', I points m' → Queries tame m' m'' →
      (∀ ret, Q ret m'') ∧ ∀ why, E why m'') :
    wp (scanAndReport file) Q E m := by
  apply wp_scanAndReport_allocated hquit hwait hfault
  intro m₂ tsStart hasks hsize hallocated
  rw [scanLoops, wp_bind]
  apply wp_imp (hloops m₂ hasks hsize hallocated)
  rintro (_ | ret) m₃ hstep
  · have hend : ∀ m₄, Queries tame m₃ m₄ → (∀ ret, Q ret m₄) ∧
        ∀ why, E why m₄ := fun m₄ => hreport m₃ m₄ hstep
    have htame : ∀ {m₄}, Talks m₃ m₄ [] → Queries tame m₃ m₄ :=
      fun ht => ht.queries.mono fun _ => tame_of_discreet
    simp only [wp_bind]
    refine wp_sysCall (by simp) ?_ ((hend m₃ (.refl m₃)).2 _)
    intro tsEnd m₄ hm₄
    rw [wp_bind, wp_note, wp_bind]
    have hm₅ := (htame hm₄).trans (Queries.of_note (n := printf (lit
      "EOM Scan Finished!\n Time elapsed: " ++ showInt (tsEnd - tsStart) ++
        lit " seconds\n")) rfl)
    apply wp_mono wp_generateEomReport_queries
    · intro ret m₆ hm₆
      rw [wp_bind, wp_notes, wp_pure]
      apply (hend _ ((hm₅.trans hm₆).trans (.of_notes _))).1
      intro n hn
      split at hn
      · rw [List.mem_singleton.mp hn]
        rfl
      · contradiction
    · exact fun why m₆ hm₆ => (hend m₆ (hm₅.trans hm₆)).2 why
  · rw [wp_pure]
    exact hstep

/-! Behind the checks. -/

theorem Prepared.checked {h : History} (hp : Prepared m)
    (hasks : Asks m m' h) (hchecked : Checked m.mem m'.mem h) :
    Prepared m' := by
  obtain ⟨g, hgiven, heq⟩ := hchecked.ranges
  have hempty : g.eomData.dataCnt = m.mem.eomData.dataCnt :=
    congrArg (fun g => g.eomData.dataCnt) hgiven
  have hlane : g.lane = m.mem.lane := congrArg (fun g => g.lane) hgiven
  have hnum : g.eomData.numLanes = m.mem.eomData.numLanes :=
    congrArg (fun g => g.eomData.numLanes) hgiven
  constructor
  · exact hp.quiet_asks hasks
  · rw [heq]
    exact hempty.trans hp.empty
  · have hlanes := hp.lanes
    rw [LanesChosen, ← hlane, ← hnum] at hlanes
    rw [heq]
    exact hlanes

/-- The power mode is checked before anything else is measured. -/
theorem wp_checkLink (hp : Prepared m) :
    wp checkLink EomReturned EomHalted m := by
  apply wp_checkLink_checked
  · exact fun h m' hasks =>
      .of_quiet error_ne_success (hp.quiet_asks hasks)
  · exact fun h m' hasks => ⟨.of_quiet (hp.quiet_asks hasks), by simp⟩
  · intro file h m' hasks hchecked
    obtain ⟨htiming, hvoltage⟩ := timingVoltage_ordered hchecked.accepted
    apply wp_imp
      (wp_scanAndReport (hp.checked hasks hchecked) htiming hvoltage)
    exact fun ret m'' hret => hret.steady (Steady.of_note rfl)

/-! The options. -/

/-- The variables as the option loop leaves them: no lane, or one of the two
alone. -/
structure LaneGiven (g : EomGlobals) : Prop where
  lane : g.lane = init ∨
    0 ≤ g.lane ∧ g.lane ≤ 1 ∧ g.eomData.numLanes = 1
  empty : g.eomData.dataCnt = 0

/-- No option takes the lane away again. -/
theorem parseOption_laneGiven (g : EomGlobals) (o : Occurrence)
    (g' : EomGlobals) (hg : LaneGiven g) (h : parseOption g o = .ok g') :
    LaneGiven g' := by
  obtain ⟨v, -, hread, rfl⟩ := parseOption_ok h
  cases v with
  | lane l => exact { hg with lane := .inr ⟨hread.1, hread.2, rfl⟩ }
  | _ => exact { hg with }

/-- The messages of a rejected option are discreet. -/
def RejectsQuietly {α : Type} (parsed : Parsed α) : Prop :=
  ∀ entries, parsed = .error entries → ∀ n ∈ entries, discreet n = true

theorem rejectsQuietly_ok {α : Type} (a : α) :
    RejectsQuietly (.ok a : Parsed α) := by
  intro entries h
  contradiction

theorem rejectsQuietly_prErr {α : Type} {message : Text}
    (hquiet : discreet (prErr message) = true) :
    RejectsQuietly (.error [prErr message] : Parsed α) := by
  intro entries h n hn
  obtain rfl := Except.error.inj h
  rwa [List.mem_singleton.mp hn]

/-- A path that is refused prints one of the two messages on paths. -/
theorem initEomPath_quiet (optarg : Text) (record : Text → EomGlobals) :
    RejectsQuietly (initEomPath optarg record) := by
  simp only [initEomPath, initDevicePath]
  split_ifs
  · exact rejectsQuietly_prErr rfl
  · exact rejectsQuietly_prErr rfl
  · exact rejectsQuietly_ok _

/-- A range option is refused without a message. -/
theorem initRange_quiet (optarg : Text) (record : Int → EomGlobals) :
    RejectsQuietly (initRange optarg record) := by
  simp only [initRange]
  split
  · intro entries h n hn
    obtain rfl := Except.error.inj h
    contradiction
  · exact rejectsQuietly_ok _

/-- A handler that refuses numbers out of a range. -/
theorem rejectsQuietly_inRange {α : Type} {value : Option Int}
    {unread outside : Text} {refused : Int → Prop} [DecidablePred refused]
    {accept : Int → α} (hunread : discreet (prErr unread) = true)
    (houtside : discreet (prErr outside) = true) :
    RejectsQuietly (match value with
      | none => .error [prErr unread]
      | some x =>
          if refused x then .error [prErr outside] else .ok (accept x) :
        Parsed α) := by
  cases value with
  | none => exact rejectsQuietly_prErr hunread
  | some x =>
      dsimp only
      split_ifs
      · exact rejectsQuietly_prErr houtside
      · exact rejectsQuietly_ok _

/-- All that an option can be refused with is a message of its handler. -/
theorem parseOption_quiet (g : EomGlobals) (o : Occurrence) :
    RejectsQuietly (parseOption g o) := by
  simp only [parseOption]
  split
  all_goals
    first
    | exact rejectsQuietly_ok _
    | exact rejectsQuietly_inRange rfl rfl
    | exact initEomPath_quiet _ _
    | exact initRange_quiet _ _
    | exact rejectsQuietly_prErr rfl

theorem discreet_of_mem_defaultNotes {g : EomGlobals} {n : Note}
    (hn : n ∈ defaultNotes g) : discreet n = true := by
  rw [defaultNotes, List.mem_append] at hn
  rcases hn with hn | hn
  · split at hn
    · rw [List.mem_singleton.mp hn]
      rfl
    · contradiction
  · split at hn
    · rw [List.mem_singleton.mp hn]
      rfl
    · contradiction

/-- Without a lane the defaults choose both. -/
theorem setDefaults_lanesChosen (hg : LaneGiven g) :
    LanesChosen (setDefaults g) := by
  by_cases hlane : g.lane = init
  · exact .inr ⟨if_pos hlane, if_pos hlane⟩
  · obtain ⟨hlo, hhi, hnum⟩ := hg.lane.resolve_left hlane
    have hkept : (setDefaults g).lane = g.lane := if_neg hlane
    have hcount : (setDefaults g).eomData.numLanes = g.eomData.numLanes :=
      if_neg hlane
    rw [LanesChosen, hkept, hcount]
    exact .inl ⟨hlo, hhi, hnum⟩

theorem parseDefaults_ok {g g' : EomGlobals} {entries : List Note}
    (hg : LaneGiven g) (h : parseDefaults g = .ok (g', entries)) :
    LanesChosen g' ∧ g'.eomData.dataCnt = 0 ∧
      ∀ n ∈ entries, discreet n = true := by
  simp only [parseDefaults, reject] at h
  split_ifs at h
  obtain ⟨rfl, rfl⟩ := Prod.mk.inj (Except.ok.inj h)
  exact ⟨setDefaults_lanesChosen hg, hg.empty,
    fun n hn => discreet_of_mem_defaultNotes hn⟩

theorem parseDefaults_quiet (g : EomGlobals) :
    RejectsQuietly (parseDefaults g) := by
  have hlast : ∀ {message : Text}, discreet (prErr message) = true →
      RejectsQuietly
        (.error (defaultNotes g ++ [prErr message]) :
          Parsed (EomGlobals × List Note)) := by
    intro message hquiet entries h n hn
    obtain rfl := Except.error.inj h
    rcases List.mem_append.mp hn with hn | hn
    · exact discreet_of_mem_defaultNotes hn
    · rwa [List.mem_singleton.mp hn]
  simp only [parseDefaults]
  split_ifs
  · exact rejectsQuietly_prErr rfl
  · exact hlast rfl
  · exact hlast rfl
  · exact rejectsQuietly_ok _
  · exact hlast rfl

/-- What `parse_args` leaves when it accepts. -/
theorem parseArgs_ok {argv : List Text} {g g' : EomGlobals}
    {entries : List Note} (hg : LaneGiven g)
    (h : parseArgs argv g = .ok (g', entries)) :
    LanesChosen g' ∧ g'.eomData.dataCnt = 0 ∧
      ∀ n ∈ entries, discreet n = true := by
  simp only [parseArgs, reject] at h
  split at h
  · contradiction
  · contradiction
  · split_ifs at h
    split at h
    · contradiction
    · simp only [bind, Except.bind] at h
      split at h
      · contradiction
      · next g₁ hloop =>
          exact parseDefaults_ok
            (optionLoop_preserves parseOption_laneGiven hg hloop) h

/-- `parse_args` refuses with discreet messages only. -/
theorem parseArgs_quiet (argv : List Text) (g : EomGlobals) :
    RejectsQuietly (parseArgs argv g) := by
  have hprint : ∀ text : Text,
      RejectsQuietly (.error [printf text] : Parsed (EomGlobals × List Note)) := by
    intro text entries h n hn
    obtain rfl := Except.error.inj h
    rw [List.mem_singleton.mp hn]
    rfl
  simp only [parseArgs]
  split
  · exact rejectsQuietly_prErr rfl
  · exact rejectsQuietly_prErr rfl
  · split_ifs
    · exact hprint _
    · exact hprint _
    · split
      · intro entries h n hn
        obtain rfl := Except.error.inj h
        contradiction
      · intro entries h
        simp only [bind, Except.bind] at h
        split at h
        · next e hloop =>
            obtain rfl := Except.error.inj h
            obtain ⟨g', o, hoption⟩ := optionLoop_error hloop
            exact parseOption_quiet g' o _ hoption
        · exact parseDefaults_quiet _ _ h

/-- Nothing was sent to the device, and no message of the scan was printed. -/
structure Started (m : Machine EomGlobals) : Prop where
  discreet : ∀ n ∈ notesOf m.trace, discreet n = true
  silent : exchangesOf m.trace = []

theorem Started.steps (hm : Started m) (ht : Talks m m' []) : Started m' := by
  obtain ⟨entries, hnotes, hdiscreet⟩ := ht.leaves.notes
  constructor
  · intro n hn
    rw [hnotes] at hn
    rcases List.mem_append.mp hn with hn | hn
    · exact hm.discreet n hn
    · exact hdiscreet n hn
  · rw [ht.history, hm.silent]
    rfl

/-- A run of `main`, up to the checks of the link, which start with the
variables of an accepted command line. -/
theorem wp_ufseomMain {argv : List Text} {replies : List SysReply}
    (hreject : ∀ m, Started m → Q error m)
    (hwait : ∀ m, Started m → Prepared m → E .waiting m)
    (hlink : ∀ m g entries, Started m → Prepared m →
      parseArgs argv (initEomOperation {}) = .ok (g, entries) →
      m.mem = { g with bsgFd := m.mem.bsgFd } →
      wp checkLink (fun ret m' => Q ret { m' with
        trace := m'.trace ++ [.note (.close m.mem.bsgFd)] }) E m) :
    wp (ufseomMain argv) Q E (powerOn replies ({} : EomGlobals)) := by
  have hstart : LaneGiven (initEomOperation {}) := ⟨.inl rfl, rfl⟩
  have hstarted (replies : List SysReply) (g : EomGlobals) :
      Started (powerOn replies g) := ⟨nofun, rfl⟩
  rw [ufseomMain, wp_bind, wp_modify, wp_bind, wp_get]
  dsimp only [powerOn]
  cases hargs : parseArgs argv (initEomOperation {}) with
  | error entries =>
      rw [wp_bind, wp_notes, wp_pure]
      apply hreject
      apply (hstarted replies _).steps
      exact Talks.of_notes fun n hn => parseArgs_quiet argv _ entries hargs n hn
  | ok parsed =>
      obtain ⟨g, entries⟩ := parsed
      obtain ⟨hlanes, hempty, hquiet⟩ := parseArgs_ok hstart hargs
      have hs : Started
          (⟨replies, entries.map .note, g⟩ : Machine EomGlobals) :=
        (hstarted replies g).steps (Talks.of_notes hquiet)
      have hp : Prepared
          (⟨replies, entries.map .note, g⟩ : Machine EomGlobals) :=
        ⟨fun n hn => quiet_of_discreet (hs.discreet n hn), hempty, hlanes⟩
      simp only [wp_bind, wp_notes, wp_modify, List.nil_append]
      apply wp_sysCall
      · simp
      · intro fd m hm
        have hs₁ := hs.steps hm
        have hp₁ := (hp.steady hm.steady).modify
          (f := fun g => { g with bsgFd := fd }) rfl rfl rfl
        have hs₂ : Started { m with mem := { m.mem with bsgFd := fd } } :=
          ⟨hs₁.discreet, hs₁.silent⟩
        rw [wp_bind, wp_modify]
        split_ifs with hfd
        · rw [wp_bind, wp_note, wp_pure]
          exact hreject _ (hs₂.steps (Talks.of_note rfl))
        · rw [wp_bind]
          have hmem : ({ m.mem with bsgFd := fd } : EomGlobals) =
              { g with bsgFd := fd } := by
            rw [hm.mem]
          apply wp_imp (hlink _ g entries hs₂ hp₁ hargs hmem)
          intro ret m' hret
          rw [wp_bind, wp_note, wp_pure]
          exact hret
      · exact hwait _ hs hp

/-- A whole run of ufseom, for every command line and every stream of replies.
Whatever happens, results are written inside their allocation only, and the
message that they exceed it is never printed.  A run that returns `SUCCESS` has
measured every point of every chosen lane, once and in order, and reported
each.  A run that goes wrong although its sizes fit an `int` does so behind the
loops, in the strings of the report. -/
theorem ufseom_scan_complete (argv : List Text) (replies : List SysReply) :
    wp (ufseomMain argv) EomReturned EomHalted
      (powerOn replies ({} : EomGlobals)) := by
  apply wp_ufseomMain
  · intro m hm
    exact EomReturned.of_quiet error_ne_success fun n hn =>
      quiet_of_discreet (hm.discreet n hn)
  · exact fun m _ hp => hp.waiting
  · intro m g entries _ hp _ _
    apply wp_imp (wp_checkLink hp)
    intro ret m' hret
    exact hret.steady (Steady.of_note rfl)

end UfsTools
