/-
The size of the results: what `main` computes in `int` for `malloc`, against
the calls of `eom_scan` its three loops make.
-/
import UfsTools.EomEncoding
import UfsTools.RangeOptions

namespace UfsTools

open CLib Process

/-- `eom_result_count`, one `int` operation after the other. -/
def eomResultCount (g : EomGlobals) : Option Int := do
  let timing ← intValue (g.timingRight - g.timingLeft)
  let timing ← intValue (timing + 1)
  let voltage ← intValue (g.voltageHigh - g.voltageLow)
  let voltage ← intValue (voltage + 1)
  let points ← intValue (timing * voltage)
  intValue (points * g.eomData.numLanes)

/-- `eom_result_size`; `sizeof` makes the product a `size_t`. -/
def eomResultSize (count : Int) : Nat :=
  (count * sizeofEomResult % 2 ^ 64).toNat

/-- A call of `eom_scan` that is only counted. -/
def countScan : Prog Nat (Option Int) := do
  modify (· + 1)
  pure none

/-- The three loops of `main` around it. -/
def countScans (g : EomGlobals) : Prog Nat (Option Int) :=
  forCount intMax (fun _ =>
    forUpTo intMax g.timingLeft g.timingRight fun _ =>
      forUpTo intMax g.voltageLow g.voltageHigh fun _ => countScan)
    g.eomData.numLanes.toNat g.lane

/-- The number of calls, if no loop counter overflows. -/
def scanCalls (g : EomGlobals) : Option Nat :=
  match countScans g ⟨[], [], 0⟩ with
  | .done _ m => some m.mem
  | .halt _ _ => none

/-- Wherever the loops of `main` start with allocated results and get through,
`calls` results are in them: every call that succeeds adds one. -/
def LogsCalls (g : EomGlobals) (calls : Nat) : Prop :=
  ∀ m, Scanning { g with eomResultCount := scanSize g } [] m →
    wp scanLanes
      (fun out m' => out = none → m'.mem.eomData.dataCnt = calls)
      (fun _ _ => True) m

/-- The count does not overflow, and `malloc` is asked for exactly one result
for each call. -/
structure SizeExact (g : EomGlobals) : Prop where
  exact : ∃ count calls, eomResultCount g = some count ∧
    scanCalls g = some calls ∧ LogsCalls g calls ∧
      eomResultSize count = sizeofEomResult * calls

/-! The count. -/

theorem eomResultCount_le {g : EomGlobals} {count : Int}
    (h : eomResultCount g = some count) :
    scanSize g = count ∧ count ≤ intMax := by
  simp only [eomResultCount, Option.bind_eq_bind, Option.bind_eq_some_iff,
    intValue_eq_some_iff] at h
  obtain ⟨_, ⟨-, rfl⟩, _, ⟨-, rfl⟩, _, ⟨-, rfl⟩, _, ⟨-, rfl⟩, _, ⟨-, rfl⟩,
    hcount, rfl⟩ := h
  exact ⟨rfl, hcount.2⟩

/-- Factors that are positive stay below their product. -/
theorem eomResultCount_eq {g : EomGlobals} (hlanes : 1 ≤ g.eomData.numLanes)
    (htiming : g.timingLeft ≤ g.timingRight)
    (hvoltage : g.voltageLow ≤ g.voltageHigh) (hsize : scanSize g ≤ intMax) :
    eomResultCount g = some (scanSize g) := by
  have hrows : 1 ≤ g.timingRight - g.timingLeft + 1 := by omega
  have hcolumns : 1 ≤ g.voltageHigh - g.voltageLow + 1 := by omega
  simp only [scanSize] at hsize ⊢
  simp only [eomResultCount, Option.bind_eq_bind, Option.bind_eq_some_iff,
    intValue_eq_some_iff]
  generalize hr : g.timingRight - g.timingLeft = rows at *
  generalize hc : g.voltageHigh - g.voltageLow = columns at *
  generalize g.eomData.numLanes = lanes at *
  have hpoints : 1 ≤ (rows + 1) * (columns + 1) := by
    have := Int.mul_le_mul hrows hcolumns (by omega) (by omega)
    omega
  have hle : (rows + 1) * (columns + 1) ≤
      (rows + 1) * (columns + 1) * lanes :=
    le_mul_of_one_le_right (by omega) hlanes
  have hlerows : rows + 1 ≤ (rows + 1) * (columns + 1) :=
    le_mul_of_one_le_right (by omega) hcolumns
  have hlecolumns : columns + 1 ≤ (rows + 1) * (columns + 1) :=
    le_mul_of_one_le_left (by omega) hrows
  refine ⟨rows, ⟨by omega, rfl⟩, _, ⟨by omega, rfl⟩, columns,
    ⟨by omega, rfl⟩, _, ⟨by omega, rfl⟩, _, ⟨by omega, rfl⟩, by omega, rfl⟩

theorem eomResultSize_eq {count : Int} (hpos : 0 ≤ count)
    (hle : count ≤ intMax) :
    eomResultSize count = sizeofEomResult * count.toNat := by
  simp only [eomResultSize, sizeofEomResult, intMax] at *
  omega

/-! The calls. -/

theorem countScan_run (m : Machine Nat) :
    countScan m = .done none { m with mem := m.mem + 1 } := rfl

variable {g : EomGlobals}

/-- The grid of one lane. -/
def laneCalls (g : EomGlobals) : Nat :=
  (g.timingRight - g.timingLeft + 1).toNat *
    (g.voltageHigh - g.voltageLow + 1).toNat

/-- Rounds that count `k` calls each. -/
theorem forCount_adds {body : Int → Prog Nat (Option Int)} {k : Nat}
    (hbody : ∀ y m, body y m = .done none { m with mem := m.mem + k })
    (n : Nat) (x : Int) (hlimit : x + n ≤ intMax) (m : Machine Nat) :
    forCount intMax body n x m =
      .done none { m with mem := m.mem + n * k } := by
  rw [forCount_through (f := (· + k)) hbody n x hlimit,
    add_right_iterate_apply, smul_eq_mul]

theorem countVoltage_run (hvoltage : g.voltageLow ≤ g.voltageHigh)
    (hend : g.voltageHigh < intMax) (m : Machine Nat) :
    forUpTo intMax g.voltageLow g.voltageHigh (fun _ => countScan) m =
      .done none { m with
        mem := m.mem + (g.voltageHigh - g.voltageLow + 1).toNat } := by
  rw [forUpTo, forCount_adds (fun _ => countScan_run) _ _ (by omega),
    Nat.mul_one]

theorem countTiming_run (htiming : g.timingLeft ≤ g.timingRight)
    (hvoltage : g.voltageLow ≤ g.voltageHigh)
    (htend : g.timingRight < intMax) (hvend : g.voltageHigh < intMax)
    (m : Machine Nat) :
    forUpTo intMax g.timingLeft g.timingRight (fun _ =>
        forUpTo intMax g.voltageLow g.voltageHigh fun _ => countScan) m =
      .done none { m with mem := m.mem + laneCalls g } := by
  rw [forUpTo, forCount_adds (fun _ => countVoltage_run hvoltage hvend) _ _
    (by omega), laneCalls]

theorem scanCalls_eq (hlanes : LanesChosen g)
    (htiming : g.timingLeft ≤ g.timingRight)
    (hvoltage : g.voltageLow ≤ g.voltageHigh)
    (htend : g.timingRight < intMax) (hvend : g.voltageHigh < intMax) :
    scanCalls g = some (g.eomData.numLanes.toNat * laneCalls g) := by
  have hlast : g.lane + (g.eomData.numLanes.toNat : Int) ≤ intMax := by
    have hmax : intMax = 2147483647 := rfl
    rcases hlanes with h | h <;> omega
  rw [scanCalls, countScans, forCount_adds
    (fun _ => countTiming_run htiming hvoltage htend hvend) _ _ hlast,
    Nat.zero_add]

theorem countTiming_over (htiming : g.timingLeft ≤ g.timingRight)
    (hvoltage : g.voltageLow ≤ g.voltageHigh)
    (htend : g.timingRight ≤ intMax) (hvend : g.voltageHigh ≤ intMax)
    (hover : ¬ (g.timingRight < intMax ∧ g.voltageHigh < intMax))
    (m : Machine Nat) :
    ∃ m', forUpTo intMax g.timingLeft g.timingRight (fun _ =>
        forUpTo intMax g.voltageLow g.voltageHigh fun _ => countScan) m =
      .halt .fault m' := by
  by_cases hlast : g.voltageHigh < intMax
  · exact forCount_over (fun _ m => ⟨_, countVoltage_run hvoltage hlast m⟩) _
      _ (by omega) (by omega) m
  · refine forCount_fault (fun _ m => ?_) (by omega) _ m
    exact forCount_over (fun _ m => ⟨_, countScan_run m⟩) _ _ (by omega)
      (by omega) m

/-- A counter that is to step past the largest `int` ends the program. -/
theorem scanCalls_eq_none (hlanes : LanesChosen g)
    (htiming : g.timingLeft ≤ g.timingRight)
    (hvoltage : g.voltageLow ≤ g.voltageHigh)
    (htend : g.timingRight ≤ intMax) (hvend : g.voltageHigh ≤ intMax)
    (hover : ¬ (g.timingRight < intMax ∧ g.voltageHigh < intMax)) :
    scanCalls g = none := by
  have hlane : 0 < g.eomData.numLanes.toNat := by
    rcases hlanes with h | h <;> omega
  have hrows := countTiming_over htiming hvoltage htend hvend hover
  have hfault : ∃ m', countScans g ⟨[], [], 0⟩ = .halt .fault m' :=
    forCount_fault (fun _ => hrows) hlane g.lane _
  obtain ⟨m', hrun⟩ := hfault
  rw [scanCalls, hrun]

theorem toNat_scanSize (hlanes : LanesChosen g)
    (htiming : g.timingLeft ≤ g.timingRight)
    (hvoltage : g.voltageLow ≤ g.voltageHigh) :
    (scanSize g).toNat = g.eomData.numLanes.toNat * laneCalls g := by
  have hnum : 0 ≤ g.eomData.numLanes := by
    rcases hlanes with h | h <;> omega
  apply Int.ofNat_inj.mp
  rw [Int.toNat_of_nonneg (scanSize_pos hlanes htiming hvoltage).le]
  simp only [scanSize, laneCalls, Nat.cast_mul]
  rw [Int.toNat_of_nonneg hnum, Int.toNat_of_nonneg (by omega),
    Int.toNat_of_nonneg (by omega)]
  ring

/-- A run of the real loops that gets through has logged one result for each
call counted. -/
theorem logsCalls_scanSize (hlanes : LanesChosen g)
    (htiming : g.timingLeft ≤ g.timingRight)
    (hvoltage : g.voltageLow ≤ g.voltageHigh) :
    LogsCalls g (scanSize g).toNat := by
  intro m hs
  have hready : ScanReady { g with eomResultCount := scanSize g } :=
    ⟨hlanes, htiming, hvoltage, rfl⟩
  refine wp_mono (wp_scanLanes hready hs) ?_ (fun _ _ _ => trivial)
  rintro out m' hstep rfl
  have hthrough : Scanning _ (scanBox g).points m' := hstep
  have hcount : ((scanBox g).points.length : Int) = scanSize g :=
    length_scanBox hready
  rw [hthrough.counted, ← hcount, Int.toNat_natCast]

/-- The size is right for ordered ranges, all of whose numbers are `int`, if
and only if the count and the counters behind the last step still are. -/
theorem sizeExact_iff_scanFits (hlanes : LanesChosen g)
    (htiming : g.timingLeft ≤ g.timingRight)
    (hvoltage : g.voltageLow ≤ g.voltageHigh)
    (htend : g.timingRight ≤ intMax) (hvend : g.voltageHigh ≤ intMax) :
    SizeExact g ↔ ScanFits g := by
  have hpos := scanSize_pos hlanes htiming hvoltage
  constructor
  · rintro ⟨count, calls, hcount, hcalls, -, -⟩
    obtain ⟨rfl, hsize⟩ := eomResultCount_le hcount
    have hends : g.timingRight < intMax ∧ g.voltageHigh < intMax := by
      by_contra hover
      rw [scanCalls_eq_none hlanes htiming hvoltage htend hvend hover] at hcalls
      contradiction
    exact ⟨hsize, hends.1, hends.2⟩
  · intro hfits
    have hnum : 1 ≤ g.eomData.numLanes := by
      rcases hlanes with h | h <;> omega
    refine ⟨scanSize g, (scanSize g).toNat,
      eomResultCount_eq hnum htiming hvoltage hfits.size, ?_,
      logsCalls_scanSize hlanes htiming hvoltage,
      eomResultSize_eq hpos.le hfits.size⟩
    rw [scanCalls_eq hlanes htiming hvoltage hfits.timing hfits.voltage,
      toNat_scanSize hlanes htiming hvoltage]

/-- What the check lets through has ends within the capabilities. -/
theorem timingVoltage_ends {g : EomGlobals} (h : timingVoltageError g = none) :
    g.timingRight ≤ g.eomData.timingMaxSteps ∧
      g.voltageHigh ≤ g.eomData.voltageMaxSteps := by
  rw [timingVoltageError_eq_none_iff] at h
  simp only [beyond_eq_false_iff] at h
  exact ⟨h.2.2.1.2, h.1.2.1.2⟩

/-- Whatever capabilities `main` takes for valid and whatever ranges the check
accepts for them, the results are allocated at the size the loops need if and
only if the grid fits an `int` and neither range ends at the largest one. -/
theorem sizeExact_iff {g : EomGlobals} (hlanes : LanesChosen g)
    (hcap : CapabilitiesRead g)
    (hcheck : timingVoltageError (timingVoltageDefaults g) = none) :
    SizeExact (timingVoltageDefaults g) ↔
      ScanFits (timingVoltageDefaults g) := by
  obtain ⟨htiming, hvoltage⟩ := timingVoltage_ordered hcheck
  obtain ⟨htend, hvend⟩ := timingVoltage_ends hcheck
  apply sizeExact_iff_scanFits
  · exact hlanes
  · exact htiming
  · exact hvoltage
  · exact htend.trans hcap.timing.2
  · exact hvend.trans hcap.voltage.2

theorem sizeExact_63 :
    SizeExact (timingVoltageDefaults (wholeRange 63)) ↔
      ScanFits (timingVoltageDefaults (wholeRange 63)) := by
  have hlanes : LanesChosen (wholeRange 63) := .inl (by decide)
  have hcap : CapabilitiesRead (wholeRange 63) := by
    constructor <;> decide +kernel
  have hcheck : timingVoltageError (timingVoltageDefaults (wholeRange 63)) =
      none := by decide +kernel
  exact sizeExact_iff hlanes hcap hcheck

/-- The product of two ranges of 65537 steps is no `int`. -/
theorem count_overflows_at_32768 :
    ¬ ∀ g : EomGlobals, LanesChosen g → CapabilitiesRead g →
      timingVoltageError (timingVoltageDefaults g) = none →
        SizeExact (timingVoltageDefaults g) := by
  intro h
  have hlanes : LanesChosen (wholeRange 32768) := .inl (by decide)
  have hcap : CapabilitiesRead (wholeRange 32768) := by
    constructor <;> decide +kernel
  have hcheck : timingVoltageError (timingVoltageDefaults (wholeRange 32768)) =
      none := by decide +kernel
  obtain ⟨count, calls, hcount, -⟩ := h _ hlanes hcap hcheck
  obtain ⟨rfl, hle⟩ := eomResultCount_le hcount
  exact absurd hle (by decide +kernel)

end UfsTools
