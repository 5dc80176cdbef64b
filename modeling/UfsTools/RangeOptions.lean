/-
The range options of ufseom: which ranges a command line gives, and when the
check against the capabilities honours them.  An end that is not given is
recorded as `EOM_TIMING_VOLTAGE_INIT`, an integer an option can give as well.
-/
import UfsTools.EomOptions

namespace UfsTools

open CLib Getopt Process

/-- The ends of a range, as far as options give them. -/
structure GivenRange where
  low : Option Int
  high : Option Int
deriving DecidableEq

namespace GivenRange

def lowOr (r : GivenRange) (steps : Int) : Int := r.low.getD (-steps)

def highOr (r : GivenRange) (steps : Int) : Int := r.high.getD steps

/-- Every given end is within the hardware limits, and the ends are in
order. -/
structure Within (r : GivenRange) (steps : Int) : Prop where
  low : ∀ v ∈ r.low, -steps ≤ v ∧ v ≤ steps
  high : ∀ v ∈ r.high, -steps ≤ v ∧ v ≤ steps
  ordered : r.lowOr steps ≤ r.highOr steps

/-- The range the program makes of it: an end that equals the marker counts as
not given. -/
def unmarked (r : GivenRange) : GivenRange :=
  ⟨r.low.filter (· ≠ eomTimingVoltageInit),
    r.high.filter (· ≠ eomTimingVoltageInit)⟩

/-- No end is lost to the marker, or only one that the default restores. -/
structure SurvivesMarker (r : GivenRange) (steps : Int) : Prop where
  low : eomTimingVoltageInit ∉ r.low
  high : eomTimingVoltageInit ∈ r.high → steps = eomTimingVoltageInit

end GivenRange

/-! Ranges against the limits. -/

namespace GivenRange

variable {r : GivenRange} {steps : Int}

theorem within_iff (hsteps : 0 ≤ steps) :
    r.Within steps ↔
      (-steps ≤ r.lowOr steps ∧ r.lowOr steps ≤ steps) ∧
        (-steps ≤ r.highOr steps ∧ r.highOr steps ≤ steps) ∧
          r.lowOr steps ≤ r.highOr steps := by
  obtain ⟨low, high⟩ := r
  constructor
  · rintro ⟨hlow, hhigh, hordered⟩
    cases low <;> cases high <;> simp_all [lowOr, highOr]
  · rintro ⟨hlow, hhigh, hordered⟩
    constructor
    · rintro v rfl
      exact hlow
    · rintro v rfl
      exact hhigh
    · exact hordered

theorem filter_marker_getD (value : Option Int) (default : Int) :
    (value.filter (· ≠ eomTimingVoltageInit)).getD default =
      if value.getD eomTimingVoltageInit = eomTimingVoltageInit then default
      else value.getD eomTimingVoltageInit := by
  cases value with
  | none => simp
  | some v =>
      by_cases hv : v = eomTimingVoltageInit
      · simp [hv, Option.filter_some]
      · simp [hv, Option.filter_some]

/-- An end is kept or left to its default. -/
theorem filter_marker_cases (value : Option Int) (default : Int) :
    (value.filter (· ≠ eomTimingVoltageInit)).getD default =
        value.getD default ∨
      (value.filter (· ≠ eomTimingVoltageInit)).getD default = default := by
  rw [filter_marker_getD]
  cases value with
  | none => simp
  | some v =>
      rw [Option.getD_some, Option.getD_some]
      split_ifs <;> simp

/-- The marker costs a range nothing if and only if both ends come out as
given. -/
theorem survivesMarker_iff (hsteps : 0 ≤ steps) :
    r.SurvivesMarker steps ↔
      r.unmarked.lowOr steps = r.lowOr steps ∧
        r.unmarked.highOr steps = r.highOr steps := by
  have hinit : eomTimingVoltageInit = 255 := rfl
  obtain ⟨low, high⟩ := r
  simp only [lowOr, highOr, unmarked, filter_marker_getD]
  constructor
  · rintro ⟨hlow, hhigh⟩
    constructor
    · cases low with
      | none => simp
      | some v => simp_all
    · cases high with
      | none => simp
      | some v => simp_all
  · rintro ⟨hlow, hhigh⟩
    constructor
    · rintro rfl
      simp only [Option.getD_some, if_true] at hlow
      omega
    · rintro rfl
      simpa using hhigh

/-- An accepted range stays accepted without its marked ends. -/
theorem Within.unmarked (hsteps : 0 ≤ steps) (h : r.Within steps) :
    r.unmarked.Within steps := by
  rw [within_iff hsteps] at h ⊢
  have hlow := filter_marker_cases r.low (-steps)
  have hhigh := filter_marker_cases r.high steps
  simp only [lowOr, highOr, GivenRange.unmarked] at h ⊢
  rcases hlow with hlow | hlow <;> rcases hhigh with hhigh | hhigh <;>
    rw [hlow, hhigh] <;> omega

theorem SurvivesMarker.within_iff (hsteps : 0 ≤ steps)
    (h : r.SurvivesMarker steps) :
    r.unmarked.Within steps ↔ r.Within steps := by
  obtain ⟨hlow, hhigh⟩ := (survivesMarker_iff hsteps).mp h
  rw [GivenRange.within_iff hsteps, GivenRange.within_iff hsteps, hlow, hhigh]

end GivenRange

/-! What the option loop records. -/

/-- The value an option `c` gives. -/
def endGiven (c : Char) (o : Occurrence) : Option Int :=
  if o.option = c then getVoltageTimingValueFromCli o.optarg else none

/-- The last value that a command line gives with option `c`. -/
def lastGiven (argv : List Text) (c : Char) : Option Int :=
  ((ufseomOptions argv).filterMap (endGiven c)).getLast?

/-- `--voltage-low` and `--voltage-high` -/
def voltageGiven (argv : List Text) : GivenRange :=
  ⟨lastGiven argv '1', lastGiven argv '2'⟩

/-- `--timing-left` and `--timing-right` -/
def timingGiven (argv : List Text) : GivenRange :=
  ⟨lastGiven argv '3', lastGiven argv '4'⟩

/-- What one option leaves of the four ends. -/
structure EndsRecorded (g : EomGlobals) (o : Occurrence) (g' : EomGlobals) :
    Prop where
  voltageLow : g'.voltageLow = (endGiven '1' o).getD g.voltageLow
  voltageHigh : g'.voltageHigh = (endGiven '2' o).getD g.voltageHigh
  timingLeft : g'.timingLeft = (endGiven '3' o).getD g.timingLeft
  timingRight : g'.timingRight = (endGiven '4' o).getD g.timingRight

theorem EndsRecorded.of_frame {g g' : EomGlobals} {o : Occurrence}
    (hoption : o.option ∉ ['1', '2', '3', '4'])
    (hvlow : g'.voltageLow = g.voltageLow)
    (hvhigh : g'.voltageHigh = g.voltageHigh)
    (htleft : g'.timingLeft = g.timingLeft)
    (htright : g'.timingRight = g.timingRight) : EndsRecorded g o g' := by
  have hnone : ∀ c ∈ ['1', '2', '3', '4'], endGiven c o = none := by
    intro c hc
    exact if_neg (ne_of_mem_of_not_mem hc hoption).symm
  constructor
  · rw [hnone '1' (by decide), hvlow, Option.getD_none]
  · rw [hnone '2' (by decide), hvhigh, Option.getD_none]
  · rw [hnone '3' (by decide), htleft, Option.getD_none]
  · rw [hnone '4' (by decide), htright, Option.getD_none]

theorem parseOption_records {g g' : EomGlobals} {o : Occurrence}
    (h : parseOption g o = .ok g') : EndsRecorded g o g' := by
  obtain ⟨v, hoption, hread, rfl⟩ := parseOption_ok h
  have hend (c : Char) : endGiven c o = if v.option = c then
      getVoltageTimingValueFromCli o.optarg else none := by
    rw [endGiven, hoption]
  cases v with
  | voltageLow x | voltageHigh x | timingLeft x | timingRight x =>
      rw [EomSetting.ReadFrom] at hread
      constructor <;> simp [hend, hread, EomSetting.option, EomSetting.put]
  | localPeer side =>
      cases side <;>
        exact .of_frame (by simp [hoption, EomSetting.option]) rfl rfl rfl rfl
  | _ =>
      exact .of_frame (by simp [hoption, EomSetting.option]) rfl rfl rfl rfl

/-- The ends a command line leaves behind: what was given last, or the
marker. -/
structure RangesRecorded (argv : List Text) (g : EomGlobals) : Prop where
  voltageLow : g.voltageLow =
    (voltageGiven argv).low.getD eomTimingVoltageInit
  voltageHigh : g.voltageHigh =
    (voltageGiven argv).high.getD eomTimingVoltageInit
  timingLeft : g.timingLeft =
    (timingGiven argv).low.getD eomTimingVoltageInit
  timingRight : g.timingRight =
    (timingGiven argv).high.getD eomTimingVoltageInit

theorem parseDefaults_ends {g g' : EomGlobals} {entries : List Note}
    (h : parseDefaults g = .ok (g', entries)) : g' = setDefaults g := by
  simp only [parseDefaults, reject] at h
  split_ifs at h
  exact (Prod.mk.inj (Except.ok.inj h)).1.symm

theorem parseArgs_records {argv : List Text} {g : EomGlobals}
    {entries : List Note}
    (h : parseArgs argv (initEomOperation {}) = .ok (g, entries)) :
    RangesRecorded argv g := by
  obtain ⟨g₁, hloop, hchecks⟩ := parseArgs_loop h
  obtain rfl := parseDefaults_ends hchecks
  constructor
  · exact optionLoop_last EomGlobals.voltageLow (endGiven '1') hloop
      fun _ _ _ h => (parseOption_records h).voltageLow
  · exact optionLoop_last EomGlobals.voltageHigh (endGiven '2') hloop
      fun _ _ _ h => (parseOption_records h).voltageHigh
  · exact optionLoop_last EomGlobals.timingLeft (endGiven '3') hloop
      fun _ _ _ h => (parseOption_records h).timingLeft
  · exact optionLoop_last EomGlobals.timingRight (endGiven '4') hloop
      fun _ _ _ h => (parseOption_records h).timingRight

/-! The check. -/

/-- The check succeeds exactly for ranges within the limits, and what it then
has scanned is what was given. -/
structure RangesHonoured (voltage timing : GivenRange) (data : EOMData)
    (ret : Int) (g : EomGlobals) : Prop where
  accepts : ret = success ↔
    voltage.Within data.voltageMaxSteps ∧ timing.Within data.timingMaxSteps
  voltage : ret = success → g.voltageLow = voltage.lowOr data.voltageMaxSteps ∧
    g.voltageHigh = voltage.highOr data.voltageMaxSteps
  timing : ret = success → g.timingLeft = timing.lowOr data.timingMaxSteps ∧
    g.timingRight = timing.highOr data.timingMaxSteps

/-- Neither range loses an end to the marker, or what is left of them is
outside the limits all the same. -/
def MarkerHarmless (voltage timing : GivenRange) (data : EOMData) : Prop :=
  voltage.SurvivesMarker data.voltageMaxSteps ∧
      timing.SurvivesMarker data.timingMaxSteps ∨
    ¬ (voltage.unmarked.Within data.voltageMaxSteps ∧
      timing.unmarked.Within data.timingMaxSteps)

theorem timingVoltageError_eq_none_iff (g : EomGlobals) :
    timingVoltageError g = none ↔
      (beyond g.eomData.voltageMaxSteps g.voltageLow = false ∧
        beyond g.eomData.voltageMaxSteps g.voltageHigh = false ∧
          g.voltageLow ≤ g.voltageHigh) ∧
      (beyond g.eomData.timingMaxSteps g.timingLeft = false ∧
        beyond g.eomData.timingMaxSteps g.timingRight = false ∧
          g.timingLeft ≤ g.timingRight) := by
  simp only [timingVoltageError]
  split_ifs <;> grind

theorem beyond_eq_false_iff (steps x : Int) :
    beyond steps x = false ↔ -steps ≤ x ∧ x ≤ steps := by
  simp only [beyond, decide_eq_false_iff_not]
  omega

/-- The ends that a range has once the defaults are in. -/
structure EndsFilled (voltage timing : GivenRange) (g : EomGlobals) :
    Prop where
  voltage : g.voltageLow = voltage.unmarked.lowOr g.eomData.voltageMaxSteps ∧
    g.voltageHigh = voltage.unmarked.highOr g.eomData.voltageMaxSteps
  timing : g.timingLeft = timing.unmarked.lowOr g.eomData.timingMaxSteps ∧
    g.timingRight = timing.unmarked.highOr g.eomData.timingMaxSteps

theorem RangesRecorded.filled {argv : List Text} {g : EomGlobals}
    (h : RangesRecorded argv g) (data : EOMData) :
    EndsFilled (voltageGiven argv) (timingGiven argv)
      (timingVoltageDefaults { g with eomData := data }) := by
  constructor
  · simp only [timingVoltageDefaults, GivenRange.lowOr, GivenRange.highOr,
      GivenRange.unmarked, GivenRange.filter_marker_getD, h.voltageLow,
      h.voltageHigh, and_self]
  · simp only [timingVoltageDefaults, GivenRange.lowOr, GivenRange.highOr,
      GivenRange.unmarked, GivenRange.filter_marker_getD, h.timingLeft,
      h.timingRight, and_self]

theorem EndsFilled.error_eq_none_iff {voltage timing : GivenRange}
    {g : EomGlobals} (h : EndsFilled voltage timing g)
    (hvoltage : 0 ≤ g.eomData.voltageMaxSteps)
    (htiming : 0 ≤ g.eomData.timingMaxSteps) :
    timingVoltageError g = none ↔
      voltage.unmarked.Within g.eomData.voltageMaxSteps ∧
        timing.unmarked.Within g.eomData.timingMaxSteps := by
  rw [timingVoltageError_eq_none_iff, GivenRange.within_iff hvoltage,
    GivenRange.within_iff htiming, h.voltage.1, h.voltage.2, h.timing.1,
    h.timing.2]
  simp only [beyond_eq_false_iff]

theorem wp_timingVoltageSanityCheck_iff {voltage timing : GivenRange}
    {m : Machine EomGlobals}
    (hfilled : EndsFilled voltage timing (timingVoltageDefaults m.mem))
    (hvoltage : 0 ≤ m.mem.eomData.voltageMaxSteps)
    (htiming : 0 ≤ m.mem.eomData.timingMaxSteps) :
    wp timingVoltageSanityCheck (fun ret m' =>
      (ret = success ↔
        voltage.unmarked.Within m.mem.eomData.voltageMaxSteps ∧
          timing.unmarked.Within m.mem.eomData.timingMaxSteps) ∧
        m'.mem = timingVoltageDefaults m.mem) (fun _ _ => False) m := by
  have hnone := hfilled.error_eq_none_iff hvoltage htiming
  have hrun := timingVoltageSanityCheck_run m.replies m.trace m.mem
  cases hcheck : timingVoltageError (timingVoltageDefaults m.mem) with
  | none =>
      rw [hcheck] at hrun
      exact wp_of_done hrun ⟨iff_of_true rfl (hnone.mp hcheck), rfl⟩
  | some message =>
      rw [hcheck] at hrun
      have hfail : ¬ (voltage.unmarked.Within m.mem.eomData.voltageMaxSteps ∧
          timing.unmarked.Within m.mem.eomData.timingMaxSteps) := by
        intro hwithin
        rw [hnone.mpr hwithin] at hcheck
        contradiction
      exact wp_of_done hrun ⟨iff_of_false (by decide) hfail, rfl⟩

/-- Ends filled in past a marker that did harm are not the ends given. -/
theorem EndsFilled.honoured_iff {voltage timing : GivenRange}
    {data : EOMData} {ret : Int} {g : EomGlobals}
    (h : EndsFilled voltage timing g) (hdata : g.eomData = data)
    (hvoltage : 0 ≤ data.voltageMaxSteps) (htiming : 0 ≤ data.timingMaxSteps)
    (hret : ret = success ↔
      voltage.unmarked.Within data.voltageMaxSteps ∧
        timing.unmarked.Within data.timingMaxSteps) :
    RangesHonoured voltage timing data ret g ↔
      MarkerHarmless voltage timing data := by
  obtain ⟨hvends, htends⟩ := h
  rw [hdata] at hvends htends
  constructor
  · intro hhonoured
    rw [MarkerHarmless, or_iff_not_imp_right, not_not]
    intro hleft
    have hsuccess := hret.mpr hleft
    obtain ⟨hvlow, hvhigh⟩ := hhonoured.voltage hsuccess
    obtain ⟨htlow, hthigh⟩ := hhonoured.timing hsuccess
    constructor
    · rw [GivenRange.survivesMarker_iff hvoltage]
      exact ⟨hvends.1.symm.trans hvlow, hvends.2.symm.trans hvhigh⟩
    · rw [GivenRange.survivesMarker_iff htiming]
      exact ⟨htends.1.symm.trans htlow, htends.2.symm.trans hthigh⟩
  · rintro (⟨hvmarker, htmarker⟩ | hout)
    · have hvkept := (GivenRange.survivesMarker_iff hvoltage).mp hvmarker
      have htkept := (GivenRange.survivesMarker_iff htiming).mp htmarker
      constructor
      · rw [hret, hvmarker.within_iff hvoltage, htmarker.within_iff htiming]
      · exact fun _ => ⟨hvends.1.trans hvkept.1, hvends.2.trans hvkept.2⟩
      · exact fun _ => ⟨htends.1.trans htkept.1, htends.2.trans htkept.2⟩
    · have hfail : ret ≠ success := fun hsuccess => hout (hret.mp hsuccess)
      constructor
      · refine iff_of_false hfail ?_
        rintro ⟨hv, ht⟩
        exact hout ⟨hv.unmarked hvoltage, ht.unmarked htiming⟩
      · exact fun hsuccess => absurd hsuccess hfail
      · exact fun hsuccess => absurd hsuccess hfail

/-- The ranges of an accepted command line are honoured, whatever the device
reports, if and only if the marker is harmless. -/
theorem rangesHonoured_iff {argv : List Text} {g : EomGlobals}
    {entries : List Note}
    (h : parseArgs argv (initEomOperation {}) = .ok (g, entries))
    {data : EOMData} (hvoltage : 0 ≤ data.voltageMaxSteps)
    (htiming : 0 ≤ data.timingMaxSteps) {m : Machine EomGlobals}
    (hmem : m.mem = { g with eomData := data }) :
    wp timingVoltageSanityCheck (fun ret m' =>
        RangesHonoured (voltageGiven argv) (timingGiven argv) data ret m'.mem)
      (fun _ _ => False) m ↔
      MarkerHarmless (voltageGiven argv) (timingGiven argv) data := by
  have hfilled := (parseArgs_records h).filled data
  rw [← hmem] at hfilled
  have hdata : m.mem.eomData = data := by rw [hmem]
  apply wp_iff
  apply wp_imp (wp_timingVoltageSanityCheck_iff hfilled (by rwa [hdata])
    (by rwa [hdata]))
  rintro ret m' ⟨hret, hm'⟩
  rw [hdata] at hret
  rw [hm']
  exact hfilled.honoured_iff hdata hvoltage htiming hret

/-- A run of the eye monitor in the middle of the voltage range. -/
def voltageLine (low high : String) : List Text :=
  sidelessLine ++ [lit "--voltage-low", lit low, lit "--voltage-high", lit high]

def voltageLineGlobals (low high : Int) : EomGlobals :=
  { acceptedGlobals .localSide with voltageLow := low, voltageHigh := high }

/-- A device with the same number of steps both ways. -/
def reportedSteps (steps : Int) : EOMData :=
  { timingMaxSteps := steps, voltageMaxSteps := steps, numLanes := 2 }

def atCheck (g : EomGlobals) (data : EOMData) : Machine EomGlobals :=
  ⟨[], [], { g with eomData := data }⟩

theorem rangesHonoured_voltage_0_8 :
    wp timingVoltageSanityCheck (fun ret m' =>
        RangesHonoured (voltageGiven (voltageLine "0" "8"))
          (timingGiven (voltageLine "0" "8")) (reportedSteps 63) ret m'.mem)
      (fun _ _ => False)
      (atCheck (voltageLineGlobals 0 8) (reportedSteps 63)) ↔
      MarkerHarmless (voltageGiven (voltageLine "0" "8"))
        (timingGiven (voltageLine "0" "8")) (reportedSteps 63) := by
  have haccepted : parseArgs (voltageLine "0" "8") (initEomOperation {}) =
      .ok (voltageLineGlobals 0 8, defaultNotes (initEomOperation {})) := by
    decide +kernel
  exact rangesHonoured_iff haccepted (by decide) (by decide) rfl

/-- `--voltage-low 255` is far outside the limits of 63 steps and is accepted
as if it had not been given. -/
theorem voltage_low_255_ignored :
    ¬ ∀ (argv : List Text) (g : EomGlobals) (entries : List Note)
        (data : EOMData) (m : Machine EomGlobals),
      parseArgs argv (initEomOperation {}) = .ok (g, entries) →
        0 ≤ data.voltageMaxSteps → 0 ≤ data.timingMaxSteps →
          m.mem = { g with eomData := data } →
            wp timingVoltageSanityCheck (fun ret m' =>
                RangesHonoured (voltageGiven argv) (timingGiven argv) data ret
                  m'.mem) (fun _ _ => False) m := by
  intro h
  have haccepted : parseArgs (voltageLine "255" "8") (initEomOperation {}) =
      .ok (voltageLineGlobals 255 8,
        defaultNotes (initEomOperation {})) := by
    decide +kernel
  have hmem : (atCheck (voltageLineGlobals 255 8) (reportedSteps 63)).mem =
      { voltageLineGlobals 255 8 with eomData := reportedSteps 63 } := rfl
  obtain ⟨ret, m', hrun, hhonoured⟩ := wp_returns
    (h _ _ _ (reportedSteps 63) _ haccepted (by decide) (by decide) hmem)
  have hgiven : (voltageGiven (voltageLine "255" "8")).low = some 255 := by
    decide +kernel
  have hsuccess : ret = success := by
    have hvalue : (timingVoltageSanityCheck
        (atCheck (voltageLineGlobals 255 8) (reportedSteps 63))).value? =
        some success := by decide +kernel
    rw [hrun] at hvalue
    exact Option.some.inj hvalue
  have hwithin := (hhonoured.accepts.mp hsuccess).1.low 255 hgiven
  exact absurd hwithin.2 (by decide)

end UfsTools
