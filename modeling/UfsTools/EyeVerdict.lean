/-
What the verdict of `open_file` says of the eyes in a report.
-/
import UfsTools.OpenedReport

namespace UfsTools

open CLib PyText NumberFormat

variable {R : Type} [NumberFormat R]

/-! The eye of a lane, as far as the lists decide it. -/

/-- Where a point is drawn. -/
def EomPlot.place (p : EomPlot R) (point : Int × Int) : R × R :=
  (adjust 4 point.1 p.timingStep, adjust 2 point.2 p.voltageStep)

/-- The boundary of the eye of a lane; `none` where the search meets a point
without a measurement. -/
def EomPlot.boundary (p : EomPlot R) (lane : Int) (direction : EyeDirection) :
    Option Int :=
  (findEyeWidthBoundary p (p.lane lane).data direction).join

/-- The centre of a lane; `none` where a search meets a point without a
measurement. -/
def EomPlot.center (p : EomPlot R) (lane : Int) : Option Int :=
  match p.boundary lane .right, p.boundary lane .left with
  | some right, some left => some (left + intHalf R (right - left + 1))
  | _, _ => none

/-- A point of the grid is in the mask of a lane. -/
def EomPlot.inMask (p : EomPlot R) (lane : Int) (point : Int × Int) : Bool :=
  match p.center lane with
  | none => false
  | some center => inDiamond p center (p.place point).1 (p.place point).2

/-- The points of the grid in the mask of a lane. -/
def EomPlot.mask (p : EomPlot R) (lane : Int) : Set (Int × Int) :=
  { point | point ∈ p.points ∧ p.inMask lane point = true }

/-- The grid has points, each a pair of floats with a place of its own. -/
def Plottable (p : EomPlot R) : Prop :=
  p.points ≠ [] ∧
    (∀ point ∈ p.points,
      overflows R point.1 = false ∧ overflows R point.2 = false) ∧
    (p.points.map p.place).Nodup

instance [DecidableEq R] (p : EomPlot R) : Decidable (Plottable p) :=
  inferInstanceAs (Decidable (_ ∧ _ ∧ _))

/-- No point of the mask has errors. -/
def EomPlot.lanePass (p : EomPlot R) (lane : Int) : Bool :=
  p.points.all fun point =>
    !(p.inMask lane point && decide ((p.lane lane).errorCount point > 0))

/-- A point of the mask has no measurement. -/
def EomPlot.laneSkip (p : EomPlot R) (lane : Int) : Bool :=
  p.points.any fun point => p.inMask lane point &&
    decide ((p.lane lane).errorCount point = invalidErrorCount)

/-- The text of a lane whose plot finds `skip` set or sets it. -/
def EomPlot.laneText (p : EomPlot R) (lane : Int) (skip : Bool) : EyeText :=
  match p.center lane with
  | none => .blank
  | some _ =>
      if skip then .blank else if p.lanePass lane then .pass else .fail

variable {p : EomPlot R} {lane : Int} {pd : Pandas R}

theorem lanePass_iff : p.lanePass lane = true ↔
    ∀ point ∈ p.mask lane, (p.lane lane).errorCount point ≤ 0 := by
  rw [EomPlot.lanePass, List.all_eq_true]
  constructor
  · rintro h point ⟨hpoint, hmask⟩
    simpa [hmask] using h point hpoint
  · intro h point hpoint
    by_cases hmask : p.inMask lane point = true
    · simpa [hmask] using h point ⟨hpoint, hmask⟩
    · simp [hmask]

section Guard

variable {α : Type} {c : Prop} [Decidable c]

theorem guard_bind_pos (hc : c) (f : Unit → Option α) :
    (guard c >>= f) = f () := by
  rw [guard, if_pos hc]
  rfl

theorem guard_bind_neg (hc : ¬ c) (f : Unit → Option α) :
    (guard c >>= f) = none := by
  rw [guard, if_neg hc]
  rfl

end Guard

/-! The grid. -/

theorem mem_pyRange {lo hi x : Int} : x ∈ pyRange lo hi ↔ lo ≤ x ∧ x < hi := by
  simp only [pyRange, List.mem_map, List.mem_range]
  constructor
  · rintro ⟨i, hi, rfl⟩
    omega
  · rintro ⟨hlo, hhi⟩
    exact ⟨(x - lo).toNat, by omega, by omega⟩

theorem mem_points {point : Int × Int} : point ∈ p.points ↔
    (-p.timingMaxSteps ≤ point.1 ∧ point.1 ≤ p.timingMaxSteps) ∧
      -p.voltageMaxSteps ≤ point.2 ∧ point.2 ≤ p.voltageMaxSteps := by
  obtain ⟨timing, voltage⟩ := point
  simp only [EomPlot.points, gridPoints, List.mem_flatMap, List.mem_map,
    mem_pyRange, Prod.mk.injEq]
  constructor
  · rintro ⟨t, ht, v, hv, rfl, rfl⟩
    omega
  · rintro ⟨ht, hv⟩
    exact ⟨timing, by omega, voltage, by omega, rfl, rfl⟩

/-- A grid with points has its row of voltage 0. -/
theorem mem_points_row (h : p.points ≠ []) {timing : Int}
    (hlo : -p.timingMaxSteps ≤ timing) (hhi : timing ≤ p.timingMaxSteps) :
    (timing, 0) ∈ p.points := by
  obtain ⟨point, hpoint⟩ := List.exists_mem_of_ne_nil _ h
  have hbounds := mem_points.mp hpoint
  rw [mem_points]
  dsimp only
  omega

/-! `validate_data` -/

theorem validateData_eq {p : EyePlot R} (h01 : lane = 0 ∨ lane = 1)
    (hfilled : Filled p.toEomPlot lane) (hpoints : p.points ≠ []) :
    validateData p lane = some 0 := by
  have hext {xs : List Int} (hne : xs ≠ []) : (∃ lo, xs.min? = some lo) ∧
      ∃ hi, xs.max? = some hi := by
    refine ⟨Option.ne_none_iff_exists'.mp ?_, Option.ne_none_iff_exists'.mp ?_⟩
    · rwa [ne_eq, List.min?_eq_none_iff]
    · rwa [ne_eq, List.max?_eq_none_iff]
  have htiming : (p.lane lane).timingList ≠ [] := by
    rw [hfilled.timing]
    exact fun h => hpoints (List.map_eq_nil_iff.mp h)
  have hvoltage : (p.lane lane).voltageList ≠ [] := by
    rw [hfilled.voltage]
    exact fun h => hpoints (List.map_eq_nil_iff.mp h)
  obtain ⟨⟨minTime, hminTime⟩, maxTime, hmaxTime⟩ := hext htiming
  obtain ⟨⟨minVolt, hminVolt⟩, maxVolt, hmaxVolt⟩ := hext hvoltage
  have hnone : ((pyRange minTime maxTime).flatMap fun time =>
      (pyRange minVolt (maxVolt + 1)).map fun volt => (time, volt)).countP
      (fun point => ((p.lane lane).data (pointKey point.1 point.2)).isNone) =
        0 := by
    rw [List.countP_eq_zero]
    intro point hpoint
    simp only [List.mem_flatMap, List.mem_map, mem_pyRange] at hpoint
    obtain ⟨time, htime, volt, hvolt, rfl⟩ := hpoint
    have hmem : (time, volt) ∈ p.points := by
      have hlast := List.max?_mem hmaxTime
      have hfirst := List.min?_mem hminTime
      have hhigh := List.max?_mem hmaxVolt
      have hlow := List.min?_mem hminVolt
      simp only [hfilled.timing, hfilled.voltage, List.mem_map]
        at hfirst hlast hlow hhigh
      obtain ⟨⟨a, ha, rfl⟩, ⟨b, hb, rfl⟩, ⟨c, hc, rfl⟩, d, hd, rfl⟩ :=
        And.intro hfirst (And.intro hlast (And.intro hlow hhigh))
      rw [mem_points] at ha hb hc hd ⊢
      dsimp only
      omega
    rw [hfilled.total _ hmem]
    exact Bool.false_ne_true
  rw [validateData, guard_bind_pos h01]
  simp only [hminTime, hmaxTime, hminVolt, hmaxVolt, hnone,
    Option.bind_eq_bind, Option.bind_some]

theorem points_of_validateData {p : EyePlot R} {missingDataCount : Nat}
    (hfilled : Filled p.toEomPlot lane)
    (h : validateData p lane = some missingDataCount) : p.points ≠ [] := by
  intro hnone
  have hempty : (p.lane lane).timingList = [] := by
    rw [hfilled.timing, hnone]
    rfl
  simp [validateData, guard, hempty] at h

/-! `calculate_eye_width_center` -/

theorem isSome_searchBoundary {laneData : Text → Option Int}
    {direction : EyeDirection} {atEnd : Int} {timings : List Int}
    (h : ∀ timing ∈ timings, (laneData (pointKey timing 0)).isSome) :
    (searchBoundary laneData direction atEnd timings).isSome := by
  induction timings with
  | nil => rfl
  | cons timing rest ih =>
      rw [List.forall_mem_cons] at h
      obtain ⟨errorCount, hsome⟩ := Option.isSome_iff_exists.mp h.1
      rw [searchBoundary, hsome]
      simp only [Option.bind_eq_bind, Option.bind_some]
      split_ifs
      · rfl
      · rfl
      · exact ih h.2

theorem findEyeWidthBoundary_eq (hfilled : Filled p lane)
    (hpoints : p.points ≠ []) (direction : EyeDirection) :
    findEyeWidthBoundary p (p.lane lane).data direction =
      some (p.boundary lane direction) := by
  have hsome : (findEyeWidthBoundary p (p.lane lane).data
      direction).isSome := by
    apply isSome_searchBoundary
    intro timing htiming
    have hrange : -p.timingMaxSteps ≤ timing ∧ timing ≤ p.timingMaxSteps := by
      cases direction with
      | right =>
          rw [timingRange, mem_pyRange] at htiming
          omega
      | left =>
          simp only [timingRange, List.mem_map, mem_pyRange] at htiming
          obtain ⟨t, ht, rfl⟩ := htiming
          omega
    rw [hfilled.total _ (mem_points_row hpoints hrange.1 hrange.2)]
    rfl
  obtain ⟨boundary, hboundary⟩ := Option.isSome_iff_exists.mp hsome
  rw [EomPlot.boundary, hboundary]
  rfl

/-- Nothing but the centre of the lane is set. -/
theorem calculateEyeWidthCenter_eq {p : EyePlot R} (h01 : lane = 0 ∨ lane = 1)
    (hfilled : Filled p.toEomPlot lane) (hpoints : p.points ≠ []) :
    ∃ q, calculateEyeWidthCenter p lane = some q ∧
      q.toEomPlot = p.toEomPlot ∧
      q.eyeCenter lane = p.toEomPlot.center lane ∧
      q.singleLaneEomSkipResult = p.singleLaneEomSkipResult ∧
      q.eomPass = p.eomPass ∧ q.shown = p.shown := by
  rw [calculateEyeWidthCenter, guard_bind_pos h01]
  simp only [findEyeWidthBoundary_eq hfilled hpoints, Option.bind_eq_bind,
    Option.bind_some]
  rcases h01 with rfl | rfl
  · exact ⟨_, rfl, rfl, rfl, rfl, rfl, rfl⟩
  · exact ⟨_, rfl, rfl, rfl, rfl, rfl, rfl⟩

/-! `plot_eye` -/

theorem inEyeMask_markPoint (p : EyePlot R) (z : R × R × Int) :
    inEyeMask (markPoint lane p z) = inEyeMask p := by
  rw [markPoint]
  split
  · rfl
  · rfl

/-- A point sets the flags, and keeps them set. -/
theorem markPoint_eq (p : EyePlot R) (z : R × R × Int) :
    markPoint lane p z = { p with
      singleLaneEomPass := p.singleLaneEomPass &&
        !(inEyeMask p z.1 z.2.1 lane && decide (z.2.2 > 0))
      singleLaneEomSkipResult := p.singleLaneEomSkipResult ||
        inEyeMask p z.1 z.2.1 lane && decide (z.2.2 = invalidErrorCount) } := by
  rw [markPoint]
  by_cases hmask : inEyeMask p z.1 z.2.1 lane = true
  · by_cases herrors : z.2.2 > 0
    · by_cases hinvalid : z.2.2 = invalidErrorCount
      · simp [hmask, hinvalid, invalidErrorCount]
      · simp [hmask, herrors, hinvalid]
    · have hvalid : z.2.2 ≠ invalidErrorCount := by
        rw [invalidErrorCount]
        omega
      simp [hmask, herrors, hvalid]
  · simp [hmask]

theorem foldl_markPoint (points : List (R × R × Int)) (p : EyePlot R) :
    points.foldl (markPoint lane) p = { p with
      singleLaneEomPass := p.singleLaneEomPass && points.all fun z =>
        !(inEyeMask p z.1 z.2.1 lane && decide (z.2.2 > 0))
      singleLaneEomSkipResult := p.singleLaneEomSkipResult ||
        points.any fun z => inEyeMask p z.1 z.2.1 lane &&
          decide (z.2.2 = invalidErrorCount) } := by
  induction points generalizing p with
  | nil => simp
  | cons z rest ih =>
      rw [List.foldl_cons, ih, inEyeMask_markPoint, markPoint_eq]
      simp [Bool.and_assoc, Bool.or_assoc]

/-- The points as the loop of `plot_eye` and the table of the counts see
them. -/
theorem zip_places (hfilled : Filled p lane) :
    let timingListAdj := (p.lane lane).timingList.map (adjust 4 · p.timingStep)
    let voltageListAdj :=
      (p.lane lane).voltageList.map (adjust 2 · p.voltageStep)
    timingListAdj.zip (voltageListAdj.zip (p.lane lane).errorCountList) =
      p.points.map fun point => ((p.place point).1, (p.place point).2,
        (p.lane lane).errorCount point) := by
  dsimp only
  rw [hfilled.timing, hfilled.voltage, hfilled.errorCount, List.map_map,
    List.map_map, List.zip_map', List.zip_map']
  rfl

theorem pivot_places (p : EomPlot R) :
    pd.pivot (p.points.map fun point => ((p.place point).1, (p.place point).2,
        (p.lane lane).errorCount point)) = true ↔
      (p.points.map p.place).Nodup := by
  rw [pd.pivot_iff, List.map_map]
  rfl

theorem inEyeMask_place {p : EyePlot R}
    (hcenter : p.eyeCenter lane = p.toEomPlot.center lane) (point : Int × Int) :
    inEyeMask p (p.place point).1 (p.place point).2 lane =
      p.inMask lane point := by
  cases hlane : p.toEomPlot.center lane with
  | none => simp only [inEyeMask, EomPlot.inMask, hcenter, hlane]
  | some center => simp only [inEyeMask, EomPlot.inMask, hcenter, hlane]

/-- What a round of the last loop adds. -/
structure Evaluated (p : EyePlot R) (lane : Int) (q : EyePlot R) : Prop where
  same : q.toEomPlot = p.toEomPlot
  skip : q.singleLaneEomSkipResult =
    (p.singleLaneEomSkipResult || p.laneSkip lane)
  eomPass : q.eomPass = p.eomPass ++ [p.lanePass lane]
  shown : q.shown = p.shown ++
    [(lane, p.laneText lane (p.singleLaneEomSkipResult || p.laneSkip lane))]

theorem plotEye_eq (pd : Pandas R) {p : EyePlot R} (h01 : lane = 0 ∨ lane = 1)
    (hfilled : Filled p.toEomPlot lane)
    (hcenter : p.eyeCenter lane = p.toEomPlot.center lane)
    (hplaces : (p.points.map p.place).Nodup) :
    ∃ q, plotEye pd p lane = some q ∧
      Evaluated p lane { q with
        eomPass := q.eomPass ++ [q.singleLaneEomPass] } := by
  have hrows := zip_places hfilled
  have hmask (point : Int × Int) :
      inEyeMask { p with singleLaneEomPass := true } (p.place point).1
        (p.place point).2 lane = p.inMask lane point :=
    inEyeMask_place hcenter point
  have hpass : (p.points.map fun point => ((p.place point).1,
      (p.place point).2, (p.lane lane).errorCount point)).all (fun z =>
        !(inEyeMask { p with singleLaneEomPass := true } z.1 z.2.1 lane &&
          decide (z.2.2 > 0))) = p.lanePass lane := by
    rw [List.all_map, EomPlot.lanePass]
    apply List.all_congr rfl
    intro point
    simp only [Function.comp_apply, hmask]
  have hskip : (p.points.map fun point => ((p.place point).1,
      (p.place point).2, (p.lane lane).errorCount point)).any (fun z =>
        inEyeMask { p with singleLaneEomPass := true } z.1 z.2.1 lane &&
          decide (z.2.2 = invalidErrorCount)) = p.laneSkip lane := by
    rw [List.any_map, EomPlot.laneSkip]
    apply List.any_congr rfl
    intro point
    simp only [Function.comp_apply, hmask]
  rw [plotEye]
  dsimp only
  rw [guard_bind_pos h01, hrows,
    guard_bind_pos ((pivot_places p.toEomPlot).mpr hplaces), foldl_markPoint,
    hpass, hskip, Bool.true_and]
  refine ⟨_, rfl, rfl, rfl, rfl, ?_⟩
  have htext : eyeText { p with
      singleLaneEomPass := p.lanePass lane
      singleLaneEomSkipResult :=
        p.singleLaneEomSkipResult || p.laneSkip lane } lane =
      p.laneText lane (p.singleLaneEomSkipResult || p.laneSkip lane) := by
    rw [eyeText, EomPlot.laneText, ← hcenter]
    rfl
  rw [htext]

/-! One round of the last loop, and all of them. -/

theorem evaluateLane_eq (pd : Pandas R) {p : EyePlot R}
    (h01 : lane = 0 ∨ lane = 1)
    (hfilled : Filled p.toEomPlot lane) (hplot : Plottable p.toEomPlot) :
    ∃ q, evaluateLane pd p lane = .ok q ∧ Evaluated p lane q := by
  obtain ⟨hpoints, -, hplaces⟩ := hplot
  obtain ⟨p₁, hcalculate, hsame, hcenter, hskip, hpass, hshown⟩ :=
    calculateEyeWidthCenter_eq h01 hfilled hpoints
  rw [← hsame] at hfilled hplaces hcenter
  obtain ⟨p₂, hplot, hevaluated⟩ :=
    plotEye_eq pd h01 hfilled hcenter hplaces
  refine ⟨{ p₂ with eomPass := p₂.eomPass ++ [p₂.singleLaneEomPass] }, ?_, ?_⟩
  · rw [evaluateLane, validateData_eq h01 (hsame ▸ hfilled) hpoints]
    simp only [ne_eq, not_true_eq_false, if_false, hcalculate, Option.bind_some,
      hplot]
  · constructor
    · exact hevaluated.same.trans hsame
    · rw [hevaluated.skip, hskip, hsame]
    · rw [hevaluated.eomPass, hpass, hsame]
    · rw [hevaluated.shown, hshown, hskip, hsame]

/-- A grid that cannot be plotted ends in an exception. -/
theorem plotted_of_evaluateLane {p q : EyePlot R} (h01 : lane = 0 ∨ lane = 1)
    (hfilled : Filled p.toEomPlot lane) (h : evaluateLane pd p lane = .ok q) :
    p.points ≠ [] ∧ (p.points.map p.place).Nodup := by
  rw [evaluateLane] at h
  cases hvalidate : validateData p lane with
  | none => simp [hvalidate] at h
  | some missingDataCount =>
      have hpoints := points_of_validateData hfilled hvalidate
      refine ⟨hpoints, ?_⟩
      obtain ⟨p₁, hcalculate, hsame, -⟩ :=
        calculateEyeWidthCenter_eq h01 hfilled hpoints
      rw [← hsame] at hfilled ⊢
      by_contra hplaces
      have hraised : plotEye pd p₁ lane = none := by
        rw [plotEye]
        dsimp only
        rw [guard_bind_pos h01, zip_places hfilled, guard_bind_neg]
        rwa [pivot_places]
      rw [validateData_eq h01 (hsame ▸ hfilled) hpoints] at h
      simp [hcalculate, hraised] at h

/-- The texts of the lanes from a first value of the skip flag on. -/
def EomPlot.shownFrom (p : EomPlot R) : Bool → List Int → List (Int × EyeText)
  | _, [] => []
  | skip, lane :: rest =>
      (lane, p.laneText lane (skip || p.laneSkip lane)) ::
        p.shownFrom (skip || p.laneSkip lane) rest

theorem foldlM_evaluateLane (pd : Pandas R) {p : EyePlot R} {lanes : List Int}
    (h01 : ∀ lane ∈ lanes, lane = 0 ∨ lane = 1)
    (hfilled : ∀ lane ∈ lanes, Filled p.toEomPlot lane)
    (hplot : Plottable p.toEomPlot) :
    ∃ q, lanes.foldlM (evaluateLane pd) p = .ok q ∧
      q.toEomPlot = p.toEomPlot ∧
      q.eomPass = p.eomPass ++ lanes.map p.lanePass ∧
      q.shown = p.shown ++ p.shownFrom p.singleLaneEomSkipResult lanes := by
  induction lanes generalizing p with
  | nil => exact ⟨p, rfl, rfl, by simp, by simp [EomPlot.shownFrom]⟩
  | cons lane rest ih =>
      rw [List.forall_mem_cons] at h01 hfilled
      obtain ⟨p₁, hround, h₁⟩ :=
        evaluateLane_eq pd h01.1 hfilled.1 hplot
      obtain ⟨q, hrest, hsame, hpass, hshown⟩ := ih (p := p₁) h01.2
        (h₁.same ▸ hfilled.2) (h₁.same ▸ hplot)
      refine ⟨q, ?_, hsame.trans h₁.same, ?_, ?_⟩
      · rw [List.foldlM_cons, hround]
        exact hrest
      · rw [hpass, h₁.eomPass, h₁.same, List.append_assoc]
        rfl
      · rw [hshown, h₁.shown, h₁.skip, h₁.same, List.append_assoc]
        rfl

/-! The lists are made of floats. -/

theorem adjustable_of_filled (hfilled : Filled p lane)
    (h : ∀ point ∈ p.points,
      overflows R point.1 = false ∧ overflows R point.2 = false) :
    (p.lane lane).adjustable R = true := by
  simp only [LanePlot.adjustable, hfilled.timing, hfilled.voltage,
    List.all_eq_true, List.mem_append, List.mem_map, Bool.not_eq_true']
  rintro n (⟨point, hpoint, rfl⟩ | ⟨point, hpoint, rfl⟩)
  · exact (h point hpoint).1
  · exact (h point hpoint).2

theorem floats_of_adjustable (hfilled : Filled p lane)
    (h : (p.lane lane).adjustable R = true) :
    ∀ point ∈ p.points,
      overflows R point.1 = false ∧ overflows R point.2 = false := by
  simp only [LanePlot.adjustable, hfilled.timing, hfilled.voltage,
    List.all_eq_true, List.mem_append, List.mem_map, Bool.not_eq_true'] at h
  intro point hpoint
  exact ⟨h _ (.inl ⟨point, hpoint, rfl⟩), h _ (.inr ⟨point, hpoint, rfl⟩)⟩

/-- A lane without lists has nothing to adjust. -/
theorem adjustable_of_lists {l : LanePlot}
    (h : l.timingList = [] ∧ l.voltageList = []) :
    l.adjustable R = true := by
  simp [LanePlot.adjustable, h]

/-- What is left of `open_file` behind the lists. -/
theorem evaluateFile_of_plottable {text : Text} (h : openFile text = .ok p)
    (hplot : Plottable p) : evaluateFile pd text =
      p.laneList.foldlM (evaluateLane pd) { toEomPlot := p } := by
  have hopened := openedReport_of_ok h
  have hadjust (lane : Int) (h01 : lane = 0 ∨ lane = 1) :
      (p.lane lane).adjustable R = true := by
    by_cases hlane : lane ∈ p.laneList
    · exact adjustable_of_filled (hopened.filled lane hlane) hplot.2.1
    · exact adjustable_of_lists (hopened.unlisted lane h01 hlane)
  have hboth : (p.lane0.adjustable R && p.lane1.adjustable R) = true := by
    rw [Bool.and_eq_true]
    exact ⟨hadjust 0 (.inl rfl), hadjust 1 (.inr rfl)⟩
  rw [evaluateFile, h]
  show (if _ then _ else _) = _
  rw [if_pos hboth]

/-- The verdict on a report that can be plotted. -/
theorem openFileTrue_iff {text : Text} (h : openFile text = .ok p)
    (hplot : Plottable p) : openFileTrue pd text = true ↔
      ∀ lane ∈ p.laneList, p.lanePass lane = true := by
  have hopened := openedReport_of_ok h
  obtain ⟨q, hrun, -, hpass, -⟩ := foldlM_evaluateLane pd
    (p := { toEomPlot := p }) hopened.known hopened.filled hplot
  rw [openFileTrue, evaluateFile_of_plottable h hplot, hrun]
  simp [EyePlot.verdict, hpass]

/-- A file whose lanes were all evaluated can be plotted. -/
theorem plottable_of_evaluateFile {text : Text} {q : EyePlot R}
    (h : openFile text = .ok p) (hevaluate : evaluateFile pd text = .ok q)
    (hlanes : p.laneList ≠ []) : Plottable p := by
  have hopened := openedReport_of_ok h
  obtain ⟨lane, rest, hlist⟩ := List.exists_cons_of_ne_nil hlanes
  have hlane : lane ∈ p.laneList := by simp [hlist]
  have hfilled := hopened.filled lane hlane
  rw [evaluateFile, h] at hevaluate
  change (if _ then _ else _) = _ at hevaluate
  split_ifs at hevaluate with hadjust
  rw [Bool.and_eq_true] at hadjust
  rw [hlist, List.foldlM_cons] at hevaluate
  obtain ⟨p₁, hround, -⟩ := bind_ok_inv hevaluate
  obtain ⟨hpoints, hplaces⟩ :=
    plotted_of_evaluateLane (hopened.known lane hlane) hfilled hround
  refine ⟨hpoints, floats_of_adjustable hfilled ?_, hplaces⟩
  rcases hopened.known lane hlane with rfl | rfl
  · exact hadjust.1
  · exact hadjust.2

theorem openFileTrue_of_not_plottable (pd : Pandas R) {text : Text}
    (h : openFile text = .ok p)
    (hplot : ¬ Plottable p) (hlanes : p.laneList ≠ []) :
    openFileTrue pd text = false := by
  cases hevaluate : evaluateFile pd text with
  | error why => rw [openFileTrue, hevaluate]
  | ok q => exact absurd (plottable_of_evaluateFile h hevaluate hlanes) hplot

/-! Soundness. -/

/-- The centre of the lane is known, and every point in its mask was measured
without an error. -/
structure OpenEye (p : EomPlot R) (lane : Int) : Prop where
  center : p.center lane ≠ none
  measured : ∀ point ∈ p.mask lane,
    (p.lane lane).data (pointKey point.1 point.2) = some 0

/-- The verdict of a report means what it says: the report is not plotted at
all, or some lane fails, or every lane has a centre and no count in its mask is
negative. -/
def VerdictHolds (p : EomPlot R) : Prop :=
  ¬ Plottable p ∨
  (∃ lane ∈ p.laneList, ∃ point ∈ p.mask lane,
    0 < (p.lane lane).errorCount point) ∨
  ∀ lane ∈ p.laneList, p.center lane ≠ none ∧
    ∀ point ∈ p.mask lane, 0 ≤ (p.lane lane).errorCount point

theorem openEye_of_pass (hfilled : Filled p lane)
    (hcenter : p.center lane ≠ none)
    (hnonneg : ∀ point ∈ p.mask lane, 0 ≤ (p.lane lane).errorCount point)
    (hpass : p.lanePass lane = true) : OpenEye p lane := by
  refine ⟨hcenter, ?_⟩
  intro point hpoint
  have hle := lanePass_iff.mp hpass point hpoint
  rw [hfilled.total point hpoint.1, le_antisymm hle (hnonneg point hpoint)]

theorem OpenEye.errorCount {point : Int × Int} (h : OpenEye p lane)
    (hpoint : point ∈ p.mask lane) : (p.lane lane).errorCount point = 0 := by
  rw [LanePlot.errorCount, h.measured point hpoint, Option.getD_some]

/-- For every file: `True` from `open_file` means that the eye of every lane in
the report is open, exactly if the verdict of the report holds. -/
theorem verdict_sound_iff (pd : Pandas R) (text : Text) :
    (openFileTrue pd text = true → ∃ p : EomPlot R, openFile text = .ok p ∧
      ∀ line ∈ readLines text, ∀ lane, laneOf line = some lane →
        OpenEye p lane) ↔
    ∀ p : EomPlot R, openFile text = .ok p → VerdictHolds p := by
  cases hopen : openFile (R := R) text with
  | error why =>
      have hfalse : openFileTrue pd text = false := by
        rw [openFileTrue, evaluateFile, hopen]
        rfl
      simp [hfalse]
  | ok p =>
      have hopened := openedReport_of_ok hopen
      have hlanes : (∀ line ∈ readLines text, ∀ lane, laneOf line = some lane →
          OpenEye p lane) ↔ ∀ lane ∈ p.laneList, OpenEye p lane := by
        constructor
        · intro h lane hlane
          obtain ⟨line, hline, hof⟩ := (hopened.lanes lane).mp hlane
          exact h line hline lane hof
        · intro h line hline lane hof
          exact h lane ((hopened.lanes lane).mpr ⟨line, hline, hof⟩)
      simp only [Except.ok.injEq, exists_eq_left', forall_eq', hlanes]
      by_cases hplot : Plottable p
      · rw [openFileTrue_iff hopen hplot]
        constructor
        · intro hsound
          by_cases hpass : ∀ lane ∈ p.laneList, p.lanePass lane = true
          · refine .inr (.inr ?_)
            intro lane hlane
            have heye := hsound hpass lane hlane
            exact ⟨heye.center,
              fun point hpoint => (heye.errorCount hpoint).ge⟩
          · refine .inr (.inl ?_)
            push Not at hpass
            obtain ⟨lane, hlane, hfail⟩ := hpass
            rw [ne_eq, lanePass_iff] at hfail
            push Not at hfail
            exact ⟨lane, hlane, hfail⟩
        · rintro (hnot | ⟨lane, hlane, point, hpoint, hpos⟩ | hall) hpass
          · exact absurd hplot hnot
          · have hle := lanePass_iff.mp (hpass lane hlane) point hpoint
            omega
          · intro lane hlane
            exact openEye_of_pass (hopened.filled lane hlane)
              (hall lane hlane).1 (hall lane hlane).2 (hpass lane hlane)
      · refine iff_of_true ?_ (.inl hplot)
        intro htrue lane hlane
        have hfalse := openFileTrue_of_not_plottable pd hopen hplot
          (List.ne_nil_of_mem hlane)
        rw [htrue] at hfalse
        contradiction

/-- The table as pandas makes it. -/
def Pandas.table [DecidableEq R] : Pandas R where
  pivot rows := decide (rows.map fun row => (row.1, row.2.1)).Nodup
  pivot_iff _ := decide_eq_true_iff

/-- The table of the program, whose floats are those of Python. -/
def doubleTable : Pandas Double := Pandas.table

/-- One measured point, and that one with errors. -/
def lostCenterReport : Text :=
  lit "- - - - UFS Gear Speed: HS-G5 Rate-B\n" ++
  lit "TimingMaxSteps 1, TimingMaxOffset 20\n" ++
  lit "VoltageMaxSteps 1, VoltageMaxOffset 30\n" ++
  lit "lane: 0 timing: 1 voltage: 1 error count: 7\n"

theorem eyes_of_lostCenterReport
    (h : (match openFile (R := R) lostCenterReport with
      | .ok p => p.center 0
      | .error _ => some 0) = none) :
    ¬ ∃ p : EomPlot R, openFile lostCenterReport = .ok p ∧
      ∀ line ∈ readLines lostCenterReport, ∀ lane,
        laneOf line = some lane → OpenEye p lane := by
  rintro ⟨p, hopen, heyes⟩
  rw [hopen] at h
  exact (heyes (lit "lane: 0 timing: 1 voltage: 1 error count: 7\n")
    (by decide +kernel) 0 (by decide +kernel)).center h

/-- The verdict on it is `True` in exact arithmetic and in that of the program,
although the lane has no centre. -/
theorem lane_without_center_passes :
    (openFileTrue (Pandas.table : Pandas Rat) lostCenterReport = true ∧
      ¬ ∃ p : EomPlot Rat, openFile lostCenterReport = .ok p ∧
        ∀ line ∈ readLines lostCenterReport, ∀ lane,
          laneOf line = some lane → OpenEye p lane) ∧
    openFileTrue doubleTable lostCenterReport = true ∧
      ¬ ∃ p : EomPlot Double, openFile lostCenterReport = .ok p ∧
        ∀ line ∈ readLines lostCenterReport, ∀ lane,
          laneOf line = some lane → OpenEye p lane :=
  ⟨⟨by decide +kernel, eyes_of_lostCenterReport (by decide +kernel)⟩,
    by decide +kernel, eyes_of_lostCenterReport (by decide +kernel)⟩

/-- A report with a count below zero in the mask passes too. -/
example : openFileTrue doubleTable
    (lit "- - - - UFS Gear Speed: HS-G4 Rate-B\n" ++
      lit "TimingMaxSteps 1, TimingMaxOffset 20\n" ++
      lit "VoltageMaxSteps 1, VoltageMaxOffset 30\n" ++
      (gridPoints 1 1).flatMap fun point =>
        eomRecordLine ⟨0, point.1, point.2, -1⟩) = true := by
  decide +kernel

end UfsTools
