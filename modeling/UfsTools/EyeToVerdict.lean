/-
From the link to the verdict: what ufs-eom-plot.py says of the report that
ufseom has written, in terms of the eye itself.
-/
import UfsTools.EyeMeasured
import UfsTools.EyeWidth

namespace UfsTools

open CLib Getopt PyText Process NumberFormat

variable {R : Type} [NumberFormat R]

/-! A report and its reader. -/

section Report

variable {mname pname pver : Text} {data : EOMData} {p q : EomPlot R}
  {timingStep voltageStep : R}

/-- What the verdict on a report goes by, apart from its counts. -/
def gridOf (R : Type) [NumberFormat R] (data : EOMData) : EomPlot R where
  timingMaxSteps := data.timingMaxSteps
  timingStep :=
    (timingStepOf data.timingMaxSteps data.timingMaxOffset).getD (round 0)
  voltageMaxSteps := data.voltageMaxSteps
  voltageStep :=
    (voltageStepOf data.voltageMaxSteps data.voltageMaxOffset).getD (round 0)
  gear := data.gear

/-- The reader has the grid of the report and its counts. -/
structure GridRead (data : EOMData) (p : EomPlot R) : Prop where
  timingMaxSteps : p.timingMaxSteps = (gridOf R data).timingMaxSteps
  timingStep : p.timingStep = (gridOf R data).timingStep
  voltageMaxSteps : p.voltageMaxSteps = (gridOf R data).voltageMaxSteps
  voltageStep : p.voltageStep = (gridOf R data).voltageStep
  gear : data.results ≠ [] → p.gear = (gridOf R data).gear
  lanes : ∀ lane, lane ∈ p.laneList ↔ ∃ e ∈ data.results, e.lane = lane
  measured : ∀ e ∈ data.results,
    (p.lane e.lane).errorCount (e.timing, e.volt) = e.errorCnt

/-- The counts along voltage 0. -/
def zeroRow (count : Int × Int → Int) (timing : Int) : Int := count (timing, 0)

/-- There is an interval without errors around the middle of the lane, and
none in the mask around the middle of that interval. -/
def LaneOpen (grid : EomPlot R) (count : Int × Int → Int) : Prop :=
  ∃ left right,
    EyeInterval (zeroRow count) grid.timingMaxSteps left
      right ∧
    ∀ point ∈ grid.points, inDiamond grid (eyeMiddle left right)
      (grid.place point).1 (grid.place point).2 = true → count point = 0

theorem GridRead.points (h : GridRead data p) :
    p.points = (gridOf R data).points := by
  rw [EomPlot.points, EomPlot.points, h.timingMaxSteps, h.voltageMaxSteps]

theorem GridRead.place (h : GridRead data p) :
    p.place = (gridOf R data).place := by
  funext point
  rw [EomPlot.place, EomPlot.place, h.timingStep, h.voltageStep]

theorem GridRead.inDiamond (h : GridRead data p) (hne : data.results ≠ []) :
    inDiamond p = inDiamond (gridOf R data) := by
  have hsum : diamondSum p = diamondSum (gridOf R data) := by
    funext center x y width height
    rw [diamondSum, diamondSum, h.timingStep]
  funext center x y
  rw [UfsTools.inDiamond, UfsTools.inDiamond, h.gear hne, hsum]

/-- Every point of the grid of the lane has a count, and none is the one that
marks a point without. -/
structure LaneCounted (p : EomPlot R) (lane : Int) (count : Int × Int → Int) :
    Prop where
  lane01 : lane = 0 ∨ lane = 1
  steps : 0 ≤ p.timingMaxSteps ∧ 0 ≤ p.voltageMaxSteps
  size : p.timingMaxSteps ≤ intMax
  counted : ∀ point ∈ p.points,
    (p.lane lane).data (pointKey point.1 point.2) = some (count point)
  range : ∀ point ∈ p.points, 0 ≤ count point ∧ count point < invalidErrorCount

variable {lane : Int} {count : Int × Int → Int}

theorem LaneCounted.row (h : LaneCounted p lane count) {timing : Int}
    (hlo : -p.timingMaxSteps ≤ timing) (hhi : timing ≤ p.timingMaxSteps) :
    (timing, 0) ∈ p.points := by
  obtain ⟨-, hvoltage⟩ := h.steps
  rw [mem_points]
  dsimp only
  omega

theorem LaneCounted.rowCounted (h : LaneCounted p lane count) :
    RowCounted (p.lane lane).data (zeroRow count)
        p.timingMaxSteps.toNat ∧
      CountsNonneg (zeroRow count) p.timingMaxSteps.toNat ∧
      ∀ direction, ¬ MissingMet (zeroRow count)
        p.timingMaxSteps.toNat direction := by
  obtain ⟨hsteps, -⟩ := h.steps
  have hin : ∀ direction : EyeDirection, ∀ k ≤ p.timingMaxSteps.toNat,
      (direction.outward k, 0) ∈ p.points := by
    intro direction k hk
    apply h.row
    · cases direction <;> simp only [EyeDirection.outward] <;> omega
    · cases direction <;> simp only [EyeDirection.outward] <;> omega
  refine ⟨?_, ?_, ?_⟩
  · exact fun direction k hk => h.counted _ (hin direction k hk)
  · exact fun direction k hk => (h.range _ (hin direction k hk)).1
  · rintro direction ⟨k, hk, hmissing, -⟩
    have hvalid := (h.range _ (hin direction k (by exact_mod_cast hk))).2
    rw [zeroRow] at hmissing
    rw [hmissing] at hvalid
    exact lt_irrefl _ hvalid

theorem center_eq_centerOf : p.center lane =
    centerOf R (p.boundary lane .left) (p.boundary lane .right) := by
  rw [EomPlot.center]
  cases p.boundary lane .right with
  | none => cases p.boundary lane .left <;> rfl
  | some right => cases p.boundary lane .left <;> rfl

/-- A lane without errors in the middle has its centre in the middle of the
greatest interval without errors. -/
theorem LaneCounted.center (h : LaneCounted p lane count)
    (hmiddle : count (0, 0) = 0) : ∃ left right,
      EyeInterval (zeroRow count) p.timingMaxSteps left
        right ∧
      p.center lane = some (eyeMiddle left right) := by
  obtain ⟨hrow, hcounts, hseen⟩ := h.rowCounted
  have hsteps : p.timingMaxSteps = (p.timingMaxSteps.toNat : Int) :=
    (Int.toNat_of_nonneg h.steps.1).symm
  obtain ⟨m, hm, hright, hmclear, hmend⟩ := findEyeWidthBoundary_of_seen
    hsteps hrow hcounts hmiddle (hseen .right)
  obtain ⟨k, hk, hleft, hkclear, hkend⟩ := findEyeWidthBoundary_of_seen
    hsteps hrow hcounts hmiddle (hseen .left)
  have hinterval := eyeInterval_of_runs hm hk hmclear hkclear
    (by exact_mod_cast hmend) (by exact_mod_cast hkend)
  rw [← hsteps] at hinterval
  refine ⟨_, _, hinterval, ?_⟩
  have hhalf : intHalf R (EyeDirection.right.outward m -
      EyeDirection.left.outward k + 1) =
        (EyeDirection.right.outward m - EyeDirection.left.outward k + 1).tdiv
          2 := by
    apply intHalf_of_small
    have hsize := h.size
    simp only [EyeDirection.outward, intMax] at hsize ⊢
    rw [abs_le]
    omega
  rw [center_eq_centerOf, EomPlot.boundary, EomPlot.boundary, hright, hleft,
    Option.join_some, Option.join_some, centerOf, hhalf]
  rfl

/-- Errors in the middle are in the mask. -/
theorem LaneCounted.center_of_errors (h : LaneCounted p lane count)
    (hmiddle : 0 < count (0, 0)) : p.center lane = some 0 := by
  obtain ⟨hrow, -, -⟩ := h.rowCounted
  have hsteps : p.timingMaxSteps = (p.timingMaxSteps.toNat : Int) :=
    (Int.toNat_of_nonneg h.steps.1).symm
  have hvalid := h.range (0, 0) (h.row (by omega) (by omega))
  have herrors : HasErrors (count (0, 0)) := ⟨hmiddle, hvalid.2.ne⟩
  rw [center_eq_centerOf, EomPlot.boundary, EomPlot.boundary,
    findEyeWidthBoundary_of_errors hsteps hrow herrors,
    findEyeWidthBoundary_of_errors hsteps hrow herrors]
  exact centerOf_middle

theorem val_adjust_zero (digits : Nat) (step : R) :
    val (adjust digits 0 step) = 0 := by
  apply roundTo_zero
  rw [mul, Int.cast_zero, val_zero, zero_mul, val_zero]

/-- The middle of the grid is in every mask around it. -/
theorem inDiamond_middle : inDiamond p 0 (p.place (0, 0)).1
    (p.place (0, 0)).2 = true := by
  have hsum (width height : R) :
      val (diamondSum p 0 (p.place (0, 0)).1 (p.place (0, 0)).2 width
        height) = 0 := by
    simp only [diamondSum, EomPlot.place, add, sub, div, NumberFormat.abs,
      val_adjust_zero, sub_self, val_zero, abs_zero, zero_div, add_zero]
  simp only [inDiamond, hsum]
  split_ifs <;> rfl

/-- The verdict on a lane is about its counts. -/
theorem LaneCounted.lanePass_iff (h : LaneCounted p lane count) :
    p.lanePass lane = true ↔ LaneOpen p count := by
  have herror : ∀ point ∈ p.points,
      (p.lane lane).errorCount point = count point := by
    intro point hpoint
    rw [LanePlot.errorCount, h.counted point hpoint, Option.getD_some]
  have hmiddle : ((0, 0) : Int × Int) ∈ p.points := by
    obtain ⟨hsteps, -⟩ := h.steps
    exact h.row (by omega) hsteps
  rw [UfsTools.lanePass_iff]
  rcases (h.range _ hmiddle).1.eq_or_lt with hzero | hpos
  · obtain ⟨left, right, hinterval, hcenter⟩ := h.center hzero.symm
    have hmask : ∀ point, point ∈ p.mask lane ↔ point ∈ p.points ∧
        inDiamond p (eyeMiddle left right) (p.place point).1
          (p.place point).2 = true := by
      intro point
      rw [EomPlot.mask, Set.mem_ofPred_eq, EomPlot.inMask, hcenter]
    constructor
    · intro hpass
      refine ⟨left, right, hinterval, ?_⟩
      intro point hpoint hin
      have hle := hpass point ((hmask point).mpr ⟨hpoint, hin⟩)
      rw [herror point hpoint] at hle
      exact le_antisymm hle (h.range point hpoint).1
    · rintro ⟨left', right', hinterval', hfree⟩ point hin
      obtain ⟨rfl, rfl⟩ := hinterval.unique hinterval'
      obtain ⟨hpoint, hin⟩ := (hmask point).mp hin
      rw [herror point hpoint]
      exact (hfree point hpoint hin).le
  · apply iff_of_false
    · intro hpass
      have hin : ((0, 0) : Int × Int) ∈ p.mask lane := by
        refine ⟨hmiddle, ?_⟩
        rw [EomPlot.inMask, h.center_of_errors hpos]
        exact inDiamond_middle
      have hle := hpass _ hin
      rw [herror _ hmiddle] at hle
      exact absurd hpos (not_lt.mpr hle)
    · rintro ⟨left, right, hinterval, -⟩
      have hfree := hinterval.free 0 hinterval.middle.1 hinterval.middle.2
      rw [zeroRow] at hfree
      exact hpos.ne' hfree

end Report

/-! The eye of a link. -/

variable {D : Type} {link : EyeLink D} {g : EomGlobals}

end UfsTools
