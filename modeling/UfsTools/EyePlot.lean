/-
The verdict on an eye: what `open_file` of ufs-eom-plot.py does with its lists.
-/
import UfsTools.ReportRoundTrip

namespace UfsTools

open CLib PyText NumberFormat

variable {R : Type} [NumberFormat R]

/-- Eye width in UI and height in mV of the two gears. -/
def tEyeHsG5Rx : R := round (3 / 10)
def tEyeHsG4Rx : R := round (48 / 100)
def vDifAcHsG5Rx : R := round 30
def vDifAcHsG4Rx : R := round 40

/-- `round(n * step, digits)` -/
def adjust (digits : Nat) (n : Int) (step : R) : R :=
  roundTo digits (mul (round n) step)

/-- `int(q)` drops what is behind the point. -/
def truncate (q : Rat) : Int := if 0 ≤ q then ⌊q⌋ else ⌈q⌉

/-- `int(n / 2)`, by way of a float. -/
def intHalf (R : Type) [NumberFormat R] (n : Int) : Int :=
  truncate (val (round (n / 2) : R))

/-- The part of pandas that can raise: `pivot` makes a table only of rows that
have a place of their own each. -/
structure Pandas (R : Type) where
  pivot : List (R × R × Int) → Bool
  pivot_iff : ∀ rows, pivot rows = true ↔
    (rows.map fun row => (row.1, row.2.1)).Nodup

/-- The text in the middle of a plot. -/
inductive EyeText where
  | pass
  | fail
  | blank
deriving DecidableEq

/-- The attributes that are set behind the lists.  The two flags get their
values when the object is made and keep them from one lane to the next. -/
structure EyePlot (R : Type) [NumberFormat R] extends EomPlot R where
  lane0EyeCenter : Option Int := none
  lane1EyeCenter : Option Int := none
  singleLaneEomPass : Bool := true
  singleLaneEomSkipResult : Bool := false
  eomPass : List Bool := []
  shown : List (Int × EyeText) := []

/-- `lane0_eye_center` or `lane1_eye_center` -/
def EyePlot.eyeCenter (p : EyePlot R) (lane : Int) : Option Int :=
  if lane = 0 then p.lane0EyeCenter else p.lane1EyeCenter

/-! `none` stands for an exception from here on. -/

/-- How many points of the grid have no count.  The first and the last element
of a sorted set are its bounds; the last timing is left out. -/
def validateData (p : EyePlot R) (lane : Int) : Option Nat := do
  guard (lane = 0 ∨ lane = 1)
  let l := p.lane lane
  let minTime ← l.timingList.min?
  let maxTime ← l.timingList.max?
  let minVolt ← l.voltageList.min?
  let maxVolt ← l.voltageList.max?
  let points := (pyRange minTime maxTime).flatMap fun time =>
    (pyRange minVolt (maxVolt + 1)).map fun volt => (time, volt)
  some (points.countP fun point => (l.data (pointKey point.1 point.2)).isNone)

/-- The argument `direction` of the search for a boundary. -/
inductive EyeDirection where
  | right
  | left

/-- The timings from the middle outwards. -/
def timingRange (timingMaxSteps : Int) : EyeDirection → List Int
  | .right => pyRange 0 (timingMaxSteps + 1)
  | .left => (pyRange 0 (timingMaxSteps + 1)).map (- ·)

/-- The boundary of an eye that reaches the end of the grid. -/
def boundaryMax (timingMaxSteps : Int) : EyeDirection → Int
  | .right => timingMaxSteps
  | .left => -timingMaxSteps

/-- The last timing before one with errors. -/
def boundaryBefore (timing : Int) : EyeDirection → Int
  | .right => if timing > 0 then timing - 1 else timing
  | .left => if timing < 0 then timing + 1 else timing

/-- The loop of `find_eye_width_boundary`; a point without a measurement ends
it with `None`. -/
def searchBoundary (laneData : Text → Option Int) (direction : EyeDirection)
    (atEnd : Int) : List Int → Option (Option Int)
  | [] => some (some atEnd)
  | timing :: rest => do
      let errorCount ← laneData (pointKey timing 0)
      if errorCount = invalidErrorCount then some none
      else if errorCount > 0 then some (some (boundaryBefore timing direction))
      else searchBoundary laneData direction atEnd rest

/-- Where the eye ends on one side; `None` inside, where that is not known. -/
def findEyeWidthBoundary (p : EomPlot R) (laneData : Text → Option Int)
    (direction : EyeDirection) : Option (Option Int) :=
  searchBoundary laneData direction (boundaryMax p.timingMaxSteps direction)
    (timingRange p.timingMaxSteps direction)

/-- The middle between the boundaries, of two the one on the right. -/
def calculateEyeWidthCenter (p : EyePlot R) (lane : Int) :
    Option (EyePlot R) := do
  guard (lane = 0 ∨ lane = 1)
  let laneData := (p.lane lane).data
  let right ← findEyeWidthBoundary p.toEomPlot laneData .right
  let left ← findEyeWidthBoundary p.toEomPlot laneData .left
  let center :=
    match right, left with
    | some right, some left => some (left + intHalf R (right - left + 1))
    | _, _ => none
  if lane = 0 then some { p with lane0EyeCenter := center }
  else some { p with lane1EyeCenter := center }

/-- The sum that is compared with one. -/
def diamondSum (p : EomPlot R) (eyeCenterStep : Int) (x y width height : R) :
    R :=
  let eyeCenterTimingAdj := adjust 4 eyeCenterStep p.timingStep
  add (div (abs (sub x eyeCenterTimingAdj)) (div width (round 2)))
    (div (abs y) height)

/-- The diamond around a centre. -/
def inDiamond (p : EomPlot R) (eyeCenterStep : Int) (x y : R) : Bool :=
  if p.gear = 5 then
    val (diamondSum p eyeCenterStep x y tEyeHsG5Rx vDifAcHsG5Rx) ≤ 1
  else val (diamondSum p eyeCenterStep x y tEyeHsG4Rx vDifAcHsG4Rx) ≤ 1

/-- No point is in the mask of a lane without a centre. -/
def inEyeMask (p : EyePlot R) (x y : R) (lane : Int) : Bool :=
  match p.eyeCenter lane with
  | none => false
  | some eyeCenterStep => inDiamond p.toEomPlot eyeCenterStep x y

/-- One round of the loop of `plot_eye`. -/
def markPoint (lane : Int) (p : EyePlot R) (point : R × R × Int) : EyePlot R :=
  if inEyeMask p point.1 point.2.1 lane then
    { p with
      singleLaneEomPass :=
        if point.2.2 > 0 then false else p.singleLaneEomPass
      singleLaneEomSkipResult :=
        if point.2.2 = invalidErrorCount then true
        else p.singleLaneEomSkipResult }
  else p

/-- The text `plot_eye` writes. -/
def eyeText (p : EyePlot R) (lane : Int) : EyeText :=
  match p.eyeCenter lane with
  | none => .blank
  | some _ =>
      if p.singleLaneEomSkipResult then .blank
      else if p.singleLaneEomPass then .pass
      else .fail

/-- Of the drawing only what can raise is modelled, the table of the counts. -/
def plotEye (pd : Pandas R) (p : EyePlot R) (lane : Int) :
    Option (EyePlot R) := do
  let p := { p with singleLaneEomPass := true }
  guard (lane = 0 ∨ lane = 1)
  let l := p.lane lane
  let timingListAdj := l.timingList.map (adjust 4 · p.timingStep)
  let voltageListAdj := l.voltageList.map (adjust 2 · p.voltageStep)
  let rows := timingListAdj.zip (voltageListAdj.zip l.errorCountList)
  guard (pd.pivot rows)
  let p := rows.foldl (markPoint lane) p
  some { p with shown := p.shown ++ [(lane, eyeText p lane)] }

/-- One round of the last loop of `open_file`. -/
def evaluateLane (pd : Pandas R) (p : EyePlot R) (lane : Int) :
    Except (PlotStop R) (EyePlot R) :=
  match validateData p lane with
  | none => .error .raised
  | some missingDataCount =>
      if missingDataCount ≠ 0 then .error (.returned p.toEomPlot)
      else
        match (calculateEyeWidthCenter p lane).bind (plotEye pd · lane) with
        | none => .error .raised
        | some p => .ok { p with eomPass := p.eomPass ++ [p.singleLaneEomPass] }

/-- A product with a float starts with `float(n)`, which may raise. -/
def LanePlot.adjustable (R : Type) [NumberFormat R] (l : LanePlot) : Bool :=
  (l.timingList ++ l.voltageList).all fun n => !overflows R n

/-- `open_file` up to its last line.  The lists of both lanes are adjusted
before a lane is looked at. -/
def evaluateFile (pd : Pandas R) (text : Text) :
    Except (PlotStop R) (EyePlot R) := do
  let p ← openFile text
  if p.lane0.adjustable R && p.lane1.adjustable R then
    p.laneList.foldlM (evaluateLane pd) { toEomPlot := p }
  else .error .raised

/-- `all(self.eom_pass)` -/
def EyePlot.verdict (p : EyePlot R) : Bool := p.eomPass.all id

/-- Only `all` answers `True`; every other way out of `open_file` answers
`False` or `None`, or nothing at all. -/
def openFileTrue (pd : Pandas R) (text : Text) : Bool :=
  match evaluateFile pd text with
  | .error _ => false
  | .ok p => p.verdict

end UfsTools
