/-
The reader of a report, `open_file` of ufs-eom-plot.py, up to the lists that
are plotted.  The floats of the program are the numbers of any format, those of
64 bits as well as exact ones.
-/
import UfsTools.Binary64
import UfsTools.PyText

namespace UfsTools

open CLib PyText NumberFormat

/-- The count of a point without a measurement. -/
def invalidErrorCount : Int := 999

/-- What is kept for one lane. -/
structure LanePlot where
  data : Text → Option Int := fun _ => none
  timingList : List Int := []
  voltageList : List Int := []
  errorCountList : List Int := []

variable {R : Type} [NumberFormat R]

/-- The attributes of the reader. -/
structure EomPlot (R : Type) [NumberFormat R] where
  lane0 : LanePlot := {}
  lane1 : LanePlot := {}
  timingMaxSteps : Int := 0
  timingMaxOffset : Int := 0
  timingStep : R := round 0
  voltageMaxSteps : Int := 0
  voltageMaxOffset : Int := 0
  voltageStep : R := round 0
  laneList : List Int := []
  badDataCount : Nat := 0
  gear : Int := 0
  ufsVersionNo : Text := []
  ufsDeviceMfrName : Text := []
  ufsDeviceMfrId : Text := []
  ufsDeviceSize : Text := []
  ufsGear : Text := []
  side : Text := []

/-- How the reader ends before the lists are made: with an exception that
nothing catches, with `exit`, or with an early return. -/
inductive PlotStop (R : Type) [NumberFormat R] where
  | raised
  | exited
  | returned (p : EomPlot R)

/-- `int` of a word that may have a sign before it and a comma behind. -/
def stringToNumber : Text → Option Int
  | [] => none
  | '-' :: rest => (pyInt (rest.takeWhile (· ≠ ','))).map (- ·)
  | text => pyInt (text.takeWhile (· ≠ ','))

/-! Numbers.  `none` stands for an exception. -/

/-- `float(n)`, which a product of an integer and a float starts with. -/
def pyFloat (n : Int) : Option R :=
  if overflows R n then none else some (round n)

/-- `(timing_max_offset * 0.01) / timing_max_steps` -/
def timingStepOf (maxSteps maxOffset : Int) : Option R := do
  let offset ← pyFloat maxOffset
  let steps ← pyFloat maxSteps
  guard (maxSteps ≠ 0)
  some (div (mul offset (round (1 / 100))) steps)

/-- `(voltage_max_offset * 10) / voltage_max_steps`, of which only the quotient
is rounded. -/
def voltageStepOf (maxSteps maxOffset : Int) : Option R := do
  guard (maxSteps ≠ 0)
  let step : Rat := (maxOffset * 10 : Int) / maxSteps
  if overflows R step then none else some (round step)

/-! Lines of the header. -/

/-- `line_list[i] == w and ...`.  An index beyond the list raises; behind a
comparison that fails none is tried. -/
def wordsMatch (words : List Text) : List (Nat × String) → Option Bool
  | [] => some true
  | (i, w) :: rest => do
      let word ← words[i]?
      if word = lit w then wordsMatch words rest else some false

/-- A line that contains `tag`; `record` is done when the words agree. -/
def readTagged (tag : String) (expected : List (Nat × String))
    (record : List Text → EomPlot R → Option (EomPlot R))
    (line : Text) (words : List Text) (p : EomPlot R) : Option (EomPlot R) :=
  if lit tag <:+: line then do
    let isMatch ← wordsMatch words expected
    if isMatch then record words p else some p
  else some p

/-- `UFS Spec Version:` -/
def readVersion : Text → List Text → EomPlot R → Option (EomPlot R) :=
  readTagged "UFS Spec Version:" [(4, "UFS"), (5, "Spec"), (6, "Version:")]
    fun words p => do
      let version ← words[7]?
      some { p with ufsVersionNo := lit "UFS" ++ version }

/-- `UFS INQUIRY ID:` -/
def readInquiry : Text → List Text → EomPlot R → Option (EomPlot R) :=
  readTagged "UFS INQUIRY ID:" [(4, "UFS"), (5, "INQUIRY"), (6, "ID:")]
    fun words p => do
      let name ← words[7]?
      let id ← words[8]?
      some { p with ufsDeviceMfrName := name, ufsDeviceMfrId := id }

/-- `UFS Total Size:` -/
def readSize : Text → List Text → EomPlot R → Option (EomPlot R) :=
  readTagged "UFS Total Size:" [(4, "UFS"), (5, "Total"), (6, "Size:")]
    fun words p => do
      let size ← words[7]?
      let unit ← words[8]?
      some { p with ufsDeviceSize := size ++ unit }

/-- `UFS Gear Speed:` -/
def readGear : Text → List Text → EomPlot R → Option (EomPlot R) :=
  readTagged "UFS Gear Speed:" [(4, "UFS"), (5, "Gear"), (6, "Speed:")]
    fun words p => do
      let gear ← words[7]?
      let rate ← words[8]?
      some { p with ufsGear := gear ++ lit " " ++ rate }

/-- The line a scan of one side starts with. -/
def readSide : Text → List Text → EomPlot R → Option (EomPlot R) :=
  readTagged "Side Eye Monitor Start"
    [(0, "UFS"), (2, "Side"), (3, "Eye"), (4, "Monitor"), (5, "Start")]
    fun words p => do
      let side ← words[1]?
      some { p with side := side }

/-- The two numbers of a line of capabilities. -/
def readCapabilities (steps offset : String) (words : List Text) :
    Option (Int × Int) := do
  guard ((← words[0]?) = lit steps)
  guard ((← words[2]?) = lit offset)
  let maxSteps ← stringToNumber (← words[1]?)
  let maxOffset ← stringToNumber (← words[3]?)
  some (maxSteps, maxOffset)

/-- A line with the limits of one axis, and the step that follows from them. -/
def readAxis (steps offset : String) (stepOf : Int → Int → Option R)
    (record : Int → Int → R → EomPlot R → EomPlot R)
    (line : Text) (words : List Text) (p : EomPlot R) : Option (EomPlot R) :=
  if lit steps <:+: line ∧ lit offset <:+: line then do
    let (maxSteps, maxOffset) ← readCapabilities steps offset words
    let step ← stepOf maxSteps maxOffset
    some (record maxSteps maxOffset step p)
  else some p

/-- The timing axis. -/
def readTiming : Text → List Text → EomPlot R → Option (EomPlot R) :=
  readAxis "TimingMaxSteps" "TimingMaxOffset" timingStepOf
    fun maxSteps maxOffset step p => { p with
      timingMaxSteps := maxSteps, timingMaxOffset := maxOffset
      timingStep := step }

/-- The voltage axis. -/
def readVoltage : Text → List Text → EomPlot R → Option (EomPlot R) :=
  readAxis "VoltageMaxSteps" "VoltageMaxOffset" voltageStepOf
    fun maxSteps maxOffset step p => { p with
      voltageMaxSteps := maxSteps, voltageMaxOffset := maxOffset
      voltageStep := step }

/-- All that a line may say outside the records. -/
def readHeader (line : Text) (words : List Text) (p : EomPlot R) :
    Option (EomPlot R) := do
  let p ← readTiming line words p
  let p ← readVoltage line words p
  let p ← readVersion line words p
  let p ← readInquiry line words p
  let p ← readSize line words p
  let p ← readGear line words p
  readSide line words p

/-! Records.  The loop over `match_line_list` goes on with its own next item
only and decides nothing. -/

/-- The line is passed over: it is short, or none of five words is the one a
record has. -/
def notRecord (words : List Text) : Bool :=
  words.length ≤ 7 ∨
    words[0]? ≠ some (lit "lane") ∧ words[2]? ≠ some (lit "timing") ∧
    words[4]? ≠ some (lit "voltage") ∧ words[6]? ≠ some (lit "error") ∧
    words[7]? ≠ some (lit "count")

/-- `int(re.search(r'(?<=HS-G)\d+', ufs_gear).group())` -/
def gearOf (ufsGear : Text) : Option Int :=
  (searchAfter (lit "HS-G") isDecimal ufsGear).bind pyInt

/-- The key of a point in the dictionary of its lane. -/
def pointKey (timing voltage : Int) : Text :=
  lit "t#" ++ showInt timing ++ lit "#v#" ++ showInt voltage

/-- A later count of a point takes the place of an earlier one. -/
def LanePlot.record (l : LanePlot) (timing voltage errorCount : Int) :
    LanePlot :=
  { l with data :=
      Function.update l.data (pointKey timing voltage) (some errorCount) }

@[simp]
theorem LanePlot.data_record (l : LanePlot) (timing voltage errorCount : Int) :
    (l.record timing voltage errorCount).data =
      Function.update l.data (pointKey timing voltage) (some errorCount) := rfl

/-- The handler of exceptions counts the line. -/
def EomPlot.badLine (p : EomPlot R) : EomPlot R :=
  { p with badDataCount := p.badDataCount + 1 }

/-- A lane is listed before the rest of its record is looked at. -/
def EomPlot.listLane (p : EomPlot R) (lane : Int) : EomPlot R :=
  { p with laneList :=
      if lane ∈ p.laneList then p.laneList else p.laneList ++ [lane] }

/-- Timing, voltage, error count and gear. -/
def readNumbers (words : List Text) (p : EomPlot R) :
    Option (Int × Int × Int × Int) := do
  let timing ← stringToNumber (← words[3]?)
  let voltage ← stringToNumber (← words[5]?)
  let errorCount ← stringToNumber (← words[8]?)
  let gear ← gearOf p.ufsGear
  some (timing, voltage, errorCount, gear)

/-- A record is kept in its lane; a gear below 4 and a third lane end the
program. -/
def readRecord (words : List Text) (p : EomPlot R) :
    Except (PlotStop R) (EomPlot R) :=
  match words[1]?.bind pyInt with
  | none => .ok p.badLine
  | some lane =>
      let p := p.listLane lane
      match readNumbers words p with
      | none => .ok p.badLine
      | some (timing, voltage, errorCount, gear) =>
          let p := { p with gear := gear }
          if gear < 4 then .error (.returned p)
          else if lane = 0 then
            .ok { p with lane0 := p.lane0.record timing voltage errorCount }
          else if lane = 1 then
            .ok { p with lane1 := p.lane1.record timing voltage errorCount }
          else .error .exited

/-- One round of the loop over the lines. -/
def readLine (p : EomPlot R) (line : Text) : Except (PlotStop R) (EomPlot R) :=
  let words := split line
  match readHeader line words p with
  | none => .error .raised
  | some p => if notRecord words then .ok p else readRecord words p

/-! The lists. -/

/-- `range(lo, hi)` -/
def pyRange (lo hi : Int) : List Int :=
  (List.range (hi - lo).toNat).map fun (i : Nat) => lo + i

/-- The points of a grid, timing by timing. -/
def gridPoints (timingMaxSteps voltageMaxSteps : Int) : List (Int × Int) :=
  (pyRange (-timingMaxSteps) (timingMaxSteps + 1)).flatMap fun timing =>
    (pyRange (-voltageMaxSteps) (voltageMaxSteps + 1)).map fun voltage =>
      (timing, voltage)

/-- A point without a record gets the invalid count. -/
def LanePlot.addPoint (l : LanePlot) (point : Int × Int) : LanePlot :=
  let key := pointKey point.1 point.2
  let errorCount := (l.data key).getD invalidErrorCount
  { data := Function.update l.data key (some errorCount)
    timingList := l.timingList ++ [point.1]
    voltageList := l.voltageList ++ [point.2]
    errorCountList := l.errorCountList ++ [errorCount] }

/-- The grid the header gives. -/
def EomPlot.points (p : EomPlot R) : List (Int × Int) :=
  gridPoints p.timingMaxSteps p.voltageMaxSteps

/-- The loops over the grid for one lane. -/
def fillLane (p : EomPlot R) (lane : Int) : Except (PlotStop R) (EomPlot R) :=
  if lane = 0 then
    .ok { p with lane0 := p.points.foldl LanePlot.addPoint p.lane0 }
  else if lane = 1 then
    .ok { p with lane1 := p.points.foldl LanePlot.addPoint p.lane1 }
  else if p.points = [] then .ok p
  else .error (.returned p)

/-- `open_file` up to the lists. -/
def openFile (text : Text) : Except (PlotStop R) (EomPlot R) := do
  let p ← (readLines text).foldlM readLine {}
  if p.badDataCount ≠ 0 then .error (.returned p)
  else if val p.timingStep = 0 then .error .exited
  else if val p.voltageStep = 0 then .error .exited
  else p.laneList.foldlM fillLane p

end UfsTools
