/-
`ufs-eom.py`: the script that measures the eye from another machine.  It runs
`lsufs` through adb and reads what it prints.
-/
import UfsTools.EomPlot
import UfsTools.UfsEom

namespace UfsTools

open CLib PyText Process

/-! What the script asks for.  A command of `subprocess.run` is one string,
one of `check_output` a list of words. -/

/-- The subprocesses, and the clock. -/
inductive AdbCall where
  | run (command : Text)
  | checkOutput (words : List Text)
  | now

/-- The exit status and output of a command; for `now` the time in
microseconds. -/
structure AdbReply where
  status : Int := 0
  output : Text := []
  clock : Int := 0

/-- What it prints: lines of the report, and messages. -/
inductive ScriptNote where
  | openReport (name : Text)
  | inquiry (mname pname prev : Text)
  | record (e : EomResult)
  | report (text : Text)
  | console (text : Text)

/-- The attributes and global variables.  A number that `uic_get` could not
read is `None`. -/
structure EomScript where
  side : Text := []
  lanes : Int := 0
  startLane : Int := 0
  voltageMax : Option Int := none
  singleVoltage : Bool := false
  targetTestCount : Int := 0
  lsufsPath : Text := []
  devicePath : Text := []
  sideOpt : Text := lit "local"
  timingMaxSteps : Option Int := some 0
  voltageMaxSteps : Option Int := some 0

/-- What `getopt` has found on the command line. -/
structure EomOptions where
  side : Text := []
  lane : Option Int := none
  voltage : Option Int := none
  target : Option Int := none
  lsufsPath : Text := []
  devicePath : Text := []

/-- A script that runs commands and writes its report. -/
abbrev Script := Process.Prog AdbCall AdbReply ScriptNote EomScript
abbrev ScriptMachine := Process.Machine AdbCall AdbReply ScriptNote EomScript

/-! Numbers in the output of a command. -/

/-- `[0-9A-Za-z]` -/
def isAlnum (c : Char) : Bool :=
  ('0' ≤ c ∧ c ≤ '9') ∨ ('A' ≤ c ∧ c ≤ 'Z') ∨ ('a' ≤ c ∧ c ≤ 'z')

/-- `int(text, 16)`, which allows the prefix `0x`. -/
def hexNumber (text : Text) : Option Nat :=
  let body :=
    match text with
    | '0' :: x :: d :: rest => if x = 'x' ∨ x = 'X' then d :: rest else text
    | _ => text
  if body.all fun c => digitVal c < 16 then some (valueOf 16 body) else none

theorem isAlnum_of_mem_showHex {n : Nat} {c : Char} (hc : c ∈ showHex n) :
    isAlnum c = true := by
  obtain ⟨d, hd, rfl⟩ := mem_toDigits (by decide) n c hc
  interval_cases d <;> decide

/-- Hexadecimal digits are read as they stand: none is the `x` of a prefix. -/
theorem hexNumber_digits {digits : Text} (h : ∀ c ∈ digits, digitVal c < 16) :
    hexNumber digits = some (valueOf 16 digits) := by
  have hall : (digits.all fun c => digitVal c < 16) = true := by
    rw [List.all_eq_true]
    exact fun c hc => decide_eq_true (h c hc)
  unfold hexNumber
  split
  · next x d rest =>
      have hx : digitVal x < 16 := h x (by simp)
      have hplain : ¬ (x = 'x' ∨ x = 'X') := by
        rintro (rfl | rfl)
        · exact absurd hx (by decide)
        · exact absurd hx (by decide)
      simp only [if_neg hplain, hall, if_true]
  · simp only [hall, if_true]

/-- Reading a printed numeral gives the number back. -/
theorem hexNumber_showHex (n : Nat) : hexNumber (showHex n) = some n := by
  have hvalue : valueOf 16 (showHex n) = n :=
    valueOf_toDigits (by decide) le_rfl n
  rw [hexNumber_digits, hvalue]
  intro c hc
  obtain ⟨d, hd, rfl⟩ := mem_toDigits (by decide) n c hc
  rwa [digitVal_digitChar hd]

/-- `Offset {hex(offset)} : 0x` -/
def offsetMarker (offset : Nat) : Text :=
  lit "Offset 0x" ++ showHex offset ++ lit " : 0x"

/-- The byte of a descriptor that was printed with its offset. -/
def descriptorByte (offset : Nat) (desc : Text) : Option Nat :=
  (searchAfter (offsetMarker offset) isAlnum desc).bind hexNumber

/-- The value behind ` = 0x`; the outer `none` is a `ValueError`. -/
def registerNumber (output : Text) : Option (Option Nat) :=
  match searchAfter (lit " = 0x") isAlnum output with
  | none => some none
  | some digits => (hexNumber digits).map some

/-! `LsufsCli` -/

/-- The output of a command; the script ends when the command fails. -/
def checkOutput (command : Text) : Script Text := do
  let r ← call (.checkOutput (lit "adb" :: lit "shell" :: split command))
  if r.status ≠ 0 then fault else pure r.output

def LsufsCli.queryDesc (idn index : Nat) : Script Text := do
  let g ← get
  checkOutput (g.lsufsPath ++ lit " query -o 1 -i " ++ Nat.toDigits 10 idn ++
    lit " -I " ++ Nat.toDigits 10 index ++ lit " -s 0 -d " ++ g.devicePath)

/-- The lane option, or nothing where no lane is given. -/
def laneOpt : Option Int → Text
  | none => []
  | some lane => lit "--lane " ++ showInt lane

/-- `side_override` is `local` where it is given. -/
def LsufsCli.uicSet (lane : Option Int) (index value : Nat)
    (selecDirec : String) (sideOverride : Bool) : Script Unit := do
  let g ← get
  let sideOpt := if sideOverride then lit "--local" else g.sideOpt
  let _ ← call (.run (lit "adb shell " ++ g.lsufsPath ++ lit " uic -s 0x" ++
    showHex value ++ lit " " ++ sideOpt ++ lit " " ++ laneOpt lane ++
    lit " -i 0x" ++ showHex index ++ lit " --" ++ lit selecDirec ++
    lit " -d " ++ g.devicePath))

/-- `uic_get`: the number in the output of lsufs, `None` where there is none. -/
def LsufsCli.uicGet (lane : Int) (index : Nat) : Script (Option Nat) := do
  let g ← get
  let output ← checkOutput (g.lsufsPath ++ lit " uic -g " ++ g.sideOpt ++
    lit " " ++ laneOpt lane ++ lit " -i 0x" ++ showHex index ++
    lit " --RX -d " ++ g.devicePath)
  match registerNumber output with
  | none => fault
  | some value => pure value

/-! `EomMisc` -/

/-- One character of a string descriptor; a missing byte and a zero add none.
A surrogate, which could not be printed, raises here. -/
def parseDescChar (desc : Text) (i : Nat) : Option Text :=
  match searchAfter (offsetMarker (2 * i + 3)) isAlnum desc with
  | none => some []
  | some digits =>
      if digits = lit "0" then some []
      else do
        let n ← hexNumber digits
        guard n.isValidChar
        some [Char.ofNat n]

def EomMisc.parseDesc (desc : Text) (length : Nat) : Option Text :=
  ((List.range length).mapM (parseDescChar desc)).map List.flatten

/-- A value whose computation may raise. -/
def orRaise {α : Type} : Option α → Script α
  | none => fault
  | some a => pure a

/-- `get_device_info`: the strings of the INQUIRY, from the printed descriptors.
-/
def EomMisc.getDeviceInfo : Script Unit := do
  let deviceDescriptor ← LsufsCli.queryDesc 0 0
  let nameIndex ← orRaise (descriptorByte 0x14 deviceDescriptor)
  let productIndex ← orRaise (descriptorByte 0x15 deviceDescriptor)
  let revisionIndex ← orRaise (descriptorByte 0x2a deviceDescriptor)
  let desc ← LsufsCli.queryDesc 5 nameIndex
  let manufacturerName ← orRaise (EomMisc.parseDesc desc 8)
  let desc ← LsufsCli.queryDesc 5 productIndex
  let productName ← orRaise (EomMisc.parseDesc desc 16)
  let desc ← LsufsCli.queryDesc 5 revisionIndex
  let productRevision ← orRaise (EomMisc.parseDesc desc 4)
  note (.inquiry manufacturerName productName productRevision)

/-- `{value}` of a number or `None` -/
def showOption : Option Nat → Text
  | none => lit "None"
  | some n => Nat.toDigits 10 n

/-- The lines of `get_eom_caps`. -/
def capsNotes (timingMaxSteps timingMaxOffset voltageMaxSteps
    voltageMaxOffset : Option Nat) : List ScriptNote :=
  [.report (lit "EOM Capabilities:\n"),
    .report (lit "TimingMaxSteps " ++ showOption timingMaxSteps ++
      lit ", TimingMaxOffset " ++ showOption timingMaxOffset ++ lit "\n"),
    .report (lit "VoltageMaxSteps " ++ showOption voltageMaxSteps ++
      lit ", VoltageMaxOffset " ++ showOption voltageMaxOffset ++ lit "\n")]

def EomMisc.getEomCaps (lane : Int) : Script Unit := do
  let timingMaxSteps ← LsufsCli.uicGet lane 0xf2
  modify fun g => { g with timingMaxSteps := timingMaxSteps.map Int.ofNat }
  let timingMaxOffset ← LsufsCli.uicGet lane 0xf3
  let voltageMaxSteps ← LsufsCli.uicGet lane 0xf4
  modify fun g => { g with voltageMaxSteps := voltageMaxSteps.map Int.ofNat }
  let voltageMaxOffset ← LsufsCli.uicGet lane 0xf5
  notes (capsNotes timingMaxSteps timingMaxOffset voltageMaxSteps
    voltageMaxOffset)

/-- The lanes as `range` takes them, and their part of the file name.  A lane
that is too large is reported but measured all the same. -/
def EomMisc.determineLanes : Option Int → Int × Int × Text × List ScriptNote
  | none => (2, 0, lit "0_1", [])
  | some lane =>
      (lane + 1, lane, showInt lane,
        if lane > 1 then [.console (lit "Invalid Lane number\n")] else [])

/-- `none` ends the script with `sys.exit`. -/
def EomMisc.determineVoltage (voltage : Option Int) :
    Script (Option (Option Int × Bool)) := do
  let g ← get
  match voltage with
  | none => pure (some (g.voltageMaxSteps, false))
  | some voltage => do
      let voltageMaxSteps ← orRaise g.voltageMaxSteps
      if |voltage| > voltageMaxSteps then
        note (.console (lit "Invalid input for voltage\n"))
        pure none
      else pure (some (some voltage, true))

/-! `UFSEOM`.  A function that may end the script with `sys.exit` answers
`false` then. -/

/-- A message and `sys.exit`. -/
def exitWith (message : String) : Script Bool := do
  note (.console (lit message))
  pure false

def checkPath (path : Text) : Script Bool := do
  let r ← call (.run (lit "adb shell ls " ++ path))
  if r.status ≠ 0 then
    note (.console (lit "Invalid path: " ++ path ++ lit "!\n"))
    pure false
  else pure true

/-- `eom_prepare` behind its checks. -/
def UFSEOM.openReport (options : EomOptions) (target : Int) : Script Bool := do
  let (lanes, startLane, laneString, messages) :=
    EomMisc.determineLanes options.lane
  notes messages
  modify fun g => { g with
    side := options.side, lanes := lanes, startLane := startLane
    lsufsPath := options.lsufsPath, devicePath := options.devicePath
    sideOpt := lit "--" ++ options.side, targetTestCount := target }
  note (.openReport (options.side ++ lit "_lane_" ++ laneString ++
    lit "_ttc_" ++ showInt target ++ lit ".eom"))
  EomMisc.getDeviceInfo
  EomMisc.getEomCaps startLane
  match ← EomMisc.determineVoltage options.voltage with
  | none => pure false
  | some (voltageMax, singleVoltage) => do
      modify fun g => { g with
        voltageMax := voltageMax, singleVoltage := singleVoltage }
      pure true

/-- `eom_prepare`: the options are checked before anything is asked of the
device. -/
def UFSEOM.eomPrepare (options : EomOptions) : Script Bool := do
  if options.side = [] then exitWith "ERROR: --side not given\n"
  else if options.lsufsPath = [] then
    exitWith "ERROR: --lsufs_path not given\n"
  else if options.devicePath = [] then
    exitWith "ERROR: --device_path not given\n"
  else if !(← checkPath options.lsufsPath) then
    exitWith "ERROR: invalid input for --lsufs_path\n"
  else if !(← checkPath options.devicePath) then
    exitWith "ERROR: invalid input for --device_path\n"
  else if options.side ≠ lit "local" ∧ options.side ≠ lit "peer" then
    exitWith "Invalid input for --side, expecting 'local' or 'peer'\n"
  else
    match options.target with
    | none => UFSEOM.openReport options 0x5D
    | some target =>
        if 0 < target ∧ target ≤ 127 then UFSEOM.openReport options target
        else exitWith "Invalid input for --target, expecting 1 to 127\n"

/-- Bits 5..0 are the distance from the centre, bit 6 the direction. -/
def UFSEOM.calculateConfig (value : Int) : Nat :=
  (if value < 0 then 1 else 0) <<< 6 ||| value.natAbs &&& 0x3f

/-- `config_eom`: the same six sets as those of ufseom. -/
def UFSEOM.configEom (lane : Int) (timingConfig voltageConfig : Nat)
    (targetTestCount : Int) : Script Unit := do
  LsufsCli.uicSet lane 0xf6 0x1 "RX" false
  LsufsCli.uicSet lane 0xf7 timingConfig "RX" false
  LsufsCli.uicSet lane 0xf8 voltageConfig "RX" false
  LsufsCli.uicSet lane 0xf9 targetTestCount.toNat "RX" false
  LsufsCli.uicSet none 0x15d4 0x3 "TX" true
  LsufsCli.uicSet none 0x1571 0x11 "TX" true

/-- One round of the `while True` loop; `none` asks for another. -/
def UFSEOM.scanRound (lane timing voltage targetTestCount : Int) :
    Script (Option Unit) := do
  let eyemonStart ← LsufsCli.uicGet lane 0xfc
  if eyemonStart = some 1 then pure none
  else if eyemonStart = some 0 then
    let testCount ← LsufsCli.uicGet lane 0xfa
    let errCount ← LsufsCli.uicGet lane 0xfb
    match testCount, errCount with
    | some testCount, some errCount =>
        if testCount ≥ targetTestCount ∨ errCount ≥ 60 then
          note (.record ⟨lane, timing, voltage, errCount⟩)
          pure (some ())
        else pure none
    | _, _ =>
        note (.console (lit "Failed to get vaild RX_EYEMON_Tested_Count or RX_EYEMON_Error_Count\n"))
        pure (some ())
  else
    note (.console (lit "Failed to get RX_EYEMON_Start\n"))
    pure (some ())

def UFSEOM.eomScan (lane timing voltage : Int) : Script Unit := do
  let g ← get
  UFSEOM.configEom lane (UFSEOM.calculateConfig timing)
    (UFSEOM.calculateConfig voltage) g.targetTestCount
  loop (UFSEOM.scanRound lane timing voltage g.targetTestCount)

/-- The loops over one lane. -/
def UFSEOM.scanLane (lane : Int) : Script Unit := do
  LsufsCli.uicSet lane 0xf6 0x1 "RX" false
  let g ← get
  let timingMaxSteps ← orRaise g.timingMaxSteps
  let timings := pyRange (-timingMaxSteps) (timingMaxSteps + 1)
  if g.singleVoltage then
    forEach (fun timing => do
      let voltageMax ← orRaise g.voltageMax
      UFSEOM.eomScan lane timing voltageMax) timings
  else
    forEach (fun timing => do
      let voltageMax ← orRaise g.voltageMax
      forEach (UFSEOM.eomScan lane timing)
        (pyRange (-voltageMax) (voltageMax + 1))) timings
  LsufsCli.uicSet lane 0xf6 0x0 "RX" false

/-- `str` of the difference of two times, in microseconds. -/
def showTimedelta (micros : Int) : Text :=
  let days := micros / 86400000000
  let rest := (micros % 86400000000).toNat
  let seconds := rest / 1000000
  let fraction := rest % 1000000
  (if days = 0 then []
  else showInt days ++ (if |days| = 1 then lit " day, " else lit " days, ")) ++
  Nat.toDigits 10 (seconds / 3600) ++ lit ":" ++
  padZero 2 (Nat.toDigits 10 (seconds / 60 % 60)) ++ lit ":" ++
  padZero 2 (Nat.toDigits 10 (seconds % 60)) ++
  (if fraction = 0 then []
  else lit "." ++ padZero 6 (Nat.toDigits 10 fraction))

/-- The first line of the report. -/
def sideNote (side : Text) : ScriptNote :=
  .report (lit "UFS " ++
    (if side = lit "local" then lit "Host" else lit "Device") ++
    lit " Side Eye Monitor Start\n")

/-- The last lines, which the report gets as well. -/
def finishedText (micros : Int) : Text :=
  lit "EOM Scan Finished!\nTime elapsed: " ++ showTimedelta micros ++ lit "\n"

/-- `eom_start`: the lanes, between two looks at the clock. -/
def UFSEOM.eomStart : Script Unit := do
  let start ← call .now
  let g ← get
  note (.console (lit "Start EOM Scan...\n"))
  note (sideNote g.side)
  forEach UFSEOM.scanLane (pyRange g.startLane g.lanes)
  let finish ← call .now
  note (.console (finishedText (finish.clock - start.clock)))
  note (.report (finishedText (finish.clock - start.clock)))

/-- The script behind its option parser; `true` when it has run to its end. -/
def ufsEomPy (options : EomOptions) : Script Bool := do
  if ← UFSEOM.eomPrepare options then
    UFSEOM.eomStart
    pure true
  else pure false

/-! The report. -/

/-- What goes to the report file. -/
def ScriptNote.inReport : ScriptNote → Bool
  | .openReport _ | .console _ => false
  | .inquiry .. | .record _ | .report _ => true

/-- How it stands there. -/
def ScriptNote.written : ScriptNote → Text
  | .inquiry mname pname prev =>
      lit "- - - - UFS INQUIRY ID: " ++ mname ++ lit " " ++ pname ++
        lit " " ++ prev ++ lit "\n"
  | .record e => eomRecordLine e
  | .report text => text
  | _ => []

/-- What a run has written to its report, in order. -/
def entriesOf (m : ScriptMachine) : List ScriptNote :=
  m.trace.filterMap fun
    | .note n => if n.inReport then some n else none
    | _ => none

/-- The text of the report. -/
def reportOf (entries : List ScriptNote) : Text :=
  entries.flatMap ScriptNote.written

/-- The points a run has recorded. -/
def recordsOf (entries : List ScriptNote) : List EomResult :=
  entries.filterMap fun
    | .record e => some e
    | _ => none

end UfsTools
