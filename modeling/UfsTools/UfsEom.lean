/-
`ufs_eom.c`: the eye monitor program.  The goto-driven scan and the clean-up
labels of `main` are kept: a polling loop is a `loop`, a label is the code that
follows the block it closes.
-/
import UfsTools.Query

namespace UfsTools

open CLib Getopt ByteCodec Process

/-- The target test count: what it is if it is not given, and what it may be. -/
def eomTargetTestCountDefault : Int := 0x5D
def eomTargetTestCountMax : Int := 0x7F

/-- `EOM_PHY_ERROR_COUNT_THRESHOLD`: with as many errors a point counts as
tested. -/
def eomPhyErrorCountThreshold : Int := 0x3C

/-- A step in a register: its magnitude and, above it, its direction. -/
def eomStepMask : UInt32 := 0x3F
def eomDirectionShift : UInt32 := 0x6

/-- The file that is written and read to stress the link. -/
def eomTempDataSize : Nat := 4 * 1024 * 1024
def eomTempDataMemAlignSize : Nat := 4096

def eomSupportedMinGear : Int := 4

/-- `EOM_TIMING_VOLTAGE_INIT`, the mark of an end that was not given; it is a
number the option takes. -/
def eomTimingVoltageInit : Int := 0xFF

/-- `STRING_BUFFER_SIZE`, and the three arrays that are filled from the buffer.
-/
def stringBufferSize : Nat := 0x24
def manufacturerNameStringDescSize : Nat := 18
def productNameStringDescSize : Nat := 34
def productRevisionLevelStringDescSize : Nat := 10

/-- The descriptors the names are in, and where the device descriptor says which
they are. -/
def deviceDescriptorIdn : Int := 0x0
def stringDescriptorIdn : Int := 0x5

def manufacturerNameOffset : Nat := 0x14
def productNameOffset : Nat := 0x15
def productRevisionLevelOffset : Nat := 0x2A

/-! Registers. -/
def rxEyemonCapability : Int := 0x00F1
def rxEyemonTimingMaxStepsCapability : Int := 0x00F2
def rxEyemonTimingMaxOffsetCapability : Int := 0x00F3
def rxEyemonVoltageMaxStepsCapability : Int := 0x00F4
def rxEyemonVoltageMaxOffsetCapability : Int := 0x00F5
def rxEyemonEnable : Int := 0x00F6
def rxEyemonTimingSteps : Int := 0x00F7
def rxEyemonVoltageSteps : Int := 0x00F8
def rxEyemonTargetTestCount : Int := 0x00F9
def rxEyemonTestedCount : Int := 0x00FA
def rxEyemonErrorCount : Int := 0x00FB
def rxEyemonStart : Int := 0x00FC
def paPwrmode : Int := 0x1571
def paTxhsadapttype : Int := 0x15D4
def paRxgear : Int := 0x1583
def rxHsrateSeries : Int := 0xA2
def qcomDmeVsUniproState : Int := 0xD000

/-- What the program looks at or writes in these registers. -/
def rxEyemonStartMask : UInt32 := 0x1
def qcomDmeVsUniproStateMask : UInt32 := 0x7
def qcomDmeVsUniproStateLinkUp : UInt32 := 0x2
def paNoAdapt : UInt32 := 0x03
def paHsModeA : Int := 1

/-- `struct eom_result`, a point of the grid with its errors. -/
structure EomResult where
  lane : Int
  timing : Int
  volt : Int
  errorCnt : Int
deriving DecidableEq

/-- `struct EOMData`; `er` has the length that was allocated. -/
structure EOMData where
  timingMaxSteps : Int := 0
  timingMaxOffset : Int := 0
  voltageMaxSteps : Int := 0
  voltageMaxOffset : Int := 0
  dataCnt : Nat := 0
  numLanes : Int := 0
  localPeer : Side := .localSide
  gear : Int := 0
  rate : Int := 0
  er : List EomResult := []
deriving DecidableEq

/-- The static variables, all zero when the program starts. -/
structure EomGlobals where
  eomData : EOMData := {}
  outputPath : Text := []
  devicePath : Text := []
  lane : Int := 0
  voltageLow : Int := 0
  voltageHigh : Int := 0
  timingLeft : Int := 0
  timingRight : Int := 0
  targetTestCount : Int := 0
  eomResultCount : Int := 0
  tmpFd : Int := 0
  bsgFd : Int := 0
  doIo : Bool := false
  verbose : Bool := false
deriving DecidableEq

/-! Options of ufseom. -/

/-- `ufseom_help`, line by line. -/
def ufseomHelpLines : List String :=
  ["",
   "ufseom cli :",
   "",
   "ufseom [-p | --peer | -l | --local] [-D | --data] [-L | --lane " ++
     "<lane no.>] [--voltage-low <low voltage value>] [--voltage-high " ++
     "<high voltage value>] [--timing-left <left timing value>] " ++
     "[--timing-right <right timing value>] [-T | --target <target test " ++
     "count>] [-o | --output <output>] [-d | --device <device>]",
   "",
   "-h : help",
   "--version : UFS EOM version",
   "-p | --peer : peer",
   "-l | --local : local",
   "-D | --data : explicitly do I/O transfer with random data patterns " ++
     "to stress the link while EOM is running",
   "-L | --lane : lane no. 0 or 1, collect EOM data for all connected " ++
     "lanes if not given",
   "--voltage-low : collect EOM data from low voltage to high voltage, " ++
     "if it is not given, it defaults to -voltage_max_steps",
   "--voltage-high : collect EOM data from low voltage to high voltage, " ++
     "if it is not given, it defaults to voltage_max_steps",
   "--timing-left : collect EOM data from left timing to right timing, " ++
     "if it is not given, it defaults to -timing_max_steps",
   "--timing-right : collect EOM data from left timing to right timing, " ++
     "if it is not given, it defaults to timing_max_steps",
   "-t | --target : target test count",
   "-o | --output : path to the folder where the EOM report is saved",
   "-V | --verbose : enable detailed EOM information and logs",
   "-d | --device : path to ufs-bsg device",
   "",
   "Example:",
   "  1. Collect EOM data for local Rx:",
   "  ufseom -l -D -o /data/ -d /dev/ufs-bsg0",
   "  2. Collect EOM data for peer Rx:",
   "  ufseom -p -D -o /data/ -d /dev/ufs-bsg0",
   "  3. Collect EOM data for local Rx with voltage 0 only:",
   "  ufseom -l -D --voltage-low 0 --voltage-high 0 -o /data/ -d " ++
     "/dev/ufs-bsg0",
   "  4. Collect EOM data for local Rx from voltage 0 to 8:",
   "  ufseom -l -D --voltage-low 0 --voltage-high 8 -o /data/ -d " ++
     "/dev/ufs-bsg0",
   "  5. Collect EOM data for local Rx for voltage from 0 to 8 and " ++
     "timing from -1 to 1:",
   "  ufseom -l -D --voltage-low 0 --voltage-high 8 --timing-left -1 " ++
     "--timing-right 1 -o /data/ -d /dev/ufs-bsg0",
   "",
   "Note that to get accurate EOM data, user should disable UFS driver " ++
     "low power mode features,",
   "such as Clock Scaling, Clock Gating, Suspend/Resume and Auto " ++
     "Hibernate. For example:",
   "$ echo 0 > /sys/devices/<path to platform " ++
     "devices>/*.ufshc/clkscale_enable",
   "$ echo 0 > /sys/devices/<path to platform " ++
     "devices>/*.ufshc/clkgate_enable",
   "$ echo 0 > /sys/devices/<path to platform " ++
     "devices>/*.ufshc/auto_hibern8",
   "",
   "In addition, ufseom changes UFS Host and/or UFS device UIC layer " ++
     "execution environments,",
   "although UFS EOM is not supposed to disturb normal I/O traffics, it " ++
     "is recommanded to",
   "reboot the system after use ufseom."]

/-- The text as it is printed. -/
def ufseomHelp : Text :=
  ufseomHelpLines.flatMap fun line => lit line ++ lit "\n"

/-- `ufseom_short_options`, without the `T` of the help text. -/
def ufseomShortOptions : Text := lit "plDL:t:o:d:V"

/-- The range options deliver the numbers 1 to 4, here as digits. -/
def ufseomLongOptions : List LongOption :=
  [⟨lit "peer", false, 'p'⟩, ⟨lit "local", false, 'l'⟩,
   ⟨lit "data", false, 'D'⟩, ⟨lit "lane", true, 'L'⟩,
   ⟨lit "target", true, 't'⟩, ⟨lit "output", true, 'o'⟩,
   ⟨lit "device", true, 'd'⟩, ⟨lit "verbose", false, 'V'⟩,
   ⟨lit "voltage-low", true, '1'⟩, ⟨lit "voltage-high", true, '2'⟩,
   ⟨lit "timing-left", true, '3'⟩, ⟨lit "timing-right", true, '4'⟩]

/-- `get_voltage_timing_value_from_cli`: any `int`, with a sign or without. -/
def getVoltageTimingValueFromCli (optarg : Text) : Option Int :=
  match convertCli optarg with
  | none => none
  | some value => if spuriousZero value optarg then none else some value

def checkOutputPath (path : Text) : Bool :=
  ' ' ∉ path ∧ path.getLast? = some '/'

/-- `init_lane`: a lane that is given is the only one. -/
def initEomLane (optarg : Text) (g : EomGlobals) : Parsed EomGlobals :=
  match getValueFromCli optarg with
  | none => reject "Invalid input for Lane number\n"
  | some l =>
      if l < 0 ∨ l > 1 then reject "Invalid Lane number\n"
      else .ok { g with
        lane := l, eomData := { g.eomData with numLanes := 1 } }

def initTargetTestCount (optarg : Text) (g : EomGlobals) : Parsed EomGlobals :=
  match getValueFromCli optarg with
  | none => reject "Invalid input for target test count\n"
  | some t =>
      if t ≤ 0 ∨ t > eomTargetTestCountMax then
        reject "Invalid target test count\n"
      else .ok { g with targetTestCount := t }

/-- `init_device_path`, which the output path goes through as well. -/
def initEomPath (optarg : Text) (record : Text → EomGlobals) :
    Parsed EomGlobals :=
  match initDevicePath optarg with
  | .error message => .error [prErr message]
  | .ok path => .ok (record path)

/-- A range option that is not a number ends the loop without a message. -/
def initRange (optarg : Text) (record : Int → EomGlobals) :
    Parsed EomGlobals :=
  match getVoltageTimingValueFromCli optarg with
  | none => .error []
  | some value => .ok (record value)

/-- One round of the option loop. -/
def parseOption (g : EomGlobals) (o : Occurrence) : Parsed EomGlobals :=
  match o.option with
  | 'p' => .ok { g with eomData := { g.eomData with localPeer := .peerSide } }
  | 'l' => .ok { g with eomData := { g.eomData with localPeer := .localSide } }
  | 'D' => .ok { g with doIo := true }
  | 'V' => .ok { g with verbose := true }
  | 'L' => initEomLane o.optarg g
  | 'o' => initEomPath o.optarg fun path => { g with outputPath := path }
  | 'd' => initEomPath o.optarg fun path => { g with devicePath := path }
  | 't' => initTargetTestCount o.optarg g
  | '1' => initRange o.optarg fun value => { g with voltageLow := value }
  | '2' => initRange o.optarg fun value => { g with voltageHigh := value }
  | '3' => initRange o.optarg fun value => { g with timingLeft := value }
  | '4' => initRange o.optarg fun value => { g with timingRight := value }
  | _ => reject "I cannot understand, please try 'ufseom -h'.\n"

/-- What is said about the options that get a default. -/
def defaultNotes (g : EomGlobals) : List Note :=
  (if g.lane = init then
    [prErr (lit "Lane no. is not given, collect EOM data for all connected lanes\n")]
  else []) ++
  (if g.targetTestCount = init then
    [prErr (lit "Target test count is not given, use default " ++
      showInt eomTargetTestCountDefault ++ lit "\n")]
  else [])

/-- The defaults themselves. -/
def setDefaults (g : EomGlobals) : EomGlobals :=
  { g with
    lane := if g.lane = init then 0 else g.lane
    eomData := { g.eomData with
      numLanes := if g.lane = init then 2 else g.eomData.numLanes }
    targetTestCount :=
      if g.targetTestCount = init then eomTargetTestCountDefault
      else g.targetTestCount }

/-- The defaults and checks behind the loop.  `local_peer` starts as zero, which
is `LOCAL`. -/
def parseDefaults (g : EomGlobals) : Parsed (EomGlobals × List Note) :=
  if g.eomData.localPeer.code = init then
    reject "Local or peer is not given\n"
  else if g.devicePath = [] then
    .error (defaultNotes g ++ [prErr (lit "Path to bsg device not provided.\n")])
  else if g.outputPath = [] then
    .error (defaultNotes g ++
      [prErr (lit "Path to output folder not provided.\n")])
  else if checkOutputPath g.outputPath then
    .ok (setDefaults g, defaultNotes g)
  else .error (defaultNotes g ++ [prErr (lit "Invalid output path\n")])

/-- `parse_args` of ufseom; a help text ends the program like an error. -/
def parseArgs (argv : List Text) (g : EomGlobals) :
    Parsed (EomGlobals × List Note) :=
  match argv with
  | [] | [_] => reject "Too less args, try 'ufseom -h'\n"
  | _ :: word :: rest =>
      if word = lit "--version" then
        .error [printf (lit "ufseom version 1.0.\n")]
      else if word = lit "-h" then
        .error [printf (ufseomHelp ++ lit "\n")]
      else
        match getoptLong ufseomShortOptions ufseomLongOptions
            (word :: rest) with
        | [] => .error []
        | occurrences => do
            let g ← occurrences.foldlM parseOption g
            parseDefaults g

/-- `init_eom_operation`; the side is not among what it sets. -/
def initEomOperation (g : EomGlobals) : EomGlobals :=
  { g with
    lane := init, targetTestCount := init, tmpFd := init
    voltageLow := eomTimingVoltageInit, voltageHigh := eomTimingVoltageInit
    timingLeft := eomTimingVoltageInit, timingRight := eomTimingVoltageInit
    outputPath := [], devicePath := [] }

/-! Registers, and what a failed access leads to.  The rest of a function that
goes on only after success is the argument `next` or `use`. -/

/-- One `uic_set` of a function with the message of its failure. -/
structure RegisterSet where
  attrSel : UInt32
  mibVal : UInt32
  peer : Side
  failed : String

/-- It goes on as `next` unless the set is refused. -/
def setRegister (s : RegisterSet) (next : Prog EomGlobals Int) :
    Prog EomGlobals Int := do
  let g ← get
  let ret ← uicSet g.bsgFd s.attrSel attrSetNor s.mibVal s.peer
  if ret ≠ 0 then
    note (prErr (lit s.failed))
    pure ret
  else next

/-- Several of them, ending with the first that fails. -/
def setRegisters (sets : List RegisterSet) (next : Prog EomGlobals Int) :
    Prog EomGlobals Int :=
  sets.foldr setRegister next

/-- ufseom takes every negative value of `uic_get` for a failure, on which the
caller ends with `fail`. -/
def readRegister {α : Type} (attrSel : UInt32) (peer : Side)
    (failed : Int → Text) (fail : α) (use : Int → Prog EomGlobals α) :
    Prog EomGlobals α := do
  let g ← get
  let value ← uicGet g.bsgFd attrSel peer
  if value < 0 then
    note (prErr (failed value))
    pure fail
  else use value

/-- The messages of `--verbose`. -/
def verboseNotes (entries : List Text) : Prog EomGlobals Unit := do
  let g ← get
  notes (if g.verbose then entries.map printf else [])

/-! `config_eom` and `eom_scan` -/

/-- One poll of the UniPro state, repeated until it cannot be read or the link
is up. -/
def pollUniproState : Prog EomGlobals (Option Int) := do
  let g ← get
  let ret ← uicGet g.bsgFd (uicArgMibSel qcomDmeVsUniproState (selectTx 0))
    .localSide
  pure (if ret < 0 then some ret
    else if UInt32.ofInt ret &&& qcomDmeVsUniproStateMask =
      qcomDmeVsUniproStateLinkUp then some ret
    else none)

/-- The wait for the link behind the power mode change, which cannot fail. -/
def waitPowerModeChange : Prog EomGlobals Int := do
  let ret ← loop pollUniproState
  notes (if ret < 0 then [.usleep 200000] else [])
  pure success

/-- What `config_eom` writes, in this order. -/
def configSets (peer : Side) (lane : Int) (timing volt : UInt32)
    (targetCount : Int) : List RegisterSet :=
  [⟨uicArgMibSel rxEyemonEnable (selectRx lane), 1, peer,
    "Failed to set RX_EYEMON_Enable\n"⟩,
   ⟨uicArgMibSel rxEyemonTimingSteps (selectRx lane), timing, peer,
    "Failed to set RX_EYEMON_Timing_Steps\n"⟩,
   ⟨uicArgMibSel rxEyemonVoltageSteps (selectRx lane), volt, peer,
    "Failed to set RX_EYEMON_Voltage_Steps\n"⟩,
   ⟨uicArgMibSel rxEyemonTargetTestCount (selectRx lane),
    UInt32.ofInt targetCount, peer,
    "Failed to set RX_EYEMON_Target_Test_Count\n"⟩,
   ⟨uicArgMibSel paTxhsadapttype (selectTx 0), paNoAdapt, .localSide,
    "Failed to set NO_ADAPT\n"⟩,
   ⟨uicArgMibSel paPwrmode (selectTx 0), 0x11, .localSide,
    "Failed to trigger RCT\n"⟩]

def configEom (peer : Side) (lane : Int) (timing volt : UInt32)
    (targetCount : Int) : Prog EomGlobals Int :=
  setRegisters (configSets peer lane timing volt targetCount)
    waitPowerModeChange

/-- Direction bit and magnitude of a step. -/
def eomSteps (x : Int) : UInt32 :=
  if x < 0 then
    (1 <<< eomDirectionShift) ||| (UInt32.ofInt (-x) &&& eomStepMask)
  else (0 <<< eomDirectionShift) ||| (UInt32.ofInt x &&& eomStepMask)

/-- The I/O that keeps the link busy; `false` after a failure. -/
def exerciseLink (peer : Side) : Prog EomGlobals Bool := do
  let g ← get
  if g.doIo then
    let written ← sysCall (.pwrite g.tmpFd eomTempDataSize)
    if written < 0 then
      note (prErr (lit "Failed to write tmp file\n"))
      pure false
    else if peer = .localSide then
      let got ← sysCall (.pread g.tmpFd eomTempDataSize)
      if got < 0 then
        note (prErr (lit "Failed to read tmp file\n"))
        pure false
      else pure true
    else pure true
  else pure true

/-- A result in the place of the next. -/
def EOMData.record (data : EOMData) (result : EomResult) : EOMData :=
  { data with er := data.er.set data.dataCnt result
              dataCnt := data.dataCnt + 1 }

/-- Log a result.  The bound is checked behind the write. -/
def logResult (result : EomResult) : Prog EomGlobals Int := do
  let g ← get
  note (.store g.eomData.dataCnt)
  if g.eomData.er.length ≤ g.eomData.dataCnt then fault
  else
    modify fun g => { g with eomData := g.eomData.record result }
    if g.eomResultCount < g.eomData.dataCnt + 1 then
      note (prErr (lit "The count of data exceeds the maximum " ++
        showInt g.eomResultCount ++ lit " of the device\n"))
      pure error
    else pure success

/-- The registers of one round behind `repeat_eom_scan`. -/
def readEyeMonitor (peer : Side) (lane timing volt targetCount : Int) :
    Prog EomGlobals (Option Int) :=
  readRegister (uicArgMibSel rxEyemonStart (selectRx lane)) peer
    (fun value => lit "Failed to get RX_EYEMON_Start, eom_start = " ++
      showInt value ++ lit "\n") (some error) fun eomStart =>
  -- the eye monitor has not yet stopped
  if UInt32.ofInt eomStart &&& rxEyemonStartMask ≠ 0 then pure none else
  readRegister (uicArgMibSel rxEyemonTestedCount (selectRx lane)) peer
    (fun _ => lit "Failed to get RX_EYEMON_Tested_Count\n")
    (some error) fun testedCount =>
  readRegister (uicArgMibSel rxEyemonErrorCount (selectRx lane)) peer
    (fun _ => lit "Failed to get RX_EYEMON_Error_Count\n")
    (some error) fun errorCount =>
  if testedCount ≥ targetCount ∨ errorCount ≥ eomPhyErrorCountThreshold then do
    verboseNotes [lit "lane: " ++ showInt lane ++ lit " timing: " ++
      showInt timing ++ lit " voltage: " ++ showInt volt ++
      lit " error count: " ++ showInt errorCount ++ lit " [tested_count: " ++
      showInt testedCount ++ lit "]\n"]
    let ret ← logResult ⟨lane, timing, volt, errorCount⟩
    pure (some ret)
  else pure none

/-- What follows `repeat_eom_scan`: the I/O, and a look at the eye monitor. -/
def eomRound (peer : Side) (lane timing volt targetCount : Int) :
    Prog EomGlobals (Option Int) := do
  let exercised ← exerciseLink peer
  if exercised then readEyeMonitor peer lane timing volt targetCount
  else pure (some error)

/-- `eom_scan`: configure one point, and poll until it is tested. -/
def eomScan (peer : Side) (lane timing volt targetCount : Int) :
    Prog EomGlobals Int := do
  let ret ← configEom peer lane (eomSteps timing) (eomSteps volt) targetCount
  if ret ≠ 0 then
    note (prErr (lit "Failed to configure EOM.\n"))
    pure ret
  else loop (eomRound peer lane timing volt targetCount)

/-! The report. -/

/-- The bytes of a string descriptor that are not zero. -/
def parseStringDesc (buf : DescBuf) : Text :=
  (((List.range (byte buf 0).toNat).drop 2).map (byte buf)).filterMap fun b =>
    if b = 0 then none else some (Char.ofNat b.toNat)

/-- Where the loop of `parse_string_desc` stores its characters. -/
def storeStringDesc (buf : DescBuf) : List Nat → Nat → List Note
  | [], _ => []
  | i :: rest, j =>
      if byte buf i = 0 then storeStringDesc buf rest j
      else .storeChar stringBufferSize j :: storeStringDesc buf rest (j + 1)

/-- The stores of `parse_string_desc`; the last is the NUL of its `strcat`. -/
def parseStringDescStores (buf : DescBuf) : List Note :=
  storeStringDesc buf ((List.range (byte buf 0).toNat).drop 2) 0 ++
    [.storeChar stringBufferSize (parseStringDesc buf).length]

/-- `strcpy` to an array of `size` characters. -/
def strcpyStores (size : Nat) (text : Text) : List Note :=
  (List.range (text.length + 1)).map (.storeChar size)

/-- Read one string into an array of `size` characters.  Neither copy checks
its bounds. -/
def readString (index : UInt8) (size : Nat) (failed : String) (buf : DescBuf)
    (use : Text → DescBuf → Prog EomGlobals Int) : Prog EomGlobals Int := do
  let g ← get
  let (ret, buf) ← queryReadDescriptor g.bsgFd stringDescriptorIdn index.toNat
    0 buf (UInt16.ofNat descriptorBufferSize)
  if ret ≠ 0 then
    note (prErr (lit failed))
    pure ret
  else
    let text := parseStringDesc buf
    notes (parseStringDescStores buf)
    if stringBufferSize ≤ text.length then fault
    else
      notes (strcpyStores size text)
      if size ≤ text.length then fault
      else use text buf

/-- `get_device_info`: the three strings of the INQUIRY, by way of one buffer.
-/
def getDeviceInfo (use : Text → Text → Text → Prog EomGlobals Int) :
    Prog EomGlobals Int := do
  let g ← get
  let (ret, descBuf) ← queryReadDescriptor g.bsgFd deviceDescriptorIdn 0 0
    (Vector.replicate _ 0) (UInt16.ofNat descriptorBufferSize)
  if ret ≠ 0 then
    note (prErr (lit "Failed to read Device Descriptor\n"))
    pure ret
  else
    readString (byte descBuf manufacturerNameOffset)
      manufacturerNameStringDescSize
      "Failed to read Manufacturer Name String Descriptor\n" descBuf
      fun mname buf =>
    readString (byte descBuf productNameOffset) productNameStringDescSize
      "Failed to read Product Name String Descriptor\n" buf
      fun pname buf =>
    readString (byte descBuf productRevisionLevelOffset)
      productRevisionLevelStringDescSize
      "Failed to read Product Revision Level String Descriptor\n" buf
      fun pver _ => use mname pname pver

/-- What the report says above its records. -/
def eomReportHeader (mname pname pver : Text) (data : EOMData) : List Text :=
  [lit "UFS " ++ (if data.localPeer = .peerSide then lit "Device"
      else lit "Host") ++ lit " Side Eye Monitor Start\n",
   lit "- - - - UFS INQUIRY ID: " ++ mname ++ lit " " ++ pname ++ lit " " ++
      pver ++ lit "\n",
   lit "- - - - UFS Gear Speed: HS-G" ++ showInt data.gear ++ lit " Rate-" ++
      (if data.rate = paHsModeA then lit "A" else lit "B") ++ lit "\n",
   lit "EOM Capabilities:\n",
   lit "TimingMaxSteps " ++ showInt data.timingMaxSteps ++
      lit " TimingMaxOffset " ++ showInt data.timingMaxOffset ++ lit "\n",
   lit "VoltageMaxSteps " ++ showInt data.voltageMaxSteps ++
      lit " VoltageMaxOffset " ++ showInt data.voltageMaxOffset ++ lit "\n\n"]

/-- The line of one point. -/
def eomRecordLine (e : EomResult) : Text :=
  lit "lane: " ++ showInt e.lane ++ lit " timing: " ++ showInt e.timing ++
    lit " voltage: " ++ showInt e.volt ++ lit " error count: " ++
    showInt e.errorCnt ++ lit "\n"

/-- The report, line by line. -/
def eomReport (mname pname pver : Text) (data : EOMData) : List Text :=
  eomReportHeader mname pname pver data ++
    (data.er.take data.dataCnt).map eomRecordLine

def generateEomReport (eomFile : Text) : Prog EomGlobals Int :=
  getDeviceInfo fun mname pname pver => do
    let g ← get
    let file ← sysCall (.fopen eomFile)
    if file = 0 then
      note (prErr (lit "Failed to create EOM result file " ++ eomFile ++
        lit "\n"))
      pure error
    else
      notes ((eomReport mname pname pver g.eomData).map .fprint)
      note (printf (lit "EOM results saved to " ++ eomFile ++ lit "\n"))
      pure success

/-! `timing_voltage_sanity_check` -/

/-- The ends that carry the mark get what the link can do. -/
def timingVoltageDefaults (g : EomGlobals) : EomGlobals :=
  let fill (value default : Int) :=
    if value = eomTimingVoltageInit then default else value
  { g with
    voltageLow := fill g.voltageLow (-g.eomData.voltageMaxSteps)
    voltageHigh := fill g.voltageHigh g.eomData.voltageMaxSteps
    timingLeft := fill g.timingLeft (-g.eomData.timingMaxSteps)
    timingRight := fill g.timingRight g.eomData.timingMaxSteps }

/-- `x > max || x < -max` -/
def beyond (steps x : Int) : Bool := x > steps ∨ x < -steps

/-- The message about one range. -/
def invalidRange (name : String) (steps : Int) : Text :=
  lit "Invalid " ++ lit name ++ lit " range: hardware limits: [-" ++
    showInt steps ++ lit ", " ++ showInt steps ++ lit "]\n"

/-- The message of the first check that fails. -/
def timingVoltageError (g : EomGlobals) : Option Text :=
  let data := g.eomData
  if beyond data.voltageMaxSteps g.voltageLow ∨
      beyond data.voltageMaxSteps g.voltageHigh then
    some (invalidRange "voltage" data.voltageMaxSteps)
  else if beyond data.timingMaxSteps g.timingLeft ∨
      beyond data.timingMaxSteps g.timingRight then
    some (invalidRange "timing" data.timingMaxSteps)
  else if g.voltageLow > g.voltageHigh then
    some (lit "Voltage high is less than voltage low\n")
  else if g.timingLeft > g.timingRight then
    some (lit "Timing right is less than timing left\n")
  else none

/-- `timing_voltage_sanity_check`: defaults first, and the checks behind them.
-/
def timingVoltageSanityCheck : Prog EomGlobals Int := do
  modify timingVoltageDefaults
  let g ← get
  match timingVoltageError g with
  | some message => do
      note (prErr message)
      pure error
  | none => pure success

/-! The three loops of `main`. -/

/-- The innermost loop: one point. -/
def scanPoint (lane timing volt : Int) : Prog EomGlobals (Option Int) := do
  let g ← get
  let ret ← eomScan g.eomData.localPeer lane timing volt g.targetTestCount
  if ret ≠ 0 then
    note (prErr (lit "Fail to run EOM scan\n"))
    pure (some ret)
  else pure none

/-- The loop over the voltages of a timing. -/
def scanTiming (lane timing : Int) : Prog EomGlobals (Option Int) := do
  let g ← get
  forUpTo intMax g.voltageLow g.voltageHigh (scanPoint lane timing)

/-- What follows the last point of a lane. -/
def disableEyeMonitor (lane : Int) : Prog EomGlobals (Option Int) := do
  let g ← get
  let ret ← uicSet g.bsgFd (uicArgMibSel rxEyemonEnable (selectRx lane))
    attrSetNor 0 g.eomData.localPeer
  if ret ≠ 0 then
    note (prErr (lit "Filed to disable EOM for lane " ++ showInt lane ++
      lit "\n"))
    pure (some ret)
  else pure none

/-- The loop over the timings of a lane. -/
def scanLane (lane : Int) : Prog EomGlobals (Option Int) := do
  let g ← get
  let out ← forUpTo intMax g.timingLeft g.timingRight (scanTiming lane)
  match out with
  | some ret => pure (some ret)
  | none => disableEyeMonitor lane

/-- The loop over the lanes. -/
def scanLanes : Prog EomGlobals (Option Int) := do
  let g ← get
  forCount intMax scanLane g.eomData.numLanes.toNat g.lane

/-- The number of points to measure.  The factors are positive once the ranges
are checked, so an overflow on the way is one of the product. -/
def scanSize (g : EomGlobals) : Int :=
  (g.timingRight - g.timingLeft + 1) * (g.voltageHigh - g.voltageLow + 1) *
    g.eomData.numLanes

/-- `sizeof(struct eom_result)`. -/
def sizeofEomResult : Nat := 16

/-- From the allocation of the results to the label `out`. -/
def scanAndReport (outputFile : Text) : Prog EomGlobals Int := do
  let g ← get
  if intMax < scanSize g then fault
  else
    modify fun g => { g with eomResultCount := scanSize g }
    let er ← sysCall (.malloc ((scanSize g).toNat * sizeofEomResult))
    if er = 0 then
      note (prErr (lit "Failed to allocate memory for eom_result\n"))
      pure error
    else
      modify fun g => { g with eomData := { g.eomData with
        er := List.replicate (scanSize g).toNat ⟨0, 0, 0, 0⟩ } }
      note (printf (lit "Start EOM Scan...\n"))
      let tsStart ← sysCall .clockGettime
      let out ← scanLanes
      match out with
      | some ret => pure ret
      | none => do
          let tsEnd ← sysCall .clockGettime
          note (printf (lit "EOM Scan Finished!\n Time elapsed: " ++
            showInt (tsEnd - tsStart) ++ lit " seconds\n"))
          let ret ← generateEomReport outputFile
          notes (if ret ≠ 0 then
            [prErr (lit "Filed to generate EOM report\n")] else [])
          pure ret

/-- `EOM result file naming rule: local/peer_lane_0/_1_targetestcount.eom` -/
def eomFileName (g : EomGlobals) : Text :=
  (if g.eomData.localPeer = .peerSide then lit "peer" else lit "local") ++
    lit "_lane_" ++
    (if g.eomData.numLanes = 2 then lit "0_1" else showInt g.lane) ++
    lit "_gear_" ++ showInt g.eomData.gear ++ lit "_ttc_" ++
    showInt g.targetTestCount ++ lit ".eom"

/-- A capability of the lane that is measured.  The source stores the value
before it looks at the sign; a negative one is not used again. -/
def readCapability (attr : Int) (name : String)
    (record : EOMData → Int → EOMData) (next : Prog EomGlobals Int) :
    Prog EomGlobals Int := do
  let g ← get
  readRegister (uicArgMibSel attr (selectRx g.lane)) g.eomData.localPeer
    (fun _ => lit "Failed to get " ++ lit name ++ lit "\n") error
    fun value => do
      modify fun g => { g with eomData := record g.eomData value }
      next

/-- Behind the reads: the ranges are filled in and checked, and scanned if they
are valid. -/
def checkAndScan (outputFile : Text) : Prog EomGlobals Int := do
  let g ← get
  let data := g.eomData
  verboseNotes [lit "EOM Capabilities:\n",
    lit "TimingMaxSteps " ++ showInt data.timingMaxSteps ++
      lit " TimingMaxOffset " ++ showInt data.timingMaxOffset ++ lit "\n",
    lit "VoltageMaxSteps " ++ showInt data.voltageMaxSteps ++
      lit " VoltageMaxOffset " ++ showInt data.voltageMaxOffset ++ lit "\n"]
  let ret ← timingVoltageSanityCheck
  if ret ≠ 0 then
    note (prErr (lit "Timing or voltage is invalid\n"))
    pure error
  else
    let g ← get
    verboseNotes [lit "timing_left:" ++ showInt g.timingLeft ++
      lit ", timing_right:" ++ showInt g.timingRight ++
      lit ", voltage_low:" ++ showInt g.voltageLow ++
      lit ", voltage_high:" ++ showInt g.voltageHigh ++ lit "\n"]
    scanAndReport outputFile

/-- From `skip_io_prepare` to the label `out`. -/
def measureEye : Prog EomGlobals Int := do
  let g ← get
  let outputFile := g.outputPath ++ eomFileName g
  readCapability rxEyemonTimingMaxStepsCapability
    "RX_EYEMON_Timing_MAX_Steps_Capability"
    (fun data value => { data with timingMaxSteps := value }) <|
  readCapability rxEyemonTimingMaxOffsetCapability
    "RX_EYEMON_Timing_MAX_Offset_Capability"
    (fun data value => { data with timingMaxOffset := value }) <|
  readCapability rxEyemonVoltageMaxStepsCapability
    "RX_EYEMON_Voltage_MAX_Steps_Capability"
    (fun data value => { data with voltageMaxSteps := value }) <|
  readCapability rxEyemonVoltageMaxOffsetCapability
    "RX_EYEMON_Voltage_MAX_Offset_Capability"
    (fun data value => { data with voltageMaxOffset := value }) <|
  checkAndScan outputFile

/-- `close_tmp`, behind which `main` goes on to `close_bsg`. -/
def closeTmp (ret : Int) : Prog EomGlobals Int := do
  let g ← get
  note (.close g.tmpFd)
  pure ret

/-- Open the file for the I/O, if there is to be any. -/
def prepareIo : Prog EomGlobals Int := do
  let g ← get
  if g.doIo then
    let tmpFile := g.outputPath ++ lit "ufseom_tmp_data"
    let tmpFd ← sysCall (.open tmpFile .rdwrDirectCreat)
    modify fun g => { g with tmpFd := tmpFd }
    if tmpFd < 0 then
      note (prErr (lit "Failed to open file " ++ tmpFile ++ lit " (" ++
        showInt tmpFd ++ lit ")\n"))
      pure error
    else
      let tmpBuf ← sysCall (.memalign eomTempDataMemAlignSize eomTempDataSize)
      if tmpBuf = 0 then
        note (prErr (lit "Failed to allocate memory for I/O\n"))
        closeTmp error
      else
        let ret ← measureEye
        closeTmp ret
  else
    let ret ← measureEye
    closeTmp ret

/-- What `main` checks about the link before it prepares anything. -/
def checkLink : Prog EomGlobals Int := do
  let g ← get
  readRegister (uicArgMibSel rxEyemonCapability (selectRx g.lane))
    g.eomData.localPeer (fun _ => lit "Failed to read RX_EYEMON_Capability\n")
    error fun eomCap =>
  if UInt32.ofInt eomCap &&& 0x1 = 0 then do
    note (prErr (lit "EOM is not supported\n"))
    pure error
  else
  readRegister (uicArgMibSel paRxgear (selectRx 0)) .localSide
    (fun _ => lit "Failed to get current gear from PA_RXGEAR\n")
    error fun curGear => do
  verboseNotes [lit "PA_RxGear: " ++ showInt curGear ++ lit "\n"]
  if curGear < eomSupportedMinGear then
    note (prErr (lit "EOM is not supported at current gear " ++
      showInt curGear ++ lit "\n"))
    pure error
  else
    modify fun g => { g with eomData := { g.eomData with gear := curGear } }
    readRegister (uicArgMibSel rxHsrateSeries (selectRx 0)) .localSide
      (fun _ => lit "Failed to get current rate from RX_HSRATE_Series\n")
      error fun curRate => do
    verboseNotes [lit "RX_HSRATE_Series: " ++ showInt curRate ++ lit "\n"]
    modify fun g => { g with eomData := { g.eomData with rate := curRate } }
    prepareIo

/-- `main` of ufseom. -/
def ufseomMain (argv : List Text) : Prog EomGlobals Int := do
  modify initEomOperation
  let g ← get
  match parseArgs argv g with
  | .error entries => do
      notes entries
      pure error
  | .ok (g, entries) => do
      notes entries
      modify fun _ => g
      let fd ← sysCall (.open g.devicePath .rdwr)
      modify fun g => { g with bsgFd := fd }
      if fd < 0 then
        note (prErr (lit "Filed to open file " ++ g.devicePath ++ lit " (" ++
          showInt fd ++ lit ").\n"))
        pure error
      else
        let ret ← checkLink
        note (.close fd)
        pure ret

end UfsTools
