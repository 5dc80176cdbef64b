/-
The commands that program the eye monitor: ufseom sends them itself,
`ufs-eom.py` writes a command line for `lsufs uic` for each.
-/
import UfsTools.EomEncoding
import UfsTools.EomScript
import UfsTools.LsufsDispatch

namespace UfsTools

open CLib Getopt PyText Process

/-! The commands of a run of ufseom. -/

def isSetCommand (cmd : UicCommand) : Bool :=
  cmd.command = uicCmdDmeSet ∨ cmd.command = uicCmdDmePeerSet

/-- The SET commands that were sent, in order. -/
def setCommandsOf (trace : Trace) : List UicCommand :=
  ((exchangesOf trace).map fun x => uicCommandOf x.1.upiuReq).filter
    isSetCommand

/-! The commands of a run of the script. -/

/-- What `do_uic_set` sends for a record. -/
def doUicSetCommands (op : LsufsOperation) : List UicCommand :=
  setCommandsOf (doUicSet op (powerOn [registerReply 0] ())).machine.trace

/-- What becomes of the words behind `adb shell`. -/
def uicLineCommands (words : List Text) : List UicCommand :=
  match initUicOperation words lsufsOp with
  | .error _ => []
  | .ok (op, _) =>
      if op.uicOp.mode = some .set then doUicSetCommands op else []

def adbCommands : AdbCall → List UicCommand
  | .run command => uicLineCommands ((split command).drop 2)
  | _ => []

def scriptCommandsOf (m : ScriptMachine) : List UicCommand :=
  m.trace.flatMap fun
    | .call request _ => adbCommands request
    | .note _ => []

/-! One command line. -/

def Side.option : Side → Text
  | .localSide => lit "local"
  | .peerSide => lit "peer"

def UicDir.option : UicDir → String
  | .tx => "TX"
  | .rx => "RX"

def laneWords : Option Int → List Text
  | none => []
  | some lane => [lit "--lane", showInt lane]

/-- The words `lsufs` gets for a call of `uic_set`. -/
def uicSetWords (g : EomScript) (side : Side) (lane : Option Int)
    (index value : Nat) (dir : UicDir) : List Text :=
  [g.lsufsPath, lit "uic", lit "-s", lit "0x" ++ showHex value,
      lit "--" ++ side.option] ++ laneWords lane ++
    [lit "-i", lit "0x" ++ showHex index, lit "--" ++ lit dir.option,
      lit "-d", g.devicePath]

theorem setCommandsOf_uicSet {trace : Trace} {attrSel : UInt32}
    {attrSet : UInt8} {mibVal : UInt32} {peer : Side} {r : SysReply}
    (h : exchangesOf trace =
      [(uicRequest (uicSetCommand attrSel attrSet mibVal peer), r)]) :
    setCommandsOf trace = [uicSetCommand attrSel attrSet mibVal peer] := by
  have hset : isSetCommand (uicSetCommand attrSel attrSet mibVal peer) =
      true := by
    cases peer <;> rfl
  rw [setCommandsOf, h, List.map_singleton, uicCommandOf_uicRequest,
    List.filter_singleton, hset]
  rfl

theorem doUicSetCommands_eq (op : LsufsOperation) :
    doUicSetCommands op = [uicSetCommand op.uicOp.attrSel attrSetNor
      op.uicOp.data op.uicOp.side] := by
  apply setCommandsOf_uicSet (r := registerReply 0)
  rw [doUicSet_eq_exchange, powerOn, exchange_run]
  simp [Result.machine, exchangesOf, uicIoctl, sgIoRequest]

/-! What each option stores. -/

theorem setupUicOption_side (op : LsufsOperation) (side : Side) :
    setupUicOption op ⟨if side = .localSide then 'l' else 'p', []⟩ =
      .ok { op with uicOp := { op.uicOp with localPeer := some side } } := by
  cases side <;> rfl

theorem setupUicOption_dir (op : LsufsOperation) (dir : UicDir) :
    setupUicOption op ⟨if dir = .tx then 't' else 'r', []⟩ =
      .ok { op with uicOp := { op.uicOp with dir := some dir } } := by
  cases dir <;> rfl

theorem setupUicOption_id (op : LsufsOperation) {index : Nat}
    (hindex : (index : Int) ≤ intMax) :
    setupUicOption op ⟨'i', lit "0x" ++ showHex index⟩ =
      .ok { op with uicOp := { op.uicOp with attrId := index } } := by
  simp only [setupUicOption, initId, initValue, getValueFromCli_hex hindex]

theorem setupUicOption_lane (op : LsufsOperation) {lane : Int}
    (hlane : lane = 0 ∨ lane = 1) :
    setupUicOption op ⟨'L', showInt lane⟩ =
      .ok { op with uicOp := { op.uicOp with lane := lane } } := by
  have hnumber : getValueFromCli (showInt lane) = some lane := by
    rcases hlane with rfl | rfl <;> decide +kernel
  simp only [setupUicOption, initLane, initValue, hnumber]

theorem setupUicOption_device (op : LsufsOperation) {path : Text}
    (hpath : path ≠ []) (hshort : path.length < devicePathNameSizeMax) :
    setupUicOption op ⟨'d', path⟩ = .ok { op with devicePath := path } := by
  have hinit : initDevicePath path = .ok path := by
    rw [initDevicePath, if_neg hpath, if_neg (by omega)]
  simp only [setupUicOption, initOperationPath, hinit]

/-- A record that lacks at most the lane passes the check. -/
theorem uicOpSanityCheck_given {mode : UicMode} {dir : UicDir} {side : Side}
    {index : Nat} {data : UInt32} {path : Text} (lane : Option Int)
    (hpath : path ≠ []) (hlane : ∀ l ∈ lane, l = 0 ∨ l = 1)
    (hdata : mode = .set → data ≠ UInt32.ofInt init) :
    ∃ entries, uicOpSanityCheck { lsufsOp with
        devicePath := path
        uicOp := ⟨some mode, some dir, some side, lane.getD init, index,
          data⟩ } =
      .ok ({ lsufsOp with
        devicePath := path
        uicOp := ⟨some mode, some dir, some side, lane.getD 0, index,
          data⟩ }, entries) := by
  have hattr : (index : Int) ≠ init := by
    simp only [init]
    omega
  have hgiven : ¬ (some mode = some UicMode.set ∧
      data = UInt32.ofInt init) := by
    rintro ⟨hmode, hinit⟩
    exact hdata (Option.some.inj hmode) hinit
  have hdefault : (if lane.getD init = init then 0 else lane.getD init) =
      lane.getD 0 := by
    cases lane with
    | none => rfl
    | some l =>
        apply if_neg
        rcases hlane l rfl with rfl | rfl <;> decide
  simp only [uicOpSanityCheck, if_neg hpath, if_neg hattr, reduceCtorEq,
    if_false, if_neg hgiven, Option.getD_some, hdefault]
  exact ⟨_, rfl⟩

/-- The record that the words of a `uic_set` are parsed to. -/
def uicSetOperation (g : EomScript) (side : Side) (lane : Option Int)
    (index value : Nat) (dir : UicDir) : LsufsOperation :=
  { lsufsOp with
    devicePath := g.devicePath
    uicOp := ⟨some .set, some dir, some side, lane.getD 0, index,
      UInt32.ofInt value⟩ }

/-- The options behind the lane. -/
theorem getoptLong_uicTail (index : Nat) (dir : UicDir) (device : Text) :
    getoptLong uicShortOptions uicLongOptions
        [lit "-i", lit "0x" ++ showHex index, lit "--" ++ lit dir.option,
          lit "-d", device] =
      [⟨'i', lit "0x" ++ showHex index⟩,
        ⟨if dir = .tx then 't' else 'r', []⟩, ⟨'d', device⟩] := by
  have hid : lookupShort uicShortOptions 'i' = some true := by decide +kernel
  have hdevice : lookupShort uicShortOptions 'd' = some true := by
    decide +kernel
  have hdir : longWord uicLongOptions (lit dir.option) =
      (⟨if dir = .tx then 't' else 'r', []⟩, false) := by
    cases dir <;> decide +kernel
  have hne : lit dir.option ≠ [] := by
    cases dir <;> decide +kernel
  change getoptLong _ _ (['-', 'i'] :: (lit "0x" ++ showHex index) ::
    ('-' :: '-' :: lit dir.option) :: ['-', 'd'] :: device :: []) = _
  rw [getoptLong_short (by decide) hid, getoptLong_long hne hdir,
    getoptLong_short (by decide) hdevice, getoptLong]

theorem getoptLong_uicSetWords {g : EomScript} {side : Side}
    {lane : Option Int} {index value : Nat} {dir : UicDir} :
    getoptLong uicShortOptions uicLongOptions
        (uicSetWords g side lane index value dir).tail =
      ⟨'s', lit "0x" ++ showHex value⟩ ::
        ⟨if side = .localSide then 'l' else 'p', []⟩ ::
        (lane.toList.map fun lane => ⟨'L', showInt lane⟩) ++
        [⟨'i', lit "0x" ++ showHex index⟩,
          ⟨if dir = .tx then 't' else 'r', []⟩, ⟨'d', g.devicePath⟩] := by
  have hset : lookupShort uicShortOptions 's' = some true := by decide +kernel
  have hlane : longWord uicLongOptions (lit "lane") = (⟨'L', []⟩, true) := by
    decide +kernel
  have hside : longWord uicLongOptions side.option =
      (⟨if side = .localSide then 'l' else 'p', []⟩, false) := by
    cases side <;> decide +kernel
  have hne : side.option ≠ [] := by
    cases side <;> decide +kernel
  change getoptLong _ _ (('u' :: ['i', 'c']) :: ['-', 's'] ::
    (lit "0x" ++ showHex value) :: ('-' :: '-' :: side.option) ::
      (laneWords lane ++ _)) = _
  rw [getoptLong_operand (by decide), getoptLong_short (by decide) hset,
    getoptLong_long hne hside]
  cases lane with
  | none =>
      rw [laneWords, List.nil_append, getoptLong_uicTail]
      rfl
  | some lane =>
      change _ :: _ :: getoptLong _ _ (('-' :: '-' :: lit "lane") ::
        showInt lane :: _) = _
      rw [getoptLong_longArg (by decide +kernel) hlane]
      erw [getoptLong_uicTail]
      rfl

/-- What the option parser makes of the words of a `uic_set`. -/
theorem initUicOperation_uicSetWords {g : EomScript} (side : Side)
    {lane : Option Int} {index value : Nat} (dir : UicDir)
    (hlane : ∀ l ∈ lane, l = 0 ∨ l = 1) (hindex : (index : Int) ≤ intMax)
    (hvalue : (value : Int) ≤ intMax) (hdevice : g.devicePath ≠ [])
    (hshort : g.devicePath.length < devicePathNameSizeMax) :
    ∃ entries, initUicOperation (uicSetWords g side lane index value dir)
      lsufsOp = .ok (uicSetOperation g side lane index value dir, entries) := by
  have hs (op : LsufsOperation) :
      setupUicOption op ⟨'s', lit "0x" ++ showHex value⟩ = .ok { op with
        uicOp := { op.uicOp with
          data := UInt32.ofInt value, mode := some .set } } := by
    simp only [setupUicOption, initSetOp, initValue,
      getValueFromCli_hex hvalue]
  have hset : setupUicOperation (uicSetWords g side lane index value dir)
      { lsufsOp with uicOp := {}, devicePath := [] } =
        .ok { lsufsOp with
          devicePath := g.devicePath
          uicOp := ⟨some .set, some dir, some side, lane.getD init, index,
            UInt32.ofInt value⟩ } := by
    rw [setupUicOperation, getoptLong_uicSetWords]
    simp only [List.cons_append]
    rw [optionLoop_cons (hs _), optionLoop_cons (setupUicOption_side _ side)]
    cases lane with
    | none =>
        simp only [Option.toList_none, List.map_nil, List.nil_append]
        rw [optionLoop_cons (setupUicOption_id _ hindex),
          optionLoop_cons (setupUicOption_dir _ dir),
          optionLoop_cons (setupUicOption_device _ hdevice hshort)]
        rfl
    | some l =>
        simp only [Option.toList_some, List.map_singleton,
          List.singleton_append]
        rw [optionLoop_cons (setupUicOption_lane _ (hlane l rfl)),
          optionLoop_cons (setupUicOption_id _ hindex),
          optionLoop_cons (setupUicOption_dir _ dir),
          optionLoop_cons (setupUicOption_device _ hdevice hshort)]
        rfl
  have hdata : UInt32.ofInt value ≠ UInt32.ofInt init := by
    intro h
    have hint : intMax = 2147483647 := rfl
    have hnat := congrArg UInt32.toNat h
    simp only [UInt32.ofInt, init, UInt32.toNat_ofNat'] at hnat
    omega
  simp only [initUicOperation, hset, bind, Except.bind]
  exact uicOpSanityCheck_given lane hdevice hlane fun _ => hdata

/-! The command line of a `uic_set`. -/

/-- The string that `uic_set` runs. -/
def uicSetLine (g : EomScript) (sideOpt : Text) (lane : Option Int)
    (index value : Nat) (dir : UicDir) : Text :=
  lit "adb shell " ++ g.lsufsPath ++ lit " uic -s 0x" ++ showHex value ++
    lit " " ++ sideOpt ++ lit " " ++ laneOpt lane ++ lit " -i 0x" ++
    showHex index ++ lit " --" ++ lit dir.option ++ lit " -d " ++ g.devicePath

theorem isWord_hex (n : Nat) : IsWord (lit "0x" ++ showHex n) := by
  have hdigits : ∀ d < 16, isWhitespace (Nat.digitChar d) = false := by
    decide +kernel
  have hzero : IsWord (lit "0x") := by decide +kernel
  constructor
  · exact List.append_ne_nil_of_left_ne_nil hzero.nonempty _
  · intro c hc
    rcases List.mem_append.mp hc with hc | hc
    · exact hzero.solid c hc
    · obtain ⟨d, hd, rfl⟩ := mem_toDigits (by decide) n c hc
      exact hdigits d hd

theorem split_laneOpt (lane : Option Int) :
    split (laneOpt lane) = laneWords lane := by
  cases lane with
  | none => exact split_nil
  | some lane =>
      have hword : IsWord (lit "--lane") := by decide +kernel
      have htext : laneOpt (some lane) =
          lit "--lane" ++ ' ' :: showInt lane := by
        simp [laneOpt, lit]
      rw [htext, split_append_cons (by decide), split_word hword,
        split_word (isWord_showInt lane)]
      rfl

theorem split_uicSetLine {g : EomScript} {side : Side} {lane : Option Int}
    {index value : Nat} {dir : UicDir} (hlsufs : IsWord g.lsufsPath)
    (hdevice : IsWord g.devicePath) :
    (split (uicSetLine g (lit "--" ++ side.option) lane index value
      dir)).drop 2 = uicSetWords g side lane index value dir := by
  have hblank : isWhitespace ' ' = true := by decide
  have hadb : IsWord (lit "adb") := by decide +kernel
  have hshell : IsWord (lit "shell") := by decide +kernel
  have huic : IsWord (lit "uic") := by decide +kernel
  have hs : IsWord (lit "-s") := by decide +kernel
  have hi : IsWord (lit "-i") := by decide +kernel
  have hd : IsWord (lit "-d") := by decide +kernel
  have hside : IsWord (lit "--" ++ side.option) := by
    cases side <;> decide +kernel
  have hdir : IsWord (lit "--" ++ lit dir.option) := by
    cases dir <;> decide +kernel
  have htext : uicSetLine g (lit "--" ++ side.option) lane index value dir =
      lit "adb" ++ ' ' :: (lit "shell" ++ ' ' :: (g.lsufsPath ++
        ' ' :: (lit "uic" ++ ' ' :: (lit "-s" ++ ' ' ::
        ((lit "0x" ++ showHex value) ++ ' ' :: ((lit "--" ++ side.option) ++
        ' ' :: (laneOpt lane ++ ' ' :: (lit "-i" ++ ' ' ::
        ((lit "0x" ++ showHex index) ++ ' ' :: ((lit "--" ++ lit dir.option) ++
        ' ' :: (lit "-d" ++ ' ' :: g.devicePath))))))))))) := by
    simp [uicSetLine, lit]
  rw [htext]
  simp only [split_append_cons hblank, split_word, split_laneOpt, hadb, hshell,
    huic, hs, hi, hd, hside, hdir, hlsufs, hdevice, isWord_hex]
  simp [uicSetWords]

/-! What a run of the script has sent. -/

/-- Paths that survive the command line and the option parser. -/
structure PathsGiven (g : EomScript) : Prop where
  lsufs : IsWord g.lsufsPath
  device : IsWord g.devicePath
  short : g.devicePath.length < devicePathNameSizeMax

/-- The command of a `uic_set`; without a lane it is for Tx lane 0. -/
def scriptCommand (side : Side) (lane : Option Int) (index value : Nat)
    (dir : UicDir) : UicCommand :=
  uicSetCommand (uicArgMibSel index (if dir = .tx then selectTx (lane.getD 0)
    else selectRx (lane.getD 0))) attrSetNor (UInt32.ofInt value) side

theorem adbCommands_uicSetLine {g : EomScript} (side : Side)
    {lane : Option Int} {index value : Nat} (dir : UicDir)
    (hlane : ∀ l ∈ lane, l = 0 ∨ l = 1) (hindex : (index : Int) ≤ intMax)
    (hvalue : (value : Int) ≤ intMax) (hpaths : PathsGiven g) :
    adbCommands (.run (uicSetLine g (lit "--" ++ side.option) lane index value
      dir)) = [scriptCommand side lane index value dir] := by
  obtain ⟨entries, hinit⟩ := initUicOperation_uicSetWords side dir
    hlane hindex hvalue hpaths.device.nonempty hpaths.short
  rw [adbCommands, split_uicSetLine hpaths.lsufs hpaths.device,
    uicLineCommands, hinit]
  have hmode : (uicSetOperation g side lane index value dir).uicOp.mode =
      some .set := rfl
  dsimp only
  rw [if_pos hmode, doUicSetCommands_eq]
  cases side <;> cases dir <;> rfl

theorem scriptCommandsOf_call (rest : List AdbReply)
    (trace : List (Process.Event AdbCall AdbReply ScriptNote)) (c : AdbCall)
    (r : AdbReply) (mem : EomScript) (m : ScriptMachine)
    (htrace : trace = m.trace) :
    scriptCommandsOf ⟨rest, trace ++ [.call c r], mem⟩ =
      scriptCommandsOf m ++ adbCommands c := by
  simp [scriptCommandsOf, htrace]

variable {m : ScriptMachine} {E : Halt → ScriptMachine → Prop}

/-- The commands a stretch of the script has sent. -/
structure Sends (m m' : ScriptMachine) (commands : List UicCommand) : Prop where
  mem : m'.mem = m.mem
  commands : scriptCommandsOf m' = scriptCommandsOf m ++ commands

theorem Sends.trans {m m' m'' : ScriptMachine}
    {commands commands' : List UicCommand} (hleft : Sends m m' commands)
    (hright : Sends m' m'' commands') :
    Sends m m'' (commands ++ commands') := by
  constructor
  · exact hright.mem.trans hleft.mem
  · rw [hright.commands, hleft.commands, List.append_assoc]

theorem wp_uicSet_sends (side : Side) {lane : Option Int} {index value : Nat}
    (dir : UicDir) (sideOverride : Bool) {Q : Unit → ScriptMachine → Prop}
    (hside : (if sideOverride then lit "--local" else m.mem.sideOpt) =
      lit "--" ++ side.option)
    (hlane : ∀ l ∈ lane, l = 0 ∨ l = 1) (hindex : (index : Int) ≤ intMax)
    (hvalue : (value : Int) ≤ intMax) (hpaths : PathsGiven m.mem)
    (hwait : E .waiting m)
    (hdone : ∀ m', Sends m m' [scriptCommand side lane index value dir] →
      Q () m') :
    wp (LsufsCli.uicSet lane index value dir.option sideOverride) Q E m := by
  rw [LsufsCli.uicSet, wp_bind, wp_get, wp_bind]
  apply wp_call
  · exact fun _ => hwait
  · intro r rest _
    rw [wp_pure]
    apply hdone
    constructor
    · rfl
    · have hline := adbCommands_uicSetLine side dir hlane hindex
        hvalue hpaths
      rw [uicSetLine, ← hside] at hline
      rw [scriptCommandsOf_call _ _ _ _ _ m rfl, hline]

/-! The two encodings of a step. -/

theorem stepWord : ∀ r < 64,
    UInt32.ofInt ((0 <<< 6 ||| r : Nat) : Int) =
        (0 <<< eomDirectionShift) ||| UInt32.ofNat r ∧
      UInt32.ofInt ((1 <<< 6 ||| r : Nat) : Int) =
        (1 <<< eomDirectionShift) ||| UInt32.ofNat r ∧
      (1 <<< 6 ||| r : Nat) ≤ 127 ∧ (0 <<< 6 ||| r : Nat) ≤ 127 := by
  decide +kernel

theorem natAbs_and_mask (x : Int) : x.natAbs &&& 0x3f = x.natAbs % 64 :=
  Nat.and_two_pow_sub_one_eq_mod x.natAbs 6

theorem calculateConfig_le (x : Int) : UFSEOM.calculateConfig x ≤ 127 := by
  have hword := stepWord (x.natAbs % 64) (by omega)
  rw [UFSEOM.calculateConfig, natAbs_and_mask]
  split_ifs
  · exact hword.2.2.1
  · exact hword.2.2.2

/-- Both tools write the same word for a step. -/
theorem ofInt_calculateConfig (x : Int) :
    UInt32.ofInt (UFSEOM.calculateConfig x) = eomSteps x := by
  have hword := stepWord (x.natAbs % 64) (by omega)
  rw [UFSEOM.calculateConfig, natAbs_and_mask, eomSteps]
  split_ifs with hneg
  · have hmod : (-x % 64).toNat = x.natAbs % 64 := by omega
    rw [ofInt_and_stepMask, hmod, hword.2.1]
  · have hmod : (x % 64).toNat = x.natAbs % 64 := by omega
    rw [ofInt_and_stepMask, hmod, hword.1]

/-! The two sequences. -/

/-- The six commands of `config_eom` of ufseom. -/
def configCommands (side : Side) (lane timing volt targetCount : Int) :
    List UicCommand :=
  (configSets side lane (eomSteps timing) (eomSteps volt) targetCount).map
    RegisterSet.command

theorem configCommands_eq {side : Side} {lane timing volt targetCount : Int}
    (htarget : 0 ≤ targetCount) :
    configCommands side lane timing volt targetCount =
      [scriptCommand side lane 0xf6 0x1 .rx,
        scriptCommand side lane 0xf7 (UFSEOM.calculateConfig timing) .rx,
        scriptCommand side lane 0xf8 (UFSEOM.calculateConfig volt) .rx,
        scriptCommand side lane 0xf9 targetCount.toNat .rx,
        scriptCommand .localSide none 0x15d4 0x3 .tx,
        scriptCommand .localSide none 0x1571 0x11 .tx] := by
  have hcount : ((targetCount.toNat : Nat) : Int) = targetCount := by omega
  simp only [scriptCommand, ofInt_calculateConfig, hcount]
  rfl

/-- A set for the lane that is measured. -/
theorem wp_uicSet_lane {side : Side} {lane : Int} {index value : Nat}
    {Q : Unit → ScriptMachine → Prop}
    (hside : m.mem.sideOpt = lit "--" ++ side.option)
    (hlane : lane = 0 ∨ lane = 1) (hpaths : PathsGiven m.mem)
    (hindex : index ≤ 0xFFFF) (hvalue : value ≤ 0xFFFF)
    (hwait : E .waiting m)
    (hdone : ∀ m', Sends m m' [scriptCommand side lane index value .rx] →
      Q () m') :
    wp (LsufsCli.uicSet lane index value "RX" false) Q E m := by
  have hint : intMax = 2147483647 := rfl
  apply wp_uicSet_sends side .rx false hside _ (by omega) (by omega) hpaths
    hwait hdone
  rintro l ⟨⟩
  exact hlane

/-- A set on the local side for no lane in particular. -/
theorem wp_uicSet_local {index value : Nat} {Q : Unit → ScriptMachine → Prop}
    (hpaths : PathsGiven m.mem) (hindex : index ≤ 0xFFFF)
    (hvalue : value ≤ 0xFFFF) (hwait : E .waiting m)
    (hdone : ∀ m', Sends m m'
      [scriptCommand .localSide none index value .tx] → Q () m') :
    wp (LsufsCli.uicSet none index value "TX" true) Q E m := by
  have hint : intMax = 2147483647 := rfl
  exact wp_uicSet_sends .localSide .tx true rfl nofun (by omega) (by omega)
    hpaths hwait hdone

/-- The script sends them whatever its commands return. -/
theorem wp_scriptConfigEom {side : Side} {lane timing volt targetCount : Int}
    (hside : m.mem.sideOpt = lit "--" ++ side.option)
    (hlane : lane = 0 ∨ lane = 1) (htarget : 1 ≤ targetCount)
    (hmax : targetCount ≤ 127) (hpaths : PathsGiven m.mem) :
    wp (UFSEOM.configEom lane (UFSEOM.calculateConfig timing)
        (UFSEOM.calculateConfig volt) targetCount)
      (fun _ m' => scriptCommandsOf m' = scriptCommandsOf m ++
        configCommands side lane timing volt targetCount)
      (fun why _ => why = .waiting) m := by
  have htiming := calculateConfig_le timing
  have hvolt := calculateConfig_le volt
  have hset : ∀ m₁ commands, Sends m m₁ commands → ∀ index value,
      index ≤ 0xFFFF → value ≤ 0xFFFF → ∀ Q : Unit → ScriptMachine → Prop,
      (∀ m', Sends m m'
        (commands ++ [scriptCommand side lane index value .rx]) → Q () m') →
      wp (LsufsCli.uicSet lane index value "RX" false) Q
        (fun why _ => why = .waiting) m₁ := by
    intro m₁ commands hm₁ index value hindex hvalue Q hdone
    apply wp_uicSet_lane (hm₁.mem ▸ hside) hlane (hm₁.mem ▸ hpaths) hindex
      hvalue rfl
    exact fun m' hm' => hdone m' (hm₁.trans hm')
  have hlocal : ∀ m₁ commands, Sends m m₁ commands → ∀ index value,
      index ≤ 0xFFFF → value ≤ 0xFFFF → ∀ Q : Unit → ScriptMachine → Prop,
      (∀ m', Sends m m'
        (commands ++ [scriptCommand .localSide none index value .tx]) →
        Q () m') →
      wp (LsufsCli.uicSet none index value "TX" true) Q
        (fun why _ => why = .waiting) m₁ := by
    intro m₁ commands hm₁ index value hindex hvalue Q hdone
    apply wp_uicSet_local (hm₁.mem ▸ hpaths) hindex hvalue rfl
    exact fun m' hm' => hdone m' (hm₁.trans hm')
  have hstart : Sends m m [] := ⟨rfl, (List.append_nil _).symm⟩
  rw [configCommands_eq (by omega), UFSEOM.configEom, wp_bind]
  apply hset m [] hstart 0xf6 0x1 (by omega) (by omega)
  intro m₁ hm₁
  rw [wp_bind]
  apply hset m₁ _ hm₁ 0xf7 _ (by omega) (by omega)
  intro m₂ hm₂
  rw [wp_bind]
  apply hset m₂ _ hm₂ 0xf8 _ (by omega) (by omega)
  intro m₃ hm₃
  rw [wp_bind]
  apply hset m₃ _ hm₃ 0xf9 _ (by omega) (by omega)
  intro m₄ hm₄
  rw [wp_bind]
  apply hlocal m₄ _ hm₄ 0x15d4 0x3 (by omega) (by omega)
  intro m₅ hm₅
  apply hlocal m₅ _ hm₅ 0x1571 0x11 (by omega) (by omega)
  exact fun m₆ hm₆ => hm₆.commands

/-! ufseom. -/

theorem AllPolls.filter_set {h : History} (hpolls : AllPolls h) :
    (h.map Prod.fst).filter isSetCommand = [] := by
  rw [List.filter_eq_nil_iff]
  intro cmd hcmd
  obtain ⟨x, hx, rfl⟩ := List.mem_map.mp hcmd
  rw [hpolls x hx]
  decide

theorem isSetCommand_configCommands (side : Side)
    (lane timing volt targetCount : Int) :
    (configCommands side lane timing volt targetCount).filter isSetCommand =
      configCommands side lane timing volt targetCount := by
  rw [List.filter_eq_self]
  intro cmd hcmd
  obtain ⟨s, -, rfl⟩ := List.mem_map.mp hcmd
  rw [RegisterSet.command]
  cases s.peer <;> rfl

theorem Talks.setCommandsOf {m m' : Machine EomGlobals} {h : History}
    (ht : Talks m m' h) : setCommandsOf m'.trace =
      setCommandsOf m.trace ++ (h.map Prod.fst).filter isSetCommand := by
  have hcommands : (requestsOf h).map (fun x => uicCommandOf x.1.upiuReq) =
      h.map Prod.fst := by
    simp [requestsOf, Function.comp_def]
  rw [UfsTools.setCommandsOf, ht.history, List.map_append, hcommands,
    List.filter_append, UfsTools.setCommandsOf]

theorem wp_configEom_commands {side : Side}
    {lane timing volt targetCount : Int} {m : Machine EomGlobals} :
    wp (configEom side lane (eomSteps timing) (eomSteps volt) targetCount)
      (fun ret m' => ret = success → setCommandsOf m'.trace =
        setCommandsOf m.trace ++
          configCommands side lane timing volt targetCount)
      (fun why _ => why = .waiting) m := by
  apply wp_configEom
  · intro sets polls m' ht hall hpolls _
    rw [ht.setCommandsOf, List.map_append, List.filter_append,
      hpolls.filter_set, List.append_nil, hall.commands]
    rw [← configCommands, isSetCommand_configCommands]
  · intro h m' _ _ hsuccess
    exact absurd hsuccess (by decide)
  · exact fun _ _ _ _ _ _ => rfl

/-- For every side, lane, target count and point, `ufs-eom.py` and ufseom
program the eye monitor with the same six SET commands in the same order:
ufseom where every command succeeds, the script in any case. -/
theorem script_programs_same_registers (side : Side)
    {lane timing volt targetCount : Int} (hlane : lane = 0 ∨ lane = 1)
    (htarget : 1 ≤ targetCount ∧ targetCount ≤ 127) (m : ScriptMachine)
    (m' : Machine EomGlobals)
    (hside : m.mem.sideOpt = lit "--" ++ side.option)
    (hpaths : PathsGiven m.mem) :
    ∃ commands : List UicCommand, commands.length = 6 ∧
      wp (UFSEOM.configEom lane (UFSEOM.calculateConfig timing)
          (UFSEOM.calculateConfig volt) targetCount)
        (fun _ m₁ => scriptCommandsOf m₁ = scriptCommandsOf m ++ commands)
        (fun why _ => why = .waiting) m ∧
      wp (configEom side lane (eomSteps timing) (eomSteps volt) targetCount)
        (fun ret m₁ => ret = success →
          setCommandsOf m₁.trace = setCommandsOf m'.trace ++ commands)
        (fun why _ => why = .waiting) m' := by
  refine ⟨configCommands side lane timing volt targetCount, rfl, ?_, ?_⟩
  · exact wp_scriptConfigEom hside hlane htarget.1 htarget.2 hpaths
  · exact wp_configEom_commands

/-- The script on the peer side of a device at its usual paths. -/
def peerScript : EomScript :=
  { sideOpt := lit "--peer", lsufsPath := lit "/data/lsufs",
    devicePath := lit "/dev/ufs-bsg0", targetTestCount := 93 }

theorem script_programs_same_registers_peer :
    ∃ commands : List UicCommand, commands.length = 6 ∧
      wp (UFSEOM.configEom 1 (UFSEOM.calculateConfig (-5))
          (UFSEOM.calculateConfig 7) 93)
        (fun _ m₁ => scriptCommandsOf m₁ =
          scriptCommandsOf ⟨List.replicate 6 {}, [], peerScript⟩ ++ commands)
        (fun why _ => why = .waiting)
        ⟨List.replicate 6 {}, [], peerScript⟩ ∧
      wp (configEom .peerSide 1 (eomSteps (-5)) (eomSteps 7) 93)
        (fun ret m₁ => ret = success → setCommandsOf m₁.trace =
          setCommandsOf (powerOn (S := EomGlobals) [] {}).trace ++ commands)
        (fun why _ => why = .waiting) (powerOn [] {}) := by
  apply script_programs_same_registers .peerSide (.inr rfl)
    ⟨by decide, by decide⟩
  · rfl
  · constructor <;> decide +kernel

end UfsTools
