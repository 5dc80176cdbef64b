/-
`uic.h` and `uic.c`: the options of `lsufs uic`, and the UIC commands both
programs send.
-/
import UfsTools.Operation

namespace UfsTools

open CLib Getopt ByteCodec

/-! Options of `lsufs uic`. -/

def uicShortOptions : Text := lit "pli:trL:gs:d:"

/-- `uic_long_options`; the directions and the modes have several spellings. -/
def uicLongOptions : List LongOption :=
  [⟨lit "peer", false, 'p'⟩, ⟨lit "local", false, 'l'⟩,
   ⟨lit "id", true, 'i'⟩,
   ⟨lit "TX", false, 't'⟩, ⟨lit "RX", false, 'r'⟩,
   ⟨lit "tx", false, 't'⟩, ⟨lit "rx", false, 'r'⟩,
   ⟨lit "Tx", false, 't'⟩, ⟨lit "Rx", false, 'r'⟩,
   ⟨lit "lane", true, 'L'⟩,
   ⟨lit "get", false, 'g'⟩, ⟨lit "set", true, 's'⟩,
   ⟨lit "GET", false, 'g'⟩, ⟨lit "SET", true, 's'⟩,
   ⟨lit "device", true, 'd'⟩]

/-- A function of the option parsers: what it reports when it returns `ERROR`,
or the record as it leaves it. -/
abbrev Parsed (α : Type) := Except (List Note) α

/-- The one message of a rejected argument. -/
def reject {α : Type} (message : String) : Parsed α :=
  .error [prErr (lit message)]

/-- The handlers of a number read it and put it into the record. -/
def initValue (message : String) (optarg : Text)
    (record : Int → LsufsOperation) : Parsed LsufsOperation :=
  match getValueFromCli optarg with
  | none => reject message
  | some value => .ok (record value)

/-- A number that a handler takes fits an `int` and is not negative. -/
theorem initValue_ok {message : String} {optarg : Text}
    {record : Int → LsufsOperation} {op : LsufsOperation}
    (h : initValue message optarg record = .ok op) :
    ∃ value, 0 ≤ value ∧ value ≤ intMax ∧ op = record value := by
  simp only [initValue] at h
  split at h
  · simp [reject] at h
  · next value hvalue =>
      obtain ⟨hlo, hhi⟩ := getValueFromCli_range hvalue
      exact ⟨value, hlo, hhi, (Except.ok.inj h).symm⟩

/-- `init_id`, without an upper bound. -/
def initId (optarg : Text) (op : LsufsOperation) : Parsed LsufsOperation :=
  initValue "Invalid Attribute id.\n" optarg fun id =>
    { op with uicOp := { op.uicOp with attrId := id } }

/-- `init_set_op`: the data brings the mode with it. -/
def initSetOp (optarg : Text) (op : LsufsOperation) : Parsed LsufsOperation :=
  initValue "UIC set needs data input.\n" optarg fun data =>
    { op with
      uicOp := { op.uicOp with data := UInt32.ofInt data, mode := some .set } }

/-- `init_lane`, without an upper bound. -/
def initLane (optarg : Text) (op : LsufsOperation) : Parsed LsufsOperation :=
  initValue "Invalid Lane number\n" optarg fun lane =>
    { op with uicOp := { op.uicOp with lane := lane } }

/-- `init_device_path` into the record. -/
def initOperationPath (optarg : Text) (op : LsufsOperation) :
    Parsed LsufsOperation :=
  match initDevicePath optarg with
  | .error message => .error [prErr message]
  | .ok path => .ok { op with devicePath := path }

/-- One round of the option loop. -/
def setupUicOption (op : LsufsOperation) (o : Occurrence) :
    Parsed LsufsOperation :=
  let uop := op.uicOp
  match o.option with
  | 'g' => .ok { op with uicOp := { uop with mode := some .get } }
  | 's' => initSetOp o.optarg op
  | 'i' => initId o.optarg op
  | 'p' => .ok { op with uicOp := { uop with localPeer := some .peerSide } }
  | 'l' => .ok { op with uicOp := { uop with localPeer := some .localSide } }
  | 't' => .ok { op with uicOp := { uop with dir := some .tx } }
  | 'r' => .ok { op with uicOp := { uop with dir := some .rx } }
  | 'L' => initLane o.optarg op
  | 'd' => initOperationPath o.optarg op
  | _ => reject "I cannot understand, please try 'uic -h'.\n"

/-- The loop ends at the first option that is rejected.  Without any option
the return code keeps its initial `ERROR`. -/
def setupUicOperation (argv : List Text) (op : LsufsOperation) :
    Parsed LsufsOperation :=
  match getoptLong uicShortOptions uicLongOptions argv.tail with
  | [] => .error []
  | occurrences => occurrences.foldlM setupUicOption op

/-- Checks the record and fills in the defaults it prints. -/
def uicOpSanityCheck (op : LsufsOperation) :
    Parsed (LsufsOperation × List Note) :=
  let uop := op.uicOp
  if op.devicePath = [] then reject "Path to bsg device not provided.\n"
  else if uop.attrId = init then reject "Attribute ID is not given.\n"
  else if uop.mode = none then reject "get/set is not given.\n"
  else if uop.mode = some .set ∧ uop.data = UInt32.ofInt init then
    reject "UIC set needs data input.\n"
  else
    let side := uop.localPeer.getD .localSide
    let dir := uop.dir.getD .tx
    let lane := if uop.lane = init then 0 else uop.lane
    .ok ({ op with uicOp := { uop with
        localPeer := some side, dir := some dir, lane := lane } },
      (if uop.localPeer = none then
        [printf (lit "local/peer is not given, assume local.\n")] else []) ++
      (if uop.dir = none then
        [printf (lit "Tx/Rx is not given, assume Tx.\n")] else []) ++
      (if uop.lane = init then
        [printf (lit "Lane N is not given, assume lane 0.\n")] else []))

/-- `init_uic_operation`: every field starts as `INIT`. -/
def initUicOperation (argv : List Text) (op : LsufsOperation) :
    Parsed (LsufsOperation × List Note) := do
  let op ← setupUicOperation argv { op with uicOp := {}, devicePath := [] }
  uicOpSanityCheck op

/-! UIC commands. -/

/-- `UIC_ARG_MIB_SEL`: each operand is cut to its half of the word. -/
def uicArgMibSel (attr sel : Int) : UInt32 :=
  ((UInt32.ofInt attr &&& 0xFFFF) <<< 16) ||| (UInt32.ofInt sel &&& 0xFFFF)

def uicArgAttrType (t : UInt8) : UInt32 := (t.toUInt32 &&& 0xFF) <<< 16

/-- `SELECT_RX`: the Rx lanes are behind four Tx lanes. -/
def selectRx (lane : Int) : Int := lane + 4

def selectTx (lane : Int) : Int := lane

def attrSetNor : UInt8 := 0

def maskUicConfigResultCode : UInt32 := 0xFF

/-- `UPIU_TRANSACTION_UIC_CMD`, the message code. -/
def upiuTransactionUicCmd : UInt32 := 0x1F

/-- `struct uic_command`, request and reply alike. -/
structure UicCommand where
  command : UInt32 := 0
  argument1 : UInt32 := 0
  argument2 : UInt32 := 0
  argument3 : UInt32 := 0
deriving DecidableEq

/-- `enum uic_cmds`: get and set, of the own side and of the peer. -/
def uicCmdDmeGet : UInt32 := 0x01
def uicCmdDmeSet : UInt32 := 0x02
def uicCmdDmePeerGet : UInt32 := 0x03
def uicCmdDmePeerSet : UInt32 := 0x04

/-- The command laid over the query member of an otherwise zero request. -/
def uicRequest (cmd : UicCommand) : UfsBsgRequest where
  msgcode := upiuTransactionUicCmd
  upiuReq :=
    storeU32 (storeU32 (storeU32 (storeU32 (Vector.replicate 32 0)
      uicCommandAt cmd.command) uicArgument1At cmd.argument1)
      uicArgument2At cmd.argument2) uicArgument3At cmd.argument3

/-- The `memcpy` of `UIC_CMD_SIZE` bytes out of a block. -/
def uicCommandOf (block : UtpUpiuReq) : UicCommand where
  command := loadU32 block uicCommandAt
  argument1 := loadU32 block uicArgument1At
  argument2 := loadU32 block uicArgument2At
  argument3 := loadU32 block uicArgument3At

/-- The command that comes back. -/
def uicReplyOf (r : SysReply) : UicCommand := uicCommandOf r.bsgReply.upiuRsp

/-- The byte `result` of `send_uic_command`. -/
def configResultCode (r : SysReply) : UInt8 :=
  ((uicReplyOf r).argument2 &&& maskUicConfigResultCode).toUInt8

variable {S : Type}

/-- `send_uic_command`: status and register value share the return value. -/
def sendUicCommand (fd : Int) (request : UfsBsgRequest) (dir : BsgIoctlDir) :
    Prog S Int := do
  let (ret, reply) ← ufsBsgIo fd request 0 dir
  if ret ≠ 0 then pure error
  else
    let result := configResultCode reply
    if result ≠ 0 then
      Process.note (prErr (lit "UIC command failed with config result code: " ++
        Nat.toDigits 10 result.toNat ++ lit ".\n"))
      pure error
    else pure (signed (uicReplyOf reply).argument3)

/-- The command of `__uic_get`. -/
def uicGetCommand (attrSel : UInt32) (peer : Side) : UicCommand where
  command := if peer = .peerSide then uicCmdDmePeerGet else uicCmdDmeGet
  argument1 := attrSel

/-- The command of `__uic_set`. -/
def uicSetCommand (attrSel : UInt32) (attrSet : UInt8) (mibVal : UInt32)
    (peer : Side) : UicCommand where
  command := if peer = .peerSide then uicCmdDmePeerSet else uicCmdDmeSet
  argument1 := attrSel
  argument2 := uicArgAttrType attrSet
  argument3 := mibVal

/-- `uic_get`, and the `__uic_get` it is another name of. -/
def uicGet (fd : Int) (attrSel : UInt32) (peer : Side) : Prog S Int :=
  sendUicCommand fd (uicRequest (uicGetCommand attrSel peer)) .fromDev

/-- `__uic_set` -/
def uicSetRaw (fd : Int) (attrSel : UInt32) (attrSet : UInt8)
    (mibVal : UInt32) (peer : Side) : Prog S Int :=
  sendUicCommand fd (uicRequest (uicSetCommand attrSel attrSet mibVal peer))
    .fromDev

/-- `uic_set`: any number but `ERROR` is a success. -/
def uicSet (fd : Int) (attrSel : UInt32) (attrSet : UInt8) (mibVal : UInt32)
    (peer : Side) : Prog S Int := do
  let ret ← uicSetRaw fd attrSel attrSet mibVal peer
  pure (if ret = error then ret else 0)

/-! What one UIC command comes to, as a function of the reply it gets. -/

/-- The transport failed or the config result code is not zero. -/
def UicFailed (r : SysReply) : Prop :=
  bsgStatus r ≠ 0 ∨ configResultCode r ≠ 0

instance (r : SysReply) : Decidable (UicFailed r) :=
  inferInstanceAs (Decidable (_ ∨ _))

/-- What `send_uic_command` returns. -/
def uicStatus (r : SysReply) : Int :=
  if UicFailed r then error else signed (uicReplyOf r).argument3

/-- The register value a reply carries. -/
def registerValue (r : SysReply) : UInt32 := (uicReplyOf r).argument3

/-- The reply to a command that went through and carries `value`. -/
def registerReply (value : UInt32) : SysReply :=
  { bsgReply := { upiuRsp := (uicRequest { argument3 := value }).upiuReq } }

/-- A register that holds the number of `ERROR` reads like a failure. -/
theorem uicStatus_eq_error_iff (r : SysReply) :
    uicStatus r = error ↔
      UicFailed r ∨ (registerValue r).toNat = 0xFFFFFFFE := by
  rw [uicStatus]
  by_cases hfailed : UicFailed r
  · simp [hfailed]
  · rw [if_neg hfailed, or_iff_right hfailed]
    exact signed_eq_neg_two_iff _

/-- The upper half of the register values is negative to the callers. -/
theorem uicStatus_nonneg_iff (r : SysReply) :
    0 ≤ uicStatus r ↔
      ¬ UicFailed r ∧ (registerValue r).toNat < 0x80000000 := by
  rw [uicStatus]
  by_cases hfailed : UicFailed r
  · simp [hfailed, error]
  · rw [if_neg hfailed, and_iff_right hfailed]
    exact signed_nonneg_iff _

theorem uicStatus_of_lt {r : SysReply} (h : ¬ UicFailed r)
    (hlt : (registerValue r).toNat < 0x80000000) :
    uicStatus r = (registerValue r).toNat := by
  rw [uicStatus, if_neg h]
  exact signed_of_lt hlt

/-- What a command prints of its reply. -/
def uicNotes (r : SysReply) : List Note :=
  bsgNotes r ++
  if bsgStatus r = 0 ∧ configResultCode r ≠ 0 then
    [prErr (lit "UIC command failed with config result code: " ++
      Nat.toDigits 10 (configResultCode r).toNat ++ lit ".\n")]
  else []

theorem forall_mem_uicNotes {P : Note → Prop} {r : SysReply}
    (hioctl : ∀ text, P (prErr (lit "ufs_bsg_io" ++ text)))
    (hsgIo : ∀ text, P (prErr (lit "Error from sg_io" ++ text)))
    (hcode : ∀ text, P (prErr (lit "UIC command failed" ++ text))) :
    ∀ n ∈ uicNotes r, P n := by
  intro n hn
  rcases List.mem_append.mp hn with hn | hn
  · exact forall_mem_bsgNotes hioctl hsgIo n hn
  · split at hn
    · rw [List.mem_singleton.mp hn]
      exact hcode _
    · contradiction

/-- The system call of a command. -/
def uicIoctl (fd : Int) (cmd : UicCommand) : SysCall :=
  .ioctl fd (sgIoRequest (uicRequest cmd) 0 .fromDev)

/-- A command is one exchange. -/
theorem sendUicCommand_eq_exchange (fd : Int) (cmd : UicCommand) :
    (sendUicCommand fd (uicRequest cmd) .fromDev : Prog S Int) =
      Process.exchange (uicIoctl fd cmd) fun r => (uicStatus r, uicNotes r) := by
  funext m
  simp only [sendUicCommand, ufsBsgIo, Process.exchange, Process.call, bind]
  cases m.replies with
  | nil => rfl
  | cons r rest =>
      by_cases hstatus : bsgStatus r = 0
      · by_cases hcode : configResultCode r = 0
        · simp [Process.notes, pure, uicNotes, uicStatus, UicFailed, uicIoctl,
            hstatus, hcode]
        · simp [Process.notes, Process.note, pure, uicNotes, uicStatus,
            UicFailed, uicIoctl, hstatus, hcode]
      · simp [Process.notes, pure, uicNotes, uicStatus, UicFailed, uicIoctl,
          hstatus]

theorem uicGet_eq_exchange (fd : Int) (attrSel : UInt32) (peer : Side) :
    (uicGet fd attrSel peer : Prog S Int) =
      Process.exchange (uicIoctl fd (uicGetCommand attrSel peer))
        fun r => (uicStatus r, uicNotes r) :=
  sendUicCommand_eq_exchange fd _

theorem uicSetRaw_eq_exchange (fd : Int) (attrSel : UInt32) (attrSet : UInt8)
    (mibVal : UInt32) (peer : Side) :
    (uicSetRaw fd attrSel attrSet mibVal peer : Prog S Int) =
      Process.exchange (uicIoctl fd (uicSetCommand attrSel attrSet mibVal peer))
        fun r => (uicStatus r, uicNotes r) :=
  sendUicCommand_eq_exchange fd _

/-- What the callers that look for `ERROR` make of the same reply. -/
def uicSetStatus (r : SysReply) : Int :=
  if uicStatus r = error then uicStatus r else 0

theorem uicSet_eq_exchange (fd : Int) (attrSel : UInt32) (attrSet : UInt8)
    (mibVal : UInt32) (peer : Side) :
    (uicSet fd attrSel attrSet mibVal peer : Prog S Int) =
      Process.exchange (uicIoctl fd (uicSetCommand attrSel attrSet mibVal peer))
        fun r => (uicSetStatus r, uicNotes r) := by
  rw [uicSet, uicSetRaw_eq_exchange]
  exact Process.exchange_map _ _ fun ret => if ret = error then ret else 0

/-- The block a command is laid over gives the command back. -/
@[simp] theorem uicCommandOf_uicRequest (cmd : UicCommand) :
    uicCommandOf (uicRequest cmd).upiuReq = cmd := by
  simp only [uicCommandOf, uicRequest, uicCommandAt, uicArgument1At,
    uicArgument2At, uicArgument3At]
  simp (disch := omega) only [loadU32_storeU32_disjoint, loadU32_storeU32]

/-! `lsufs uic` proper. -/

/-- The side an operation record selects; `INIT` is not zero either. -/
def UicOperation.side (uop : UicOperation) : Side :=
  if uop.localPeer = some .localSide then .localSide else .peerSide

def UicOperation.selector (uop : UicOperation) : Int :=
  if uop.dir = some .tx then selectTx uop.lane else selectRx uop.lane

def UicOperation.attrSel (uop : UicOperation) : UInt32 :=
  uicArgMibSel uop.attrId uop.selector

def UicOperation.attrName (uop : UicOperation) : Text :=
  characteristicsName uniproMphyAttrs
    (characteristicsLookUp uniproMphyAttrs (UInt32.ofInt uop.attrId))

def UicOperation.attrIdHex (uop : UicOperation) : Text :=
  showHex (UInt32.ofInt uop.attrId).toNat

/-- What `do_uic_get` prints about the value it got. -/
def uicGetNote (uop : UicOperation) (ret : Int) : Note :=
  if ret = error then
    prErr (lit "Filed to get " ++ sideName uop.localPeer ++
      lit " Attribute ID 0x" ++ uop.attrIdHex ++ lit " - " ++
      uop.attrName ++ lit "\n")
  else
    printf (sideName uop.localPeer ++ lit " Attribute ID 0x" ++
      uop.attrIdHex ++ lit " - " ++ uop.attrName ++ lit " = 0x" ++
      showHex (UInt32.ofInt ret).toNat ++ lit "\n")

def uicSetNote (uop : UicOperation) (ret : Int) : Note :=
  printf ((if ret = error then lit "Failed to"
    else lit "Successfully") ++ lit " set " ++
    (if uop.localPeer = some .peerSide then lit "peer"
    else lit "local") ++ lit " Attribute ID 0x" ++ uop.attrIdHex ++
    lit " - " ++ uop.attrName ++ lit "\n")

def doUicGet (op : LsufsOperation) : Prog S Int := do
  let uop := op.uicOp
  let ret ← uicGet op.fd uop.attrSel uop.side
  Process.note (uicGetNote uop ret)
  pure (if ret = error then ret else success)

def doUicSet (op : LsufsOperation) : Prog S Int := do
  let uop := op.uicOp
  let ret ← uicSetRaw op.fd uop.attrSel attrSetNor uop.data uop.side
  Process.note (uicSetNote uop ret)
  pure (if ret = error then ret else 0)

theorem doUicGet_eq_exchange (op : LsufsOperation) :
    (doUicGet op : Prog S Int) =
      Process.exchange
        (uicIoctl op.fd (uicGetCommand op.uicOp.attrSel op.uicOp.side))
        fun r => (uicSetStatus r,
          uicNotes r ++ [uicGetNote op.uicOp (uicStatus r)]) := by
  rw [doUicGet, uicGet_eq_exchange]
  exact Process.exchange_bind_notes _ _
    (fun ret => [uicGetNote op.uicOp ret]) _

theorem doUicSet_eq_exchange (op : LsufsOperation) :
    (doUicSet op : Prog S Int) =
      Process.exchange (uicIoctl op.fd (uicSetCommand op.uicOp.attrSel
          attrSetNor op.uicOp.data op.uicOp.side))
        fun r => (uicSetStatus r,
          uicNotes r ++ [uicSetNote op.uicOp (uicStatus r)]) := by
  rw [doUicSet, uicSetRaw_eq_exchange]
  exact Process.exchange_bind_notes _ _
    (fun ret => [uicSetNote op.uicOp ret]) _

def doUicOperation (op : LsufsOperation) : Prog S Int := do
  let flag := if op.uicOp.mode = some .get then OpenFlag.rdonly else .rdwr
  let fd ← sysCall (.open op.devicePath flag)
  if fd < 0 then
    Process.note (prErr (lit "Filed to open file (" ++ showInt fd ++
      lit ").\n"))
    pure error
  else
    let op := { op with fd := fd }
    let ret ←
      match op.uicOp.mode with
      | some .get => doUicGet op
      | some .set => doUicSet op
      | none => do
          Process.note (prErr (lit "Why are we here?!\n"))
          pure error
    Process.note (.close fd)
    pure ret

end UfsTools
