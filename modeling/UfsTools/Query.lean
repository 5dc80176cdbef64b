/-
`query.h` and `query.c`: the options of `lsufs query` and the query requests
both programs send.
-/
import UfsTools.QueryTrans
import UfsTools.Uic

namespace UfsTools

open CLib Getopt ByteCodec

/-- `DESCRIPTOR_BUFFER_SIZE`, enough for every descriptor there is. -/
def descriptorBufferSize : Nat := 256

/-- The standard read and write functions. -/
def queryReqFuncStdRead : UInt32 := 0x01
def queryReqFuncStdWrite : UInt32 := 0x81

/-- `enum query_req_opcode`, as far as a handler knows it. -/
def queryReqOpReadDesc : Int := 1
def queryReqOpReadAttr : Int := 3
def queryReqOpWriteAttr : Int := 4
def queryReqOpReadFlag : Int := 5
def queryReqOpSetFlag : Int := 6
def queryReqOpClearFlag : Int := 7
def queryReqOpToggleFlag : Int := 8

/-- The first number that is no opcode. -/
def queryReqOpMax : Int := 9

/-- `ufs_descriptors`: IDN and name. -/
def ufsDescriptors : List UfsCharacteristics :=
  [entry 0x0 "Device Descriptor",
   entry 0x1 "Configuration Descriptor",
   entry 0x2 "Unit Descriptor",
   entry 0x4 "Interconnect Descriptor",
   entry 0x5 "String Descriptor",
   entry 0x7 "Geometry Descriptor",
   entry 0x8 "Power Parameters Descriptor",
   entry 0x9 "Device Health Descriptor"]

/-- `ufs_attributes`: IDN and name. -/
def ufsAttributes : List UfsCharacteristics :=
  [entry 0x00 "bBootLunEn",
   entry 0x02 "bCurrentPowerMode",
   entry 0x03 "bActiveICCLevel",
   entry 0x04 "bOutOfOrderDataEn",
   entry 0x05 "bBackgroundOpStatus",
   entry 0x06 "bPurgeStatus",
   entry 0x07 "bMaxDataInSize",
   entry 0x08 "bMaxDataOutSize",
   entry 0x09 "dDynCapNeeded",
   entry 0x0a "bRefClkFreq",
   entry 0x0b "bConfigDescrLock",
   entry 0x0c "bMaxNumOfRTT",
   entry 0x0d "wExceptionEventControl",
   entry 0x0e "wExceptionEventStatus",
   entry 0x0f "dSecondsPassed",
   entry 0x10 "wContextConf",
   entry 0x11 "Obsolete",
   entry 0x14 "bDeviceFFUStatus",
   entry 0x15 "bPSAState",
   entry 0x16 "dPSADataSize",
   entry 0x17 "bRefClkGatingWaitTime",
   entry 0x18 "bDeviceCaseRoughTemperaure",
   entry 0x19 "bDeviceTooHighTempBoundary",
   entry 0x1a "bDeviceTooLowTempBoundary",
   entry 0x1b "bThrottlingStatus",
   entry 0x1c "bWriteBoosterBufferFlushStatus",
   entry 0x1d "bAvailableWriteBoosterBufferSize",
   entry 0x1e "bWriteBoosterBufferLifeTimeEst",
   entry 0x1f "dCurrentWriteBoosterBufferSize",
   entry 0x2a "bEXTIIDEn",
   entry 0x2b "wHostHintCacheSize",
   entry 0x2c "bRefreshStatus",
   entry 0x2d "bRefreshFreq",
   entry 0x2e "bRefreshUnit",
   entry 0x2f "bRefreshMethod",
   entry 0x30 "qTimestamp",
   entry 0x34 "qDeviceLevelExceptionID",
   entry 0x35 "bDefragOperation",
   entry 0x36 "dHIDAvaliableSize",
   entry 0x37 "dHIDSize",
   entry 0x38 "bHIDProgressRatio",
   entry 0x39 "bHIDState",
   entry 0x3c "bWriteBoosterBufferResizeHint",
   entry 0x3d "bWriteBoosterBufferResizeEn",
   entry 0x3e "bWriteBoosterBufferResizeStatus",
   entry 0x3f "bWriteBoosterBufferPartialFlushMode",
   entry 0x40 "dMaxFIFOSizeForWriteBoosterPartialFlushMode",
   entry 0x41 "dCurrentFIFOSizeForWriteBoosterPartialFlushMode",
   entry 0x42 "dPinnedWriteBoosterBufferCurrentAllocUnits",
   entry 0x43 "bPinnedWriteBoosterBufferAvailablePercentage",
   entry 0x44 "dPinnedWriteBoosterCummulativeWrittenSize",
   entry 0x45 "dPinnedWriteBoosterBufferNumAllocUnits",
   entry 0x46 "dNonPinnedWriteBoosterBufferMinNumAllocUnits"]

/-- `ufs_flags`: IDN and name. -/
def ufsFlags : List UfsCharacteristics :=
  [entry 0x01 "fDeviceInit",
   entry 0x02 "fPermanentWPEn",
   entry 0x03 "fPowerOnWPEn",
   entry 0x04 "fBackgroundOpsEn",
   entry 0x05 "fDeviceLifeSpanModeEn",
   entry 0x06 "fPurgeEnable",
   entry 0x07 "fRefreshEnable",
   entry 0x08 "fPhyResourceRemoval",
   entry 0x09 "fBusyRTC",
   entry 0x0b "fPermanentlyDisableFwUpdate",
   entry 0x0e "fWriteBoosterEn",
   entry 0x0f "fWriteBoosterBufferFlushEn",
   entry 0x10 "fWriteBoosterBufferFlushDuringHibernate",
   entry 0x11 "fHPBReset",
   entry 0x12 "fHPBEnable",
   entry 0x13 "fUnpinEn"]

/-! Options of `lsufs query`. -/

def queryShortOptions : Text := lit "o:i:I:s:v:d:"

/-- `query_long_options`; each long option is a short one. -/
def queryLongOptions : List LongOption :=
  [⟨lit "opcode", true, 'o'⟩, ⟨lit "idn", true, 'i'⟩,
   ⟨lit "index", true, 'I'⟩, ⟨lit "selector", true, 's'⟩,
   ⟨lit "value", true, 'v'⟩, ⟨lit "device", true, 'd'⟩]

/-- `init_opcode`: only the upper end is checked here, the conversion has
rejected negative numbers. -/
def initOpcode (optarg : Text) (op : LsufsOperation) : Parsed LsufsOperation :=
  match getValueFromCli optarg with
  | none => reject "Invalid opcode.\n"
  | some opcode =>
      if opcode ≥ queryReqOpMax then reject "Invalid opcode.\n"
      else .ok { op with queryOp := { op.queryOp with opcode := opcode } }

/-- `init_idn`, without an upper bound. -/
def initIdn (optarg : Text) (op : LsufsOperation) : Parsed LsufsOperation :=
  initValue "Invalid IDN.\n" optarg fun idn =>
    { op with queryOp := { op.queryOp with idn := idn } }

/-- `init_index`, without an upper bound. -/
def initIndex (optarg : Text) (op : LsufsOperation) : Parsed LsufsOperation :=
  initValue "Invalid Index.\n" optarg fun index =>
    { op with queryOp := { op.queryOp with index := index } }

/-- `init_selector`, without an upper bound. -/
def initSelector (optarg : Text) (op : LsufsOperation) :
    Parsed LsufsOperation :=
  initValue "Invalid Selector.\n" optarg fun selector =>
    { op with queryOp := { op.queryOp with selector := selector } }

/-- `init_attr_value`: any 64-bit value, for whatever opcode. -/
def initAttrValue (optarg : Text) (op : LsufsOperation) :
    Parsed LsufsOperation :=
  match getUllFromCli optarg with
  | none => reject "Invalid Attribute Value.\n"
  | some value =>
      .ok { op with queryOp := { op.queryOp with attrValue := value } }

/-- One round of the option loop. -/
def setupQueryOption (op : LsufsOperation) (o : Occurrence) :
    Parsed LsufsOperation :=
  match o.option with
  | 'o' => initOpcode o.optarg op
  | 'i' => initIdn o.optarg op
  | 'I' => initIndex o.optarg op
  | 's' => initSelector o.optarg op
  | 'v' => initAttrValue o.optarg op
  | 'd' => initOperationPath o.optarg op
  | _ => reject "I cannot understand, please try 'query -h'.\n"

/-- `setup_query_operation`: without an option it fails and says nothing. -/
def setupQueryOperation (argv : List Text) (op : LsufsOperation) :
    Parsed LsufsOperation :=
  match getoptLong queryShortOptions queryLongOptions argv.tail with
  | [] => .error []
  | occurrences => occurrences.foldlM setupQueryOption op

/-- `query_op_sanity_check`: what must be given, in the order of the checks. -/
def queryOpSanityCheck (op : LsufsOperation) : Parsed LsufsOperation :=
  let qop := op.queryOp
  if op.devicePath = [] then reject "Path to bsg device not provided.\n"
  else if qop.opcode = init then reject "Query request opcode is not given.\n"
  else if qop.opcode = queryReqOpWriteAttr ∧
      qop.attrValue = UInt64.ofInt init then
    reject "Query write attribute needs value input.\n"
  else if qop.idn = init then reject "Query request idn is not given.\n"
  else if qop.index = init then reject "Query request index is not given.\n"
  else if qop.selector = init then
    reject "Query request selector is not given.\n"
  else .ok op

/-- `init_query_operation`: the fields start as `INIT`, the function is left. -/
def initQueryOperation (argv : List Text) (op : LsufsOperation) :
    Parsed LsufsOperation := do
  let op ← setupQueryOperation argv { op with
    queryOp := { func := op.queryOp.func }, devicePath := [] }
  queryOpSanityCheck op

/-! Query requests. -/

/-- `UTP_UPIU_QUERY_REQ`, message code and transaction type. -/
def utpUpiuQueryReq : UInt32 := 0x16

/-- `UPIU_RSP_CODE_OFFSET`: the response code is in the second byte. -/
def upiuRspCodeOffset : Nat := 8

def maskRspUpiuResult : UInt32 := 0xFFFF

def maskQueryDataSegLen : UInt32 := 0xFFFF

/-- The three dwords of the header. -/
def queryHeader (func : UInt32) (length : UInt16) : UtpUpiuReq :=
  storeBe32 (storeBe32 (storeBe32 (Vector.replicate 32 0)
    dword0At (DWORD utpUpiuQueryReq 0 0 0))
    dword1At (DWORD 0 func 0 0))
    dword2At (DWORD 0 0 (length >>> 8).toUInt32 length.toUInt8.toUInt32)

/-- Each operand is narrowed to the byte it is stored in. -/
def queryOperands (block : UtpUpiuReq) (qop : QueryOperation) : UtpUpiuReq :=
  storeU8 (storeU8 (storeU8 (storeU8 block
    opcodeAt (UInt8.ofInt qop.opcode)) idnAt (UInt8.ofInt qop.idn))
    indexAt (UInt8.ofInt qop.index)) selectorAt (UInt8.ofInt qop.selector)

/-- `compose_ufs_bsg_req`: the length goes with a read descriptor, the value
with a write attribute. -/
def composeUfsBsgReq (qop : QueryOperation) (length : UInt16) :
    UfsBsgRequest where
  msgcode := utpUpiuQueryReq
  upiuReq :=
    let block := queryOperands (queryHeader qop.func length) qop
    if qop.opcode = queryReqOpReadDesc then storeBe16 block lengthAt length
    else if qop.opcode = queryReqOpWriteAttr then
      storeBe64 block attrValueAt qop.attrValue
    else block

/-- The opcodes that are sent with the read function. -/
def isReadOpcode (opcode : Int) : Bool :=
  opcode = queryReqOpReadDesc ∨ opcode = queryReqOpReadAttr ∨
    opcode = queryReqOpReadFlag

/-- The code checked after a request.  It passes through an 8-bit variable
before the shift. -/
def queryResp (r : SysReply) : UInt8 :=
  let low :=
    (loadBe32 r.bsgReply.upiuRsp dword1At &&& maskRspUpiuResult).toUInt8
  UInt8.ofNat (low.toNat >>> upiuRspCodeOffset)

/-- The length the device gives for what it sent. -/
def dataSegLen (r : SysReply) : UInt16 :=
  (loadBe32 r.bsgReply.upiuRsp dword2At &&& maskQueryDataSegLen).toUInt16

/-- What `send_query_command` hands back: its return value, `*buf_len` and the
reply. -/
structure QueryResult where
  ret : Int
  bufLen : UInt16
  reply : SysReply

variable {S : Type}

/-- `send_query_command`: `*buf_len` is the device's length behind a request
that went through. -/
def sendQueryCommand (op : LsufsOperation) (bufLen : UInt16) :
    Prog S QueryResult := do
  let read := isReadOpcode op.queryOp.opcode
  let dir := if read then BsgIoctlDir.fromDev else .toDev
  let func := if read then queryReqFuncStdRead else queryReqFuncStdWrite
  let request := composeUfsBsgReq { op.queryOp with func := func } bufLen
  let (ret, reply) ← ufsBsgIo op.fd request bufLen.toUInt32 dir
  if ret ≠ 0 then
    Process.note (prErr (lit "ufs_bsg_io failed for query command (" ++
      showInt ret ++ lit ")\n"))
    pure ⟨ret, bufLen, reply⟩
  else if queryResp reply ≠ 0 then
    Process.note (prErr (lit "query request failed with response code " ++
      Nat.toDigits 10 (queryResp reply).toNat ++ lit "\n"))
    pure ⟨error, bufLen, reply⟩
  else pure ⟨ret, dataSegLen reply, reply⟩

/-- The buffer of the handler, zero to begin with. -/
abbrev DescBuf := Vector UInt8 descriptorBufferSize

/-- The buffer after an ioctl that could put `bufLen` bytes into it. -/
def received (buf : DescBuf) (bufLen : UInt16) (r : SysReply) : DescBuf :=
  store buf 0 (r.data.take bufLen.toNat)

/-- `dump_descriptor`: a line for each byte, whatever the size of the buffer. -/
def dumpDescriptor (descBuf : Nat → UInt8) (len : Nat) : List Note :=
  (List.range len).flatMap fun i =>
    [.load i, printf (lit "Offset 0x" ++ showHex i ++ lit " : 0x" ++
      showHex (descBuf i).toNat ++ lit "\n")]

/-- `%x` of an `int`. -/
def intHex (x : Int) : Text := showHex (UInt32.ofInt x).toNat

/-- The descriptor, attribute or flag an operation names, as it is printed. -/
def QueryOperation.name (qop : QueryOperation)
    (table : List UfsCharacteristics) : Text :=
  characteristicsName table
    (characteristicsLookUp table (UInt32.ofInt qop.idn))

/-! The handlers differ in the buffer they offer and in what they print once
the request is through. -/

/-- One request, and the report on it. -/
def queryAndReport (op : LsufsOperation) (bufLen : UInt16)
    (report : QueryResult → List Note) : Prog S Int := do
  let result ← sendQueryCommand op bufLen
  Process.notes (report result)
  pure result.ret

/-- A device descriptor is printed by its fields and as a dump, any other one by
its offsets. -/
def descriptorNotes (qop : QueryOperation) (buf : Nat → UInt8) (len : Nat) :
    List Note :=
  if characteristicsLookUp ufsDescriptors (UInt32.ofInt qop.idn) = 0 then
    ufsDescTranslate buf len ufsDevDesc (lit "Device") ++ dumpHex buf len
  else
    printf (lit "Descriptor IDN 0x" ++ intHex qop.idn ++ lit " - " ++
      qop.name ufsDescriptors ++ lit " :\n") :: dumpDescriptor buf len

/-- The message of both readers of descriptors. -/
def readDescriptorFailed (idn : Int) : Note :=
  prErr (lit "Failed to query read Descriptor IDN 0x" ++ intHex idn ++
    lit ".\n")

/-- What `do_query_read_descriptor` prints. -/
def readDescriptorReport (qop : QueryOperation) (result : QueryResult) :
    List Note :=
  let buf := received (Vector.replicate _ 0)
    (UInt16.ofNat descriptorBufferSize) result.reply
  if result.ret ≠ 0 then [readDescriptorFailed qop.idn]
  else descriptorNotes qop (byte buf) result.bufLen.toNat

/-- `do_query_read_descriptor`, the only handler with a buffer. -/
def doQueryReadDescriptor (op : LsufsOperation) : Prog S Int :=
  queryAndReport op (UInt16.ofNat descriptorBufferSize)
    (readDescriptorReport op.queryOp)

/-- The library entry of ufseom; it also returns the buffer. -/
def queryReadDescriptor (fd idn index sel : Int) (buf : DescBuf)
    (bufLen : UInt16) : Prog S (Int × DescBuf) := do
  let op : LsufsOperation := { fd := fd, queryOp :=
    { opcode := queryReqOpReadDesc, idn := idn, index := index,
      selector := sel } }
  let result ← sendQueryCommand op bufLen
  Process.notes (if result.ret ≠ 0 then [readDescriptorFailed idn] else [])
  pure (result.ret, received buf bufLen result.reply)

/-- What `do_query_read_attribute` prints: eight bytes, whatever the size of the
attribute. -/
def readAttributeReport (qop : QueryOperation) (result : QueryResult) :
    List Note :=
  if result.ret ≠ 0 then
    [prErr (lit "Failed to query read Attribute IDN 0x" ++ intHex qop.idn ++
      lit ", Index 0x" ++ intHex qop.index ++ lit ".\n")]
  else
    [printf (lit "Attribute IDN 0x" ++ intHex qop.idn ++ lit " - " ++
      qop.name ufsAttributes ++ lit ", Index 0x" ++ intHex qop.index ++
      lit " : 0x" ++
      showHex (loadBe64 result.reply.bsgReply.upiuRsp attrValueAt).toNat ++
      lit "\n")]

def doQueryReadAttribute (op : LsufsOperation) : Prog S Int :=
  queryAndReport op 0 (readAttributeReport op.queryOp)

/-- `ret ? "Failed to" : "Successfully"` -/
def outcomeWord (ret : Int) : Text :=
  if ret ≠ 0 then lit "Failed to" else lit "Successfully"

/-- What `do_query_write_attribute` prints, to stdout also when it failed. -/
def writeAttributeReport (qop : QueryOperation) (result : QueryResult) :
    List Note :=
  [printf (outcomeWord result.ret ++ lit " write Attribute IDN 0x" ++
    intHex qop.idn ++ lit " - " ++ qop.name ufsAttributes ++
    lit ", Index 0x" ++ intHex qop.index ++ lit "\n")]

def doQueryWriteAttribute (op : LsufsOperation) : Prog S Int :=
  queryAndReport op 0 (writeAttributeReport op.queryOp)

/-- What `do_query_read_flag` prints; the flag is the lowest bit. -/
def readFlagReport (qop : QueryOperation) (result : QueryResult) :
    List Note :=
  if result.ret ≠ 0 then
    [prErr (lit "Failed to query read Flag IDX 0x" ++ intHex qop.idn ++
      lit ", Index 0x" ++ intHex qop.index ++ lit ".\n")]
  else
    [printf (lit "Flag IDN 0x" ++ intHex qop.idn ++ lit " - " ++
      qop.name ufsFlags ++ lit ", Index 0x" ++ intHex qop.index ++
      lit " : " ++ Nat.toDigits 10
        (loadBe32 result.reply.bsgReply.upiuRsp valueAt &&& 0x1).toNat ++
      lit "\n")]

def doQueryReadFlag (op : LsufsOperation) : Prog S Int :=
  queryAndReport op 0 (readFlagReport op.queryOp)

/-- The word for what is done to a flag. -/
def manipulation (opcode : Int) : Text :=
  if opcode = queryReqOpSetFlag then lit "set"
  else if opcode = queryReqOpClearFlag then lit "clear"
  else if opcode = queryReqOpToggleFlag then lit "toggle"
  else []

/-- What `do_query_manipulate_flag` prints. -/
def manipulateFlagReport (qop : QueryOperation) (result : QueryResult) :
    List Note :=
  [printf (outcomeWord result.ret ++ lit " " ++ manipulation qop.opcode ++
    lit " Flag IDN 0x" ++ intHex qop.idn ++ lit " - " ++ qop.name ufsFlags ++
    lit ", Index 0x" ++ intHex qop.index ++ lit "\n")]

/-- `do_query_manipulate_flag`, the handler of three opcodes. -/
def doQueryManipulateFlag (op : LsufsOperation) : Prog S Int :=
  queryAndReport op 0 (manipulateFlagReport op.queryOp)

/-- The second `switch` of `do_query_operation`. -/
def dispatchQuery (op : LsufsOperation) : Prog S Int :=
  let opcode := op.queryOp.opcode
  if opcode = queryReqOpReadDesc then doQueryReadDescriptor op
  else if opcode = queryReqOpReadAttr then doQueryReadAttribute op
  else if opcode = queryReqOpWriteAttr then doQueryWriteAttribute op
  else if opcode = queryReqOpReadFlag then doQueryReadFlag op
  else if opcode = queryReqOpSetFlag ∨ opcode = queryReqOpClearFlag ∨
      opcode = queryReqOpToggleFlag then doQueryManipulateFlag op
  else do
    Process.note (prErr (lit "Unsupported query request type - " ++
      showInt opcode ++ lit "\n"))
    pure error

/-- `do_query_operation`: the node is opened for one request and closed again.
-/
def doQueryOperation (op : LsufsOperation) : Prog S Int := do
  let flag :=
    if isReadOpcode op.queryOp.opcode then OpenFlag.rdonly else .rdwr
  let fd ← sysCall (.open op.devicePath flag)
  if fd < 0 then
    Process.note (prErr (lit "Filed to open file (" ++ showInt fd ++
      lit ").\n"))
    pure error
  else
    let ret ← dispatchQuery { op with fd := fd }
    Process.note (.close fd)
    pure ret

/-! What one query comes to, as a function of the reply it gets. -/

/-- The request of an operation. -/
def querySent (qop : QueryOperation) (bufLen : UInt16) : UfsBsgRequest :=
  let func :=
    if isReadOpcode qop.opcode then queryReqFuncStdRead
    else queryReqFuncStdWrite
  composeUfsBsgReq { qop with func := func } bufLen

/-- The system call it is sent with. -/
def queryIoctl (op : LsufsOperation) (bufLen : UInt16) : SysCall :=
  .ioctl op.fd (sgIoRequest (querySent op.queryOp bufLen) bufLen.toUInt32
    (if isReadOpcode op.queryOp.opcode then .fromDev else .toDev))

/-- What `send_query_command` makes of a reply; its length is read only where
the transport reports no error. -/
def queryResult (bufLen : UInt16) (r : SysReply) : QueryResult :=
  ⟨bsgStatus r, if bsgStatus r ≠ 0 then bufLen else dataSegLen r, r⟩

/-- What `send_query_command` prints of a reply. -/
def queryNotes (r : SysReply) : List Note :=
  bsgNotes r ++
  if bsgStatus r ≠ 0 then
    [prErr (lit "ufs_bsg_io failed for query command (" ++
      showInt (bsgStatus r) ++ lit ")\n")]
  else []

theorem forall_mem_queryNotes {P : Note → Prop} {r : SysReply}
    (hioctl : ∀ text, P (prErr (lit "ufs_bsg_io" ++ text)))
    (hsgIo : ∀ text, P (prErr (lit "Error from sg_io" ++ text))) :
    ∀ n ∈ queryNotes r, P n := by
  intro n hn
  rcases List.mem_append.mp hn with hn | hn
  · exact forall_mem_bsgNotes hioctl hsgIo n hn
  · split at hn
    · rw [List.mem_singleton.mp hn]
      exact hioctl _
    · contradiction

/-- The 8-bit variable has no bits left above the response code's offset. -/
theorem queryResp_eq_zero (r : SysReply) : queryResp r = 0 := by
  have hbyte : ∀ b : UInt8, b.toNat >>> 8 = 0 := by
    intro b
    rw [Nat.shiftRight_eq_div_pow]
    exact Nat.div_eq_of_lt b.toNat_lt
  simp only [queryResp, upiuRspCodeOffset, hbyte]
  rfl

/-- A query is one exchange, its response code is never looked at. -/
theorem sendQueryCommand_eq_exchange (op : LsufsOperation) (bufLen : UInt16) :
    (sendQueryCommand op bufLen : Prog S QueryResult) =
      Process.exchange (queryIoctl op bufLen)
        fun r => (queryResult bufLen r, queryNotes r) := by
  funext m
  simp only [sendQueryCommand, ufsBsgIo, Process.exchange, Process.call, bind]
  cases m.replies with
  | nil => rfl
  | cons r rest =>
      by_cases hstatus : bsgStatus r = 0 <;>
        simp [Process.notes, Process.note, pure, queryIoctl, querySent,
          queryResult, queryNotes, hstatus, queryResp_eq_zero]

theorem queryAndReport_eq_exchange (op : LsufsOperation) (bufLen : UInt16)
    (report : QueryResult → List Note) :
    (queryAndReport op bufLen report : Prog S Int) =
      Process.exchange (queryIoctl op bufLen) fun r =>
        (bsgStatus r, queryNotes r ++ report (queryResult bufLen r)) := by
  rw [queryAndReport, sendQueryCommand_eq_exchange]
  exact Process.exchange_bind_notes _ _ report QueryResult.ret

/-- The report of a failed query belongs to the query. -/
theorem queryReadDescriptor_eq_exchange (fd idn index sel : Int)
    (buf : DescBuf) (bufLen : UInt16) :
    (queryReadDescriptor fd idn index sel buf bufLen :
        Prog S (Int × DescBuf)) =
      Process.exchange (queryIoctl { fd := fd, queryOp :=
          { opcode := queryReqOpReadDesc, idn := idn, index := index,
            selector := sel } } bufLen) fun r =>
        ((bsgStatus r, received buf bufLen r), queryNotes r ++
          if bsgStatus r ≠ 0 then [readDescriptorFailed idn] else []) := by
  simp only [queryReadDescriptor, sendQueryCommand_eq_exchange]
  exact Process.exchange_bind_notes _ _
    (fun result : QueryResult =>
      if result.ret ≠ 0 then [readDescriptorFailed idn] else [])
    fun result => (result.ret, received buf bufLen result.reply)

/-- The opcodes with a handler. -/
def SupportedOpcode (opcode : Int) : Prop :=
  opcode = queryReqOpReadDesc ∨ opcode = queryReqOpReadAttr ∨
    opcode = queryReqOpWriteAttr ∨ opcode = queryReqOpReadFlag ∨
    opcode = queryReqOpSetFlag ∨ opcode = queryReqOpClearFlag ∨
    opcode = queryReqOpToggleFlag

instance (opcode : Int) : Decidable (SupportedOpcode opcode) :=
  inferInstanceAs (Decidable (_ ∨ _))

/-- The buffer length a supported operation starts with. -/
def queryBufLen (opcode : Int) : UInt16 :=
  if opcode = queryReqOpReadDesc then UInt16.ofNat descriptorBufferSize else 0

/-- The report of the handler of an opcode. -/
def queryReport (qop : QueryOperation) : QueryResult → List Note :=
  if qop.opcode = queryReqOpReadDesc then readDescriptorReport qop
  else if qop.opcode = queryReqOpReadAttr then readAttributeReport qop
  else if qop.opcode = queryReqOpWriteAttr then writeAttributeReport qop
  else if qop.opcode = queryReqOpReadFlag then readFlagReport qop
  else manipulateFlagReport qop

/-- Every supported operation is one request and one report. -/
theorem dispatchQuery_of_supported (op : LsufsOperation)
    (h : SupportedOpcode op.queryOp.opcode) :
    (dispatchQuery op : Prog S Int) =
      queryAndReport op (queryBufLen op.queryOp.opcode)
        (queryReport op.queryOp) := by
  rcases h with h | h | h | h | h | h | h <;>
    simp [dispatchQuery, queryBufLen, queryReport, h, doQueryReadDescriptor,
      doQueryReadAttribute, doQueryWriteAttribute, doQueryReadFlag,
      doQueryManipulateFlag, queryReqOpReadDesc, queryReqOpReadAttr,
      queryReqOpWriteAttr, queryReqOpReadFlag, queryReqOpSetFlag,
      queryReqOpClearFlag, queryReqOpToggleFlag]

end UfsTools
