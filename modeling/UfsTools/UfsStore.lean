/-
What a UFS device keeps for the two programs to read and write, and the
commands that the bytes of their requests decode to.
-/
import UfsTools.LsufsRun
import UfsTools.UicOutcome

namespace UfsTools

open CLib ByteCodec Process

/-- The bytes a query names its object with. -/
structure QueryKey where
  idn : UInt8
  index : UInt8
  selector : UInt8
deriving DecidableEq

/-- A descriptor has its length in its first byte, so it has at most 255. -/
def Descriptor : Type := { bytes : List UInt8 // bytes.length < 256 }

/-- What stands in a device: its registers, attributes and flags, and what it
says of itself. -/
structure UfsStore where
  register : Registers
  attr : QueryKey → UInt64
  flag : QueryKey → Bool
  descriptor : QueryKey → Descriptor

/-- What the device is asked for. -/
inductive UfsCommand where
  | dmeGet (side : Side) (attrSel : UInt32)
  | dmeSet (side : Side) (attrSel value : UInt32)
  | readDescriptor (key : QueryKey)
  | readAttribute (key : QueryKey)
  | writeAttribute (key : QueryKey) (value : UInt64)
  | readFlag (key : QueryKey)
  | setFlag (key : QueryKey)
  | clearFlag (key : QueryKey)
  | toggleFlag (key : QueryKey)
deriving DecidableEq

open Function in
/-- One register of one side. -/
def Registers.set (device : Registers) (side : Side)
    (attrSel value : UInt32) : Registers :=
  update device side (update (device side) attrSel value)

open Function in
/-- What a command does to the store. -/
def UfsCommand.apply : UfsCommand → UfsStore → UfsStore
  | .dmeSet side attrSel value, s =>
      { s with register := s.register.set side attrSel value }
  | .writeAttribute key value, s =>
      { s with attr := update s.attr key value }
  | .setFlag key, s => { s with flag := update s.flag key true }
  | .clearFlag key, s => { s with flag := update s.flag key false }
  | .toggleFlag key, s => { s with flag := update s.flag key (!s.flag key) }
  | .dmeGet _ _, s | .readDescriptor _, s | .readAttribute _, s
  | .readFlag _, s => s

/-! The bytes of a request. -/

/-- The DME commands; the attributes are set with the type `NORMAL`, which is
zero. -/
def dmeDecode (cmd : UicCommand) : Option UfsCommand :=
  if cmd.command = 0x01 then some (.dmeGet .localSide cmd.argument1)
  else if cmd.command = 0x03 then some (.dmeGet .peerSide cmd.argument1)
  else if cmd.argument2 ≠ 0 then none
  else if cmd.command = 0x02 then
    some (.dmeSet .localSide cmd.argument1 cmd.argument3)
  else if cmd.command = 0x04 then
    some (.dmeSet .peerSide cmd.argument1 cmd.argument3)
  else none

/-- The queries of the read function. -/
def readDecode (opcode : UInt8) (key : QueryKey) : Option UfsCommand :=
  if opcode = 1 then some (.readDescriptor key)
  else if opcode = 3 then some (.readAttribute key)
  else if opcode = 5 then some (.readFlag key)
  else none

/-- The queries of the write function. -/
def writeDecode (opcode : UInt8) (key : QueryKey) (value : UInt64) :
    Option UfsCommand :=
  if opcode = 4 then some (.writeAttribute key value)
  else if opcode = 6 then some (.setFlag key)
  else if opcode = 7 then some (.clearFlag key)
  else if opcode = 8 then some (.toggleFlag key)
  else none

/-- The query function is in the third byte of the second dword. -/
def queryDecode (block : UtpUpiuReq) : Option UfsCommand :=
  let key : QueryKey :=
    ⟨byte block idnAt, byte block indexAt, byte block selectorAt⟩
  if loadBe32 block dword1At = 0x00010000 then
    readDecode (byte block opcodeAt) key
  else if loadBe32 block dword1At = 0x00810000 then
    writeDecode (byte block opcodeAt) key (loadBe64 block attrValueAt)
  else none

/-- A request says by its message code which of its views counts. -/
def requestDecode (request : UfsBsgRequest) : Option UfsCommand :=
  if request.msgcode = upiuTransactionUicCmd then
    dmeDecode (uicCommandOf request.upiuReq)
  else if request.msgcode = utpUpiuQueryReq then
    queryDecode request.upiuReq
  else none

/-- The command of a system call. -/
def commandOf : SysCall → Option UfsCommand
  | .ioctl _ sgIo => requestDecode sgIo.request
  | _ => none

/-! The command of an operation. -/

/-- Each operand is narrowed to its byte. -/
def QueryOperation.key (qop : QueryOperation) : QueryKey :=
  ⟨UInt8.ofInt qop.idn, UInt8.ofInt qop.index, UInt8.ofInt qop.selector⟩

/-- What a query operation asks for. -/
def QueryOperation.ufsCommand (qop : QueryOperation) : UfsCommand :=
  if qop.opcode = queryReqOpReadDesc then .readDescriptor qop.key
  else if qop.opcode = queryReqOpReadAttr then .readAttribute qop.key
  else if qop.opcode = queryReqOpWriteAttr then
    .writeAttribute qop.key qop.attrValue
  else if qop.opcode = queryReqOpReadFlag then .readFlag qop.key
  else if qop.opcode = queryReqOpSetFlag then .setFlag qop.key
  else if qop.opcode = queryReqOpClearFlag then .clearFlag qop.key
  else .toggleFlag qop.key

/-- What a UIC operation asks for. -/
def UicOperation.ufsCommand (uop : UicOperation) : UfsCommand :=
  if uop.mode = some .get then .dmeGet uop.side uop.attrSel
  else .dmeSet uop.side uop.attrSel uop.data

/-- What an operation asks for. -/
def OperationType.command (type : OperationType) (op : LsufsOperation) :
    UfsCommand :=
  match type with
  | .uic => op.uicOp.ufsCommand
  | .query => op.queryOp.ufsCommand

theorem requestDecode_uicRequest (cmd : UicCommand) :
    requestDecode (uicRequest cmd) = dmeDecode cmd := by
  rw [requestDecode, uicCommandOf_uicRequest]
  exact if_pos rfl

/-- The command of a UIC operation is back from its bytes. -/
theorem dmeDecode_sent (uop : UicOperation) :
    dmeDecode uop.sent = some uop.ufsCommand := by
  rw [UicOperation.sent, UicOperation.ufsCommand]
  split_ifs
  · cases uop.side <;> rfl
  · cases uop.side <;> rfl

theorem functionWord_querySent (qop : QueryOperation) (bufLen : UInt16) :
    loadBe32 (querySent qop bufLen).upiuReq dword1At =
      if isReadOpcode qop.opcode then 0x00010000 else 0x00810000 := by
  rw [loadBe32_querySent qop bufLen (by decide), (loadBe32_queryHeader _ _).1]
  cases isReadOpcode qop.opcode <;> rfl

theorem decode_of_supported {qop : QueryOperation} (value : UInt64)
    (hop : SupportedOpcode qop.opcode) :
    (if isReadOpcode qop.opcode then
      readDecode (UInt8.ofInt qop.opcode) qop.key
    else writeDecode (UInt8.ofInt qop.opcode) qop.key value) =
      some ({ qop with attrValue := value } : QueryOperation).ufsCommand := by
  simp only [QueryOperation.ufsCommand]
  rcases hop with h | h | h | h | h | h | h <;> rw [h] <;> rfl

/-- Only the write of an attribute has a value. -/
theorem ufsCommand_withValue {qop : QueryOperation} {value : UInt64}
    (h : qop.opcode = queryReqOpWriteAttr → value = qop.attrValue) :
    ({ qop with attrValue := value } : QueryOperation).ufsCommand =
      qop.ufsCommand := by
  by_cases hwrite : qop.opcode = queryReqOpWriteAttr
  · rw [h hwrite]
  · simp only [QueryOperation.ufsCommand, if_neg hwrite, QueryOperation.key]

/-- The command of a query operation is back from its bytes. -/
theorem queryDecode_querySent {qop : QueryOperation} (bufLen : UInt16)
    (hop : SupportedOpcode qop.opcode) :
    queryDecode (querySent qop bufLen).upiuReq = some qop.ufsCommand := by
  obtain ⟨hopcode, hidn, hindex, hselector⟩ := byte_querySent qop bufLen
  have hvalue := ufsCommand_withValue fun h : qop.opcode =
    queryReqOpWriteAttr => loadBe64_querySent h bufLen
  rw [queryDecode, hopcode, hidn, hindex, hselector, functionWord_querySent,
    ← hvalue, ← decode_of_supported _ hop]
  cases isReadOpcode qop.opcode <;> rfl

/-- Whatever an operation sends decodes to what the operation asks for. -/
theorem commandOf_request {type : OperationType} {op : LsufsOperation}
    (hsends : type.Sends op) (fd : Int) :
    commandOf (type.request op fd) = some (type.command op) := by
  cases type with
  | uic =>
      have hrequest : commandOf (OperationType.uic.request op fd) =
          requestDecode (uicRequest op.uicOp.sent) := rfl
      rw [hrequest, requestDecode_uicRequest]
      exact dmeDecode_sent op.uicOp
  | query =>
      have hrequest : commandOf (OperationType.query.request op fd) =
          requestDecode (querySent op.queryOp
            (queryBufLen op.queryOp.opcode)) := rfl
      have hcode : (querySent op.queryOp
          (queryBufLen op.queryOp.opcode)).msgcode = utpUpiuQueryReq := rfl
      have hother : utpUpiuQueryReq ≠ upiuTransactionUicCmd := by decide
      rw [hrequest, requestDecode, hcode, if_neg hother, if_pos rfl]
      exact queryDecode_querySent _ hsends

/-! The device. -/

/-- What the reply to a command shows of the store. -/
def UfsCommand.Shown (s : UfsStore) (r : SysReply) : UfsCommand → Prop
  | .dmeGet side attrSel =>
      ¬ UicFailed r ∧ registerValue r = s.register side attrSel
  | .dmeSet _ _ value => SetDone value r
  | .readDescriptor key => bsgStatus r = success ∧
      (dataSegLen r).toNat = (s.descriptor key).val.length ∧
        r.data = (s.descriptor key).val
  | .readAttribute key => bsgStatus r = success ∧
      loadBe64 r.bsgReply.upiuRsp attrValueAt = s.attr key
  | .readFlag key => bsgStatus r = success ∧
      loadBe32 r.bsgReply.upiuRsp valueAt &&& 0x1 = if s.flag key then 1 else 0
  | .writeAttribute _ _ | .setFlag _ | .clearFlag _ | .toggleFlag _ =>
      bsgStatus r = success

/-- A device behind the BSG node that keeps a store, and does what the bytes of
a request ask for. -/
structure UfsDevice (D : Type) extends Host D where
  store : D → UfsStore
  keeps : ∀ d call, commandOf call = none →
    store (device.next d call) = store d
  applies : ∀ d call cmd, commandOf call = some cmd →
    store (device.next d call) = cmd.apply (store d)
  replies : ∀ d call cmd, commandOf call = some cmd →
    cmd.Shown (store d) (device.answer d call)

/-- A reply to a query, with the block of its response. -/
def queryReply (upiuRsp : UtpUpiuReq) (data : List UInt8) : SysReply :=
  { bsgReply := { upiuRsp := upiuRsp }, data := data }

/-- What a set is given comes back, as a read value does. -/
def UfsCommand.reply (s : UfsStore) : UfsCommand → SysReply
  | .dmeGet side attrSel => registerReply (s.register side attrSel)
  | .dmeSet _ _ value => registerReply value
  | .readDescriptor key => queryReply (storeBe32 (Vector.replicate 32 0)
      dword2At (UInt32.ofNat (s.descriptor key).val.length))
      (s.descriptor key).val
  | .readAttribute key => queryReply
      (storeBe64 (Vector.replicate 32 0) attrValueAt (s.attr key)) []
  | .readFlag key => queryReply (storeBe32 (Vector.replicate 32 0) valueAt
      (if s.flag key then 1 else 0)) []
  | .writeAttribute _ _ | .setFlag _ | .clearFlag _ | .toggleFlag _ => {}

theorem uicReplyOf_registerReply (value : UInt32) :
    uicReplyOf (registerReply value) = { argument3 := value } :=
  uicCommandOf_uicRequest _

theorem not_failed_registerReply (value : UInt32) :
    ¬ UicFailed (registerReply value) ∧
      registerValue (registerReply value) = value := by
  have hreply := uicReplyOf_registerReply value
  constructor
  · rw [UicFailed, configResultCode, hreply]
    rintro (hstatus | hcode)
    · exact hstatus rfl
    · exact hcode (by decide :
        ((0 : UInt32) &&& maskUicConfigResultCode).toUInt8 = 0)
  · rw [registerValue, hreply]

theorem UfsCommand.reply_shown (cmd : UfsCommand) (s : UfsStore) :
    cmd.Shown s (cmd.reply s) := by
  cases cmd with
  | dmeGet side attrSel => exact not_failed_registerReply _
  | readDescriptor key =>
      refine ⟨rfl, ?_, rfl⟩
      have hlength := (s.descriptor key).property
      have hload : loadBe32 (storeBe32 (Vector.replicate 32 0) dword2At
          (UInt32.ofNat (s.descriptor key).val.length)) dword2At =
            UInt32.ofNat (s.descriptor key).val.length :=
        loadBe32_storeBe32 (by decide)
      rw [reply, dataSegLen, queryReply, hload]
      have hmask : maskQueryDataSegLen.toNat = 2 ^ 16 - 1 := rfl
      rw [UInt32.toNat_toUInt16, UInt32.toNat_and, hmask,
        Nat.and_two_pow_sub_one_eq_mod, UInt32.toNat_ofNat']
      omega
  | readAttribute key =>
      exact ⟨rfl, loadBe64_storeBe64 (by decide)⟩
  | readFlag key =>
      refine ⟨rfl, ?_⟩
      rw [reply, queryReply, loadBe32_storeBe32 (by decide)]
      cases s.flag key <;> rfl
  | dmeSet side attrSel value =>
      obtain ⟨hok, hvalue⟩ := not_failed_registerReply value
      exact ⟨hok, fun herror => hvalue ▸ herror⟩
  | _ => exact rfl

/-- The store as a device of its own. -/
def storeDevice : UfsDevice UfsStore where
  device :=
    { answer := fun s call => (commandOf call).elim { ret := 3 } (·.reply s)
      next := fun s call => (commandOf call).elim s (·.apply s) }
  opens := by simp [commandOf]
  allocates := by simp [commandOf]
  aligns := by simp [commandOf]
  creates := by simp [commandOf]
  writes := by simp [commandOf]
  reads := by simp [commandOf]
  store s := s
  keeps := by
    intro s call hnone
    simp [hnone]
  applies := by
    intro s call cmd hcmd
    simp [hcmd]
  replies := by
    intro s call cmd hcmd
    simp only [hcmd, Option.elim_some]
    exact cmd.reply_shown s

/-! What the user is shown of a store. -/

/-- The line that shows an attribute. -/
def attributeNote (qop : QueryOperation) (value : UInt64) : Note :=
  printf (lit "Attribute IDN 0x" ++ intHex qop.idn ++ lit " - " ++
    qop.name ufsAttributes ++ lit ", Index 0x" ++ intHex qop.index ++
    lit " : 0x" ++ showHex value.toNat ++ lit "\n")

/-- The line that shows a flag. -/
def flagNote (qop : QueryOperation) (flag : Bool) : Note :=
  printf (lit "Flag IDN 0x" ++ intHex qop.idn ++ lit " - " ++
    qop.name ufsFlags ++ lit ", Index 0x" ++ intHex qop.index ++
    lit " : " ++ (if flag then lit "1" else lit "0") ++ lit "\n")

/-- A query that went through and has nothing to show. -/
def queryDone : QueryResult := ⟨success, 0, {}⟩

/-- What a query operation prints, by the store. -/
def queryOutput (qop : QueryOperation) (s : UfsStore) : List Note :=
  if qop.opcode = queryReqOpReadDesc then
    let bytes := (s.descriptor qop.key).val
    descriptorNotes qop (fun i => bytes.getD i 0) bytes.length
  else if qop.opcode = queryReqOpReadAttr then
    [attributeNote qop (s.attr qop.key)]
  else if qop.opcode = queryReqOpWriteAttr then
    writeAttributeReport qop queryDone
  else if qop.opcode = queryReqOpReadFlag then
    [flagNote qop (s.flag qop.key)]
  else manipulateFlagReport qop queryDone

/-- What a UIC operation prints, by the store. -/
def uicOutput (uop : UicOperation) (s : UfsStore) : List Note :=
  if uop.mode = some .get then
    [uicGetNote uop (signed (s.register uop.side uop.attrSel))]
  else [uicSetNote uop success]

/-- What an operation prints, by the store. -/
def OperationType.output (type : OperationType) (op : LsufsOperation)
    (s : UfsStore) : List Note :=
  match type with
  | .uic => uicOutput op.uicOp s
  | .query => queryOutput op.queryOp s

/-- The number of a register is mistaken for a failure if it is `ERROR`. -/
def UfsCommand.status (s : UfsStore) : UfsCommand → Int
  | .dmeGet side attrSel =>
      if (s.register side attrSel).toNat = 0xFFFFFFFE then error else success
  | _ => success

/-- A set whose number is not taken for a failure where it comes back. -/
def UfsCommand.Settable : UfsCommand → Prop
  | .dmeSet _ _ value => value.toNat ≠ 0xFFFFFFFE
  | _ => True

theorem uic_reports {op : LsufsOperation} {s : UfsStore} {r : SysReply}
    (hsettable : op.uicOp.ufsCommand.Settable)
    (hshown : op.uicOp.ufsCommand.Shown s r) :
    OperationType.uic.report op r = uicOutput op.uicOp s ∧
      uicSetStatus r = op.uicOp.ufsCommand.status s := by
  rw [UicOperation.ufsCommand] at hsettable hshown ⊢
  rw [OperationType.report, uicOutput]
  by_cases hget : op.uicOp.mode = some .get
  · simp only [if_pos hget] at hshown ⊢
    obtain ⟨hok, hvalue⟩ := hshown
    have hread : uicStatus r = signed (registerValue r) := if_neg hok
    have hstatus := uicSetStatus_ne_success_iff r
    rw [or_iff_right hok, hvalue] at hstatus
    rw [uicNotes_of_not_failed hok, hread, hvalue, UfsCommand.status]
    refine ⟨rfl, ?_⟩
    split_ifs with herror
    · have hne := hstatus.mpr herror
      rw [uicSetStatus] at hne ⊢
      split_ifs at hne ⊢ with hret
      · exact hret
      · exact absurd rfl hne
    · exact not_not.mp fun hne => herror (hstatus.mp hne)
  · simp only [if_neg hget] at hsettable hshown ⊢
    have hset : uicSetStatus r = success := SetDone.status hshown hsettable
    have hne : uicStatus r ≠ error := by
      intro herror
      rw [uicSetStatus, if_pos herror, herror] at hset
      exact absurd hset (by decide)
    rw [uicNotes_of_not_failed hshown.1, uicSetNote, uicSetNote, if_neg hne]
    exact ⟨rfl, hset⟩

theorem descriptor_reports {qop : QueryOperation} {s : UfsStore}
    {r : SysReply} (hstatus : bsgStatus r = success)
    (hlength : (dataSegLen r).toNat = (s.descriptor qop.key).val.length)
    (hdata : r.data = (s.descriptor qop.key).val) :
    readDescriptorReport qop
        (queryResult (UInt16.ofNat descriptorBufferSize) r) =
      descriptorNotes qop (fun i => (s.descriptor qop.key).val.getD i 0)
        (s.descriptor qop.key).val.length := by
  have hshort : r.data.take descriptorBufferSize = r.data := by
    have hsize : descriptorBufferSize = 256 := rfl
    have hbytes := (s.descriptor qop.key).property
    rw [← hdata] at hbytes
    exact List.take_of_length_le (by omega)
  have hread : byte (received (Vector.replicate _ 0)
      (UInt16.ofNat descriptorBufferSize) r) =
        fun i => (s.descriptor qop.key).val.getD i 0 := by
    funext i
    rw [byte_received_zero, hshort, hdata]
  have hzero : bsgStatus r = 0 := hstatus
  simp only [readDescriptorReport, queryResult, hzero, ne_eq,
    not_true_eq_false, if_false, hread, hlength]

theorem attribute_reports (qop : QueryOperation) (bufLen : UInt16)
    {r : SysReply} (hstatus : bsgStatus r = 0) :
    readAttributeReport qop (queryResult bufLen r) =
      [attributeNote qop (loadBe64 r.bsgReply.upiuRsp attrValueAt)] := by
  simp only [readAttributeReport, queryResult, hstatus]
  rfl

theorem flag_reports (qop : QueryOperation) (bufLen : UInt16) {r : SysReply}
    {flag : Bool} (hstatus : bsgStatus r = 0)
    (hflag : loadBe32 r.bsgReply.upiuRsp valueAt &&& 0x1 =
      if flag then 1 else 0) :
    readFlagReport qop (queryResult bufLen r) = [flagNote qop flag] := by
  simp only [readFlagReport, queryResult, hstatus, hflag]
  cases flag <;> rfl

/-- The other reports look at the return value only. -/
theorem done_reports (qop : QueryOperation) (bufLen : UInt16) {r : SysReply}
    (hstatus : bsgStatus r = 0) :
    writeAttributeReport qop (queryResult bufLen r) =
        writeAttributeReport qop queryDone ∧
      manipulateFlagReport qop (queryResult bufLen r) =
        manipulateFlagReport qop queryDone := by
  simp only [writeAttributeReport, manipulateFlagReport, queryResult, hstatus]
  exact ⟨rfl, rfl⟩

theorem status_of_shown {qop : QueryOperation} {s : UfsStore} {r : SysReply}
    (hshown : qop.ufsCommand.Shown s r) :
    bsgStatus r = success ∧ qop.ufsCommand.status s = success := by
  rw [QueryOperation.ufsCommand] at hshown ⊢
  split_ifs at hshown ⊢
  · exact ⟨hshown.1, rfl⟩
  · exact ⟨hshown.1, rfl⟩
  · exact ⟨hshown, rfl⟩
  · exact ⟨hshown.1, rfl⟩
  · exact ⟨hshown, rfl⟩
  · exact ⟨hshown, rfl⟩
  · exact ⟨hshown, rfl⟩

theorem query_reports {op : LsufsOperation} {s : UfsStore} {r : SysReply}
    (hshown : op.queryOp.ufsCommand.Shown s r) :
    OperationType.query.report op r = queryOutput op.queryOp s ∧
      bsgStatus r = op.queryOp.ufsCommand.status s := by
  obtain ⟨hstatus, hsame⟩ := status_of_shown hshown
  refine ⟨?_, hstatus.trans hsame.symm⟩
  obtain ⟨hwritten, hchanged⟩ := done_reports op.queryOp
    (queryBufLen op.queryOp.opcode) hstatus
  rw [OperationType.report, queryNotes_of_success hstatus, List.nil_append,
    queryReport, queryOutput]
  rw [QueryOperation.ufsCommand] at hshown
  split_ifs at hshown ⊢ with hdesc hattr hwrite hflag hset hclear
  · rw [queryBufLen, if_pos hdesc]
    exact descriptor_reports hstatus hshown.2.1 hshown.2.2
  · rw [attribute_reports _ _ hstatus, hshown.2]
  · exact hwritten
  · exact flag_reports _ _ hstatus hshown.2
  · exact hchanged
  · exact hchanged
  · exact hchanged

/-- What an operation says of a reply, and what it returns, is in the store. -/
theorem operation_reports {type : OperationType} {op : LsufsOperation}
    {s : UfsStore} {r : SysReply} (hsettable : (type.command op).Settable)
    (hshown : (type.command op).Shown s r) :
    type.report op r = type.output op s ∧
      type.status r = (type.command op).status s := by
  cases type with
  | uic => exact uic_reports hsettable hshown
  | query => exact query_reports hshown

end UfsTools
