/-
What a query comes to: the outcome `lsufs query` reports against the response
code of the reply, and the part of the descriptor buffer its printers read.
-/
import UfsTools.Query

namespace UfsTools

open CLib ByteCodec Process

variable {S : Type}

/-- The Query Response code: bits 15..8 of the second header dword. -/
def queryResponseCode (r : SysReply) : Nat :=
  (loadBe32 r.bsgReply.upiuRsp dword1At).toNat / 256 % 256

/-- Something on standard output that does not announce a failure. -/
def ReportsSuccess (notes : List Note) : Prop :=
  ∃ text, printf text ∈ notes ∧ ¬ lit "Failed to" <+: text

@[simp] theorem reportsSuccess_append (left right : List Note) :
    ReportsSuccess (left ++ right) ↔
      ReportsSuccess left ∨ ReportsSuccess right := by
  simp only [ReportsSuccess, List.mem_append, or_and_right, exists_or]

@[simp] theorem not_reportsSuccess_prErr (text : Text) :
    ¬ ReportsSuccess [prErr text] := by
  simp [ReportsSuccess, printf, prErr]

@[simp] theorem not_reportsSuccess_close (fd : Int) :
    ¬ ReportsSuccess [.close fd] := by
  simp [ReportsSuccess, printf]

theorem not_reportsSuccess_outcomeWord {ret : Int} (h : ret ≠ 0)
    (text : Text) : ¬ ReportsSuccess [printf (outcomeWord ret ++ text)] := by
  rintro ⟨shown, hshown, hprefix⟩
  simp only [printf, List.mem_singleton, Note.print.injEq, true_and] at hshown
  apply hprefix
  rw [hshown, outcomeWord, if_pos h]
  exact List.prefix_append _ _

theorem not_reportsSuccess_queryNotes (r : SysReply) :
    ¬ ReportsSuccess (queryNotes r) := by
  rintro ⟨text, hmem, -⟩
  have hnone : ∀ n ∈ queryNotes r, n ≠ printf text :=
    forall_mem_queryNotes (fun _ => nofun) (fun _ => nofun)
  exact hnone _ hmem rfl

/-- A failed operation says so, whichever it is. -/
theorem not_reportsSuccess_queryReport (qop : QueryOperation)
    {result : QueryResult} (h : result.ret ≠ 0) :
    ¬ ReportsSuccess (queryReport qop result) := by
  simp only [queryReport]
  split_ifs
  · simp [readDescriptorReport, readDescriptorFailed, h]
  · simp [readAttributeReport, h]
  · simp only [writeAttributeReport, List.append_assoc]
    exact not_reportsSuccess_outcomeWord h _
  · simp [readFlagReport, h]
  · simp only [manipulateFlagReport, List.append_assoc]
    exact not_reportsSuccess_outcomeWord h _

/-- What the caller of `send_query_command` may rely on. -/
structure SendFaithful (bufLen : UInt16) (r : SysReply)
    (result : QueryResult) : Prop where
  success_iff : result.ret = success ↔
    bsgStatus r = 0 ∧ queryResponseCode r = 0
  refused : queryResponseCode r ≠ 0 →
    result.ret ≠ success ∧ result.bufLen = bufLen

/-- What the user of a query operation may rely on. -/
structure OperationFaithful (r : SysReply) (ret : Int) (trace : Trace) :
    Prop where
  success_iff : ret = success ↔ bsgStatus r = 0 ∧ queryResponseCode r = 0
  refused : queryResponseCode r ≠ 0 →
    ret ≠ success ∧ ¬ ReportsSuccess (notesOf trace)

def queryOpenFlag (qop : QueryOperation) : OpenFlag :=
  if isReadOpcode qop.opcode then .rdonly else .rdwr

/-- The trace of a supported operation whose node opens with the reply `o`. -/
def queryTrace (op : LsufsOperation) (o r : SysReply) : Trace :=
  let bufLen := queryBufLen op.queryOp.opcode
  .call (.open op.devicePath (queryOpenFlag op.queryOp)) o ::
    .call (queryIoctl { op with fd := o.ret } bufLen) r ::
    (queryNotes r ++ queryReport op.queryOp (queryResult bufLen r) ++
      [Note.close o.ret]).map .note

theorem doQueryOperation_run (op : LsufsOperation)
    (hop : SupportedOpcode op.queryOp.opcode) {o r : SysReply}
    (hopen : 0 ≤ o.ret) (rest : List SysReply) (mem : S) :
    doQueryOperation op (powerOn (o :: r :: rest) mem) =
      .done (bsgStatus r) ⟨rest, queryTrace op o r, mem⟩ := by
  have hfd : ¬ o.ret < 0 := not_lt.mpr hopen
  have hdispatch := dispatchQuery_of_supported (S := S)
    { op with fd := o.ret } hop
  rw [queryAndReport_eq_exchange] at hdispatch
  rw [doQueryOperation, powerOn, sysCall, bind_done (exchange_run ..)]
  simp only [if_neg hfd, hdispatch]
  rw [bind_done (exchange_run ..)]
  simp [bind, note, notes, pure, queryTrace, queryOpenFlag]

theorem not_reportsSuccess_queryTrace (op : LsufsOperation) {o r : SysReply}
    (h : bsgStatus r ≠ 0) :
    ¬ ReportsSuccess (notesOf (queryTrace op o r)) := by
  have hnotes : notesOf (queryTrace op o r) = queryNotes r ++
      queryReport op.queryOp
        (queryResult (queryBufLen op.queryOp.opcode) r) ++
      [.close o.ret] := by
    simp [queryTrace]
  simp only [hnotes, reportsSuccess_append, not_or]
  refine ⟨⟨not_reportsSuccess_queryNotes r, ?_⟩, not_reportsSuccess_close _⟩
  exact not_reportsSuccess_queryReport _ (by simpa [queryResult] using h)

/-- The code reports a query faithfully unless the request got through and the
device refused it: the response code is lost in an 8-bit variable. -/
theorem query_outcome_faithful_iff (op : LsufsOperation)
    (hop : SupportedOpcode op.queryOp.opcode) (bufLen : UInt16)
    (o r : SysReply) (hopen : 0 ≤ o.ret) (rest : List SysReply) (mem : S) :
    (wp (sendQueryCommand op bufLen) (fun result _ =>
        SendFaithful bufLen r result) (fun _ _ => False)
        (powerOn (r :: rest) mem) ∧
      wp (doQueryOperation op) (fun ret m =>
        OperationFaithful r ret m.trace) (fun _ _ => False)
        (powerOn (o :: r :: rest) mem)) ↔
      bsgStatus r ≠ 0 ∨ queryResponseCode r = 0 := by
  simp only [wp, powerOn, sendQueryCommand_eq_exchange, exchange_run]
  rw [← powerOn, doQueryOperation_run op hop hopen]
  constructor
  · rintro ⟨hsend, -⟩
    by_cases hstatus : bsgStatus r = 0
    · exact .inr (hsend.success_iff.mp hstatus).2
    · exact .inl hstatus
  · intro hcond
    have hiff : bsgStatus r = success ↔
        bsgStatus r = 0 ∧ queryResponseCode r = 0 := by
      constructor
      · intro h
        exact ⟨h, hcond.resolve_left (not_not_intro h)⟩
      · exact fun h => h.1
    have hfail : queryResponseCode r ≠ 0 → bsgStatus r ≠ 0 :=
      fun hcode => hcond.resolve_right hcode
    constructor
    · refine ⟨hiff, fun hcode => ⟨hfail hcode, ?_⟩⟩
      simp only [queryResult, if_pos (hfail hcode)]
    · refine ⟨hiff, fun hcode => ⟨hfail hcode, ?_⟩⟩
      exact not_reportsSuccess_queryTrace op (hfail hcode)

def bootLunWrite : LsufsOperation :=
  { devicePath := lit "/dev/ufs-bsg0"
    queryOp := { opcode := 4, idn := 0, index := 0, selector := 0,
                 attrValue := 1 } }

/-- Transferred without an error, refused by the device. -/
def refusedReply : SysReply :=
  { bsgReply := { upiuRsp := storeU8 (Vector.replicate 32 0) 6 0xFC } }

theorem query_outcome_faithful_accepted :
    wp (sendQueryCommand bootLunWrite 0) (fun result _ =>
        SendFaithful 0 {} result) (fun _ _ => False) (powerOn [{}] ()) ∧
      wp (doQueryOperation bootLunWrite) (fun ret m =>
        OperationFaithful {} ret m.trace) (fun _ _ => False)
        (powerOn [{ ret := 3 }, {}] ()) :=
  (query_outcome_faithful_iff bootLunWrite (by decide) 0 { ret := 3 } {}
    (by decide) [] ()).mpr (by decide)

/-- The device refuses a write; the user reads that it was successful. -/
theorem refused_write_reports_success :
    bsgStatus refusedReply = 0 ∧ queryResponseCode refusedReply = 0xFC ∧
      wp (doQueryOperation bootLunWrite) (fun ret m =>
          ret = success ∧ ReportsSuccess (notesOf m.trace) ∧
            ¬ OperationFaithful refusedReply ret m.trace)
        (fun _ _ => False) (powerOn [{ ret := 3 }, refusedReply] ()) := by
  have hcode : queryResponseCode refusedReply = 0xFC := by decide
  refine ⟨by decide, hcode, ?_⟩
  rw [wp, doQueryOperation_run bootLunWrite (by decide) (by decide)]
  have hsuccess : bsgStatus refusedReply = success := by decide
  refine ⟨hsuccess, ?_, ?_⟩
  · refine ⟨lit "Successfully write Attribute IDN 0x0 - bBootLunEn, " ++
      lit "Index 0x0\n", ?_, ?_⟩ <;> decide
  · intro hfaithful
    exact (hfaithful.refused (by rw [hcode]; decide)).1 hsuccess

/-! What `do_query_read_descriptor` reads from its buffer. -/

theorem load_mem_dumpDescriptor_iff (buf : Nat → UInt8) (len i : Nat) :
    .load i ∈ dumpDescriptor buf len ↔ i < len := by
  simp [dumpDescriptor, printf]

/-- The dumps read every byte of the data segment; the field table reads
less, and never past the descriptor's own length byte. -/
theorem load_mem_descriptorNotes {qop : QueryOperation} {buf : Nat → UInt8}
    {len i : Nat} :
    (i < len → .load i ∈ descriptorNotes qop buf len) ∧
      (.load i ∈ descriptorNotes qop buf len →
        i < len ∨ i < descriptorBufferSize) := by
  simp only [descriptorNotes]
  split_ifs
  · simp only [List.mem_append, load_mem_dumpHex_iff]
    refine ⟨.inr, ?_⟩
    rintro (hmem | hlt)
    · have hlen := (buf 0).toNat_lt
      rcases load_lt_of_mem_ufsDescTranslate ufsDevDesc_readsItsField hmem
        with hi | hi
      · exact .inr (by rw [hi]; decide)
      · exact .inr (hi.trans_le ((min_le_right _ _).trans hlen.le))
    · exact .inl hlt
  · simp only [List.mem_cons, printf, reduceCtorEq, false_or,
      load_mem_dumpDescriptor_iff]
    exact ⟨id, .inl⟩

theorem load_notMem_queryNotes (r : SysReply) (i : Nat) :
    .load i ∉ queryNotes r := by
  intro hmem
  have hnone : ∀ n ∈ queryNotes r, n ≠ .load i :=
    forall_mem_queryNotes (fun _ => nofun) (fun _ => nofun)
  exact hnone _ hmem rfl

/-- What is printed once the read is through covers the data segment. -/
theorem load_mem_readDescriptorReport {qop : QueryOperation} {bufLen : UInt16}
    {r : SysReply} (h : bsgStatus r = 0) {i : Nat} :
    (i < (dataSegLen r).toNat →
        .load i ∈ readDescriptorReport qop (queryResult bufLen r)) ∧
      (.load i ∈ readDescriptorReport qop (queryResult bufLen r) →
        i < (dataSegLen r).toNat ∨ i < descriptorBufferSize) := by
  simp only [readDescriptorReport, queryResult, h, ne_eq, not_true_eq_false,
    if_false]
  exact load_mem_descriptorNotes

theorem doQueryReadDescriptor_run (op : LsufsOperation) (r : SysReply)
    (rest : List SysReply) (mem : S) :
    wp (doQueryReadDescriptor op) (fun ret m => ret = bsgStatus r ∧
        notesOf m.trace = queryNotes r ++ readDescriptorReport op.queryOp
          (queryResult (UInt16.ofNat descriptorBufferSize) r))
      (fun _ _ => False) (powerOn (r :: rest) mem) := by
  simp only [wp, powerOn, doQueryReadDescriptor, queryAndReport_eq_exchange,
    exchange_run, List.nil_append]
  simp

/-- The descriptor is printed from within its buffer exactly when the data
segment the device announces is not longer than the buffer. -/
theorem read_descriptor_inside_iff (op : LsufsOperation) (r : SysReply)
    (rest : List SysReply) (mem : S) :
    wp (doQueryReadDescriptor op) (fun _ m =>
        ∀ i, .load i ∈ notesOf m.trace → i < descriptorBufferSize)
      (fun _ _ => False) (powerOn (r :: rest) mem) ↔
      bsgStatus r ≠ 0 ∨ (dataSegLen r).toNat ≤ descriptorBufferSize := by
  have hrun := doQueryReadDescriptor_run op r rest mem
  constructor
  · intro hinside
    obtain ⟨ret, m, hdone, -, hnotes⟩ := wp_returns hrun
    have hbound := wp_done hinside hdone
    by_contra hlong
    simp only [not_or, not_not, not_le] at hlong
    -- the first byte behind the buffer is printed
    refine absurd (hbound descriptorBufferSize ?_) (lt_irrefl _)
    rw [hnotes, List.mem_append]
    exact .inr ((load_mem_readDescriptorReport hlong.1).1 hlong.2)
  · intro hcond
    apply wp_imp hrun
    rintro ret m ⟨-, hnotes⟩ i hmem
    rw [hnotes, List.mem_append] at hmem
    rcases hmem with hmem | hmem
    · exact absurd hmem (load_notMem_queryNotes r i)
    · by_cases hstatus : bsgStatus r = 0
      · have hlen := hcond.resolve_left (not_not_intro hstatus)
        rcases (load_mem_readDescriptorReport hstatus).2 hmem with hi | hi
        · exact hi.trans_le hlen
        · exact hi
      · simp [readDescriptorReport, queryResult, hstatus,
          readDescriptorFailed, prErr] at hmem

def descriptorReply (segmentLength : UInt16) : SysReply :=
  let upiuRsp := storeBe16 (Vector.replicate 32 0) 10 segmentLength
  { bsgReply := { upiuRsp := upiuRsp } }

def deviceDescriptorRead : LsufsOperation :=
  { devicePath := lit "/dev/ufs-bsg0"
    queryOp := { opcode := 1, idn := 0, index := 0, selector := 0 } }

/-- A device that announces one byte too many. -/
theorem read_descriptor_outside :
    wp (doQueryReadDescriptor deviceDescriptorRead) (fun _ m =>
        ¬ ∀ i, .load i ∈ notesOf m.trace → i < descriptorBufferSize)
      (fun _ _ => False) (powerOn [descriptorReply 257] ()) := by
  have hlen : dataSegLen (descriptorReply 257) = 257 := by decide
  have hstatus : bsgStatus (descriptorReply 257) = 0 := rfl
  apply wp_imp (doQueryReadDescriptor_run deviceDescriptorRead _ [] ())
  rintro ret m ⟨-, hnotes⟩ hinside
  refine absurd (hinside descriptorBufferSize ?_) (lt_irrefl _)
  rw [hnotes, List.mem_append]
  refine .inr ((load_mem_readDescriptorReport hstatus).1 ?_)
  rw [hlen]
  decide

end UfsTools
