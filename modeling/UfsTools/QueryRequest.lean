/-
From an accepted `lsufs query` command line to the request it sends: what the
option handlers let through, and what the block of bytes decodes to.
-/
import UfsTools.QueryOutcome

namespace UfsTools

open CLib Getopt ByteCodec Process

variable {S : Type}

/-! What the option parser accepts. -/

/-- Still `INIT`, or a number the command line gave. -/
def GivenOrInit (x : Int) : Prop := x = init ∨ 0 ≤ x ∧ x ≤ intMax

structure OperandsGiven (qop : QueryOperation) : Prop where
  opcode : GivenOrInit qop.opcode
  idn : GivenOrInit qop.idn
  index : GivenOrInit qop.index
  selector : GivenOrInit qop.selector

theorem initAttrValue_ok {optarg : Text} {op op' : LsufsOperation}
    (h : initAttrValue optarg op = .ok op') :
    ∃ value, op' = { op with queryOp :=
      { op.queryOp with attrValue := value } } := by
  simp only [initAttrValue] at h
  split at h
  · contradiction
  · exact ⟨_, (Except.ok.inj h).symm⟩

theorem initOpcode_ok {optarg : Text} {op op' : LsufsOperation}
    (h : initOpcode optarg op = .ok op') :
    ∃ opcode, 0 ≤ opcode ∧ opcode ≤ intMax ∧ op' = { op with queryOp :=
      { op.queryOp with opcode := opcode } } := by
  simp only [initOpcode] at h
  split at h
  · contradiction
  · next opcode hopcode =>
      obtain ⟨hlo, hhi⟩ := getValueFromCli_range hopcode
      split at h
      · contradiction
      · exact ⟨opcode, hlo, hhi, (Except.ok.inj h).symm⟩

theorem initOperationPath_ok {optarg : Text} {op op' : LsufsOperation}
    (h : initOperationPath optarg op = .ok op') :
    ∃ path, op' = { op with devicePath := path } := by
  simp only [initOperationPath] at h
  split at h
  · contradiction
  · exact ⟨_, (Except.ok.inj h).symm⟩

theorem setupQueryOption_given (op : LsufsOperation) (o : Occurrence)
    (op' : LsufsOperation) (hop : OperandsGiven op.queryOp)
    (h : setupQueryOption op o = .ok op') : OperandsGiven op'.queryOp := by
  simp only [setupQueryOption] at h
  split at h
  · obtain ⟨opcode, hlo, hhi, rfl⟩ := initOpcode_ok h
    exact { hop with opcode := .inr ⟨hlo, hhi⟩ }
  · obtain ⟨idn, hlo, hhi, rfl⟩ := initValue_ok h
    exact { hop with idn := .inr ⟨hlo, hhi⟩ }
  · obtain ⟨index, hlo, hhi, rfl⟩ := initValue_ok h
    exact { hop with index := .inr ⟨hlo, hhi⟩ }
  · obtain ⟨selector, hlo, hhi, rfl⟩ := initValue_ok h
    exact { hop with selector := .inr ⟨hlo, hhi⟩ }
  · obtain ⟨value, rfl⟩ := initAttrValue_ok h
    exact { hop with }
  · obtain ⟨path, rfl⟩ := initOperationPath_ok h
    exact hop
  · contradiction

theorem setupQueryOperation_given {argv : List Text} {op op' : LsufsOperation}
    (hop : OperandsGiven op.queryOp)
    (h : setupQueryOperation argv op = .ok op') : OperandsGiven op'.queryOp := by
  simp only [setupQueryOperation] at h
  split at h
  · contradiction
  · exact optionLoop_preserves setupQueryOption_given hop h

/-- The operands of an accepted command line, which the checks bound from
below only. -/
structure OperandsAccepted (qop : QueryOperation) : Prop where
  opcode : 0 ≤ qop.opcode
  idn : 0 ≤ qop.idn
  index : 0 ≤ qop.index
  selector : 0 ≤ qop.selector

theorem initQueryOperation_accepted {argv : List Text}
    {op₀ op : LsufsOperation} (h : initQueryOperation argv op₀ = .ok op) :
    OperandsAccepted op.queryOp := by
  obtain ⟨op', hsetup, hcheck⟩ : ∃ op',
      setupQueryOperation argv { op₀ with
        queryOp := { func := op₀.queryOp.func }, devicePath := [] } = .ok op' ∧
      queryOpSanityCheck op' = .ok op := by
    simp only [initQueryOperation, bind, Except.bind] at h
    split at h
    · contradiction
    · next op' hsetup => exact ⟨op', hsetup, h⟩
  have hgiven := setupQueryOperation_given (by constructor <;> exact .inl rfl)
    hsetup
  simp only [queryOpSanityCheck, reject] at hcheck
  split_ifs at hcheck with hpath hopcode hvalue hidn hindex hselector
  obtain rfl := Except.ok.inj hcheck
  exact {
    opcode := (hgiven.opcode.resolve_left hopcode).1
    idn := (hgiven.idn.resolve_left hidn).1
    index := (hgiven.index.resolve_left hindex).1
    selector := (hgiven.selector.resolve_left hselector).1 }

/-! What the block decodes to. -/

/-- Read at the offsets of the two struct views, the request is the operation
that was asked for. -/
structure RequestFaithful (qop : QueryOperation) (request : UfsBsgRequest) :
    Prop where
  opcode : ((byte request.upiuReq opcodeAt).toNat : Int) = qop.opcode
  idn : ((byte request.upiuReq idnAt).toNat : Int) = qop.idn
  index : ((byte request.upiuReq indexAt).toNat : Int) = qop.index
  selector : ((byte request.upiuReq selectorAt).toNat : Int) = qop.selector
  function : loadBe32 request.upiuReq dword1At =
    if isReadOpcode qop.opcode then 0x00010000 else 0x00810000
  segment : loadBe32 request.upiuReq dword2At =
    (queryBufLen qop.opcode).toUInt32
  value : qop.opcode = queryReqOpWriteAttr →
    loadBe64 request.upiuReq attrValueAt = qop.attrValue

/-- Three of the operands fit the byte they travel in. -/
def FitsBytes (qop : QueryOperation) : Prop :=
  qop.idn < 256 ∧ qop.index < 256 ∧ qop.selector < 256

instance (qop : QueryOperation) : Decidable (FitsBytes qop) :=
  inferInstanceAs (Decidable (_ ∧ _))

/-- The descriptor length and the attribute value lie behind the selector. -/
theorem load_composeUfsBsgReq (qop : QueryOperation) (bufLen : UInt16)
    {offset width : Nat} (h : offset + width ≤ attrValueAt) :
    load (composeUfsBsgReq qop bufLen).upiuReq offset width =
      load (queryOperands (queryHeader qop.func bufLen) qop) offset width := by
  have hlength : offset + width ≤ lengthAt :=
    h.trans (by decide : attrValueAt ≤ lengthAt)
  simp only [composeUfsBsgReq]
  split_ifs
  · rw [storeBe16, load_store_disjoint (.inl hlength)]
  · rw [storeBe64, load_store_disjoint (.inl h)]
  · rfl

/-- The operand bytes lie behind the header. -/
theorem load_queryOperands (block : UtpUpiuReq) (qop : QueryOperation)
    {offset width : Nat} (h : offset + width ≤ opcodeAt) :
    load (queryOperands block qop) offset width = load block offset width := by
  have hbehind : ∀ other, opcodeAt ≤ other → offset + width ≤ other :=
    fun other hother => h.trans hother
  simp only [queryOperands, storeU8]
  rw [load_store_disjoint (.inl (hbehind _ (by decide))),
    load_store_disjoint (.inl (hbehind _ (by decide))),
    load_store_disjoint (.inl (hbehind _ (by decide))),
    load_store_disjoint (.inl (hbehind _ (by decide)))]

theorem byte_queryOperands (block : UtpUpiuReq) (qop : QueryOperation) :
    byte (queryOperands block qop) opcodeAt = UInt8.ofInt qop.opcode ∧
      byte (queryOperands block qop) idnAt = UInt8.ofInt qop.idn ∧
      byte (queryOperands block qop) indexAt = UInt8.ofInt qop.index ∧
      byte (queryOperands block qop) selectorAt =
        UInt8.ofInt qop.selector := by
  simp only [queryOperands, opcodeAt, idnAt, indexAt, selectorAt]
  simp (disch := decide) only [byte_storeU8, byte_storeU8_of_ne, and_self]

theorem toNat_ofInt_eq_iff {x : Int} (h : 0 ≤ x) :
    ((UInt8.ofInt x).toNat : Int) = x ↔ x < 256 := by
  have hnarrow : ((UInt8.ofInt x).toNat : Int) = x % 256 := by
    simp only [UInt8.ofInt, UInt8.toNat_ofNat']
    omega
  rw [hnarrow]
  constructor
  · intro hx
    rw [← hx]
    exact Int.emod_lt_of_pos x (by decide)
  · exact Int.emod_eq_of_lt h

theorem loadBe32_queryHeader (func : UInt32) (bufLen : UInt16) :
    loadBe32 (queryHeader func bufLen) dword1At = DWORD 0 func 0 0 ∧
      loadBe32 (queryHeader func bufLen) dword2At =
        DWORD 0 0 (bufLen >>> 8).toUInt32 bufLen.toUInt8.toUInt32 := by
  constructor
  · have hbehind : ∀ block x, load (storeBe32 block dword2At x) dword1At 4 =
        load block dword1At 4 := by
      intro block x
      rw [storeBe32, load_store_disjoint (.inl (by decide))]
    rw [queryHeader, loadBe32, hbehind, ← loadBe32,
      loadBe32_storeBe32 (by decide)]
  · rw [queryHeader, loadBe32_storeBe32 (by decide)]

theorem byte_composeUfsBsgReq (qop : QueryOperation) (bufLen : UInt16) :
    byte (composeUfsBsgReq qop bufLen).upiuReq opcodeAt =
        UInt8.ofInt qop.opcode ∧
      byte (composeUfsBsgReq qop bufLen).upiuReq idnAt = UInt8.ofInt qop.idn ∧
      byte (composeUfsBsgReq qop bufLen).upiuReq indexAt =
        UInt8.ofInt qop.index ∧
      byte (composeUfsBsgReq qop bufLen).upiuReq selectorAt =
        UInt8.ofInt qop.selector := by
  rw [byte_eq_of_load_eq (load_composeUfsBsgReq _ bufLen (by decide)),
    byte_eq_of_load_eq (load_composeUfsBsgReq _ bufLen (by decide)),
    byte_eq_of_load_eq (load_composeUfsBsgReq _ bufLen (by decide)),
    byte_eq_of_load_eq (load_composeUfsBsgReq _ bufLen (by decide))]
  exact byte_queryOperands _ _

theorem byte_querySent (qop : QueryOperation) (bufLen : UInt16) :
    byte (querySent qop bufLen).upiuReq opcodeAt = UInt8.ofInt qop.opcode ∧
      byte (querySent qop bufLen).upiuReq idnAt = UInt8.ofInt qop.idn ∧
      byte (querySent qop bufLen).upiuReq indexAt = UInt8.ofInt qop.index ∧
      byte (querySent qop bufLen).upiuReq selectorAt =
        UInt8.ofInt qop.selector :=
  byte_composeUfsBsgReq _ bufLen

theorem loadBe32_querySent (qop : QueryOperation) (bufLen : UInt16)
    {offset : Nat} (h : offset + 4 ≤ opcodeAt) :
    loadBe32 (querySent qop bufLen).upiuReq offset =
      loadBe32 (queryHeader (if isReadOpcode qop.opcode
        then queryReqFuncStdRead else queryReqFuncStdWrite) bufLen) offset := by
  have hvalue : offset + 4 ≤ attrValueAt :=
    h.trans (by decide : opcodeAt ≤ attrValueAt)
  rw [loadBe32, querySent, load_composeUfsBsgReq _ bufLen hvalue,
    load_queryOperands _ _ h, ← loadBe32]

theorem loadBe64_querySent {qop : QueryOperation}
    (h : qop.opcode = queryReqOpWriteAttr) (bufLen : UInt16) :
    loadBe64 (querySent qop bufLen).upiuReq attrValueAt = qop.attrValue := by
  have hdesc : ¬ qop.opcode = queryReqOpReadDesc := by rw [h]; decide
  simp only [querySent, composeUfsBsgReq, if_neg hdesc, if_pos h]
  exact loadBe64_storeBe64 (by decide)

/-- The request says what was asked for when no operand loses a bit. -/
theorem querySent_faithful_iff {qop : QueryOperation}
    (hqop : OperandsAccepted qop) (hop : SupportedOpcode qop.opcode) :
    RequestFaithful qop (querySent qop (queryBufLen qop.opcode)) ↔
      FitsBytes qop := by
  obtain ⟨hopcode, hidn, hindex, hselector⟩ :=
    byte_querySent qop (queryBufLen qop.opcode)
  constructor
  · intro hfaithful
    refine ⟨?_, ?_, ?_⟩
    · rw [← toNat_ofInt_eq_iff hqop.idn, ← hidn]
      exact hfaithful.idn
    · rw [← toNat_ofInt_eq_iff hqop.index, ← hindex]
      exact hfaithful.index
    · rw [← toNat_ofInt_eq_iff hqop.selector, ← hselector]
      exact hfaithful.selector
  · rintro ⟨hidn', hindex', hselector'⟩
    have hbyte : qop.opcode < 256 := by
      rcases hop with h | h | h | h | h | h | h <;> rw [h] <;> decide
    constructor
    · rw [hopcode]
      exact (toNat_ofInt_eq_iff hqop.opcode).mpr hbyte
    · rw [hidn]
      exact (toNat_ofInt_eq_iff hqop.idn).mpr hidn'
    · rw [hindex]
      exact (toNat_ofInt_eq_iff hqop.index).mpr hindex'
    · rw [hselector]
      exact (toNat_ofInt_eq_iff hqop.selector).mpr hselector'
    · rw [loadBe32_querySent qop _ (by decide), (loadBe32_queryHeader _ _).1]
      cases isReadOpcode qop.opcode <;> rfl
    · rw [loadBe32_querySent qop _ (by decide), (loadBe32_queryHeader _ _).2,
        queryBufLen]
      split <;> decide
    · exact fun h => loadBe64_querySent h _

/-! The run: which requests a command line leads to. -/

/-- The requests an operation hands to `ufs_bsg_io`. -/
def requestsSent (op : LsufsOperation) (replies : List SysReply) :
    List UfsBsgRequest :=
  (exchangesOf (doQueryOperation op
    (powerOn replies ())).machine.trace).map Prod.fst

theorem requestsSent_of_supported (op : LsufsOperation)
    (hop : SupportedOpcode op.queryOp.opcode) (e : Answering) :
    requestsSent op e.replies =
      [querySent op.queryOp (queryBufLen op.queryOp.opcode)] := by
  rw [requestsSent, Answering.replies, doQueryOperation_run op hop e.opens]
  simp [Result.machine, queryTrace, exchangesOf, queryIoctl, sgIoRequest]

theorem dispatchQuery_of_not_supported (op : LsufsOperation)
    (hop : ¬ SupportedOpcode op.queryOp.opcode) :
    (dispatchQuery op : Prog S Int) = (do
      note (prErr (lit "Unsupported query request type - " ++
        showInt op.queryOp.opcode ++ lit "\n"))
      pure error) := by
  simp only [SupportedOpcode, not_or] at hop
  obtain ⟨hdesc, hattr, hwrite, hflag, hset, hclear, htoggle⟩ := hop
  simp only [dispatchQuery, hdesc, hattr, hwrite, hflag, hset, hclear,
    htoggle, or_self, if_false]

theorem requestsSent_of_not_supported (op : LsufsOperation)
    (hop : ¬ SupportedOpcode op.queryOp.opcode) (replies : List SysReply) :
    requestsSent op replies = [] := by
  have hsilent : wp (doQueryOperation op)
      (fun _ m => exchangesOf m.trace = [])
      (fun _ m => exchangesOf m.trace = []) (powerOn replies ()) := by
    rw [doQueryOperation, sysCall, wp_bind]
    refine wp_exchange _ _ ?_ ?_
    · intro _
      rfl
    · intro o rest _
      by_cases hfd : o.ret < 0
      · simp [hfd, wp_bind, powerOn, exchangesOf]
      · simp only [hfd, if_false]
        rw [dispatchQuery_of_not_supported { op with fd := o.ret } hop]
        simp [wp_bind, powerOn, exchangesOf]
  rw [requestsSent, wp_machine hsilent]
  rfl

/-- An answered operation sends one request, and it is faithful. -/
def SendsFaithfully (op : LsufsOperation) : Prop :=
  ∀ e : Answering, ∃ request, requestsSent op e.replies = [request] ∧
    RequestFaithful op.queryOp request

theorem sendsFaithfully_iff {op : LsufsOperation}
    (hqop : OperandsAccepted op.queryOp)
    (hop : SupportedOpcode op.queryOp.opcode) :
    SendsFaithfully op ↔ FitsBytes op.queryOp := by
  rw [← querySent_faithful_iff hqop hop]
  constructor
  · intro hsends
    obtain ⟨request, hrequest, hfaithful⟩ :=
      hsends ⟨{ ret := 3 }, {}, [], by decide⟩
    rw [requestsSent_of_supported op hop] at hrequest
    obtain rfl := List.singleton_inj.mp hrequest
    exact hfaithful
  · exact fun hfaithful e =>
      ⟨_, requestsSent_of_supported op hop e, hfaithful⟩

/-- Opcode, IDN, index and selector. -/
def QueryOperation.operands (qop : QueryOperation) : Int × Int × Int × Int :=
  (qop.opcode, qop.idn, qop.index, qop.selector)

theorem RequestFaithful.operands_eq {left right : QueryOperation}
    {request : UfsBsgRequest} (hleft : RequestFaithful left request)
    (hright : RequestFaithful right request) :
    left.operands = right.operands := by
  simp only [QueryOperation.operands, ← hleft.opcode, ← hleft.idn,
    ← hleft.index, ← hleft.selector, ← hright.opcode, ← hright.idn,
    ← hright.index, ← hright.selector]

/-- Two accepted command lines reach the device as they were given, and apart
from each other, when their IDN, index and selector are below 256.  The parser
checks the opcode against its maximum, but not these. -/
theorem query_request_faithful_iff {argv₁ argv₂ : List Text}
    {op₀ op₁ op₂ : LsufsOperation}
    (h₁ : initQueryOperation argv₁ op₀ = .ok op₁)
    (h₂ : initQueryOperation argv₂ op₀ = .ok op₂) :
    (¬ SupportedOpcode op₁.queryOp.opcode →
      ∀ replies, requestsSent op₁ replies = []) ∧
    (SupportedOpcode op₁.queryOp.opcode → SupportedOpcode op₂.queryOp.opcode →
      ((SendsFaithfully op₁ ∧ SendsFaithfully op₂ ∧
        (op₁.queryOp.operands ≠ op₂.queryOp.operands →
          ∀ e₁ e₂ : Answering,
            requestsSent op₁ e₁.replies ≠ requestsSent op₂ e₂.replies)) ↔
      FitsBytes op₁.queryOp ∧ FitsBytes op₂.queryOp)) := by
  refine ⟨fun hop => requestsSent_of_not_supported op₁ hop, ?_⟩
  intro hop₁ hop₂
  have hiff₁ := sendsFaithfully_iff (initQueryOperation_accepted h₁) hop₁
  have hiff₂ := sendsFaithfully_iff (initQueryOperation_accepted h₂) hop₂
  rw [← hiff₁, ← hiff₂, ← and_assoc, and_iff_left_iff_imp]
  rintro ⟨hsends₁, hsends₂⟩ hdiffer e₁ e₂ hsame
  obtain ⟨request, hrequest₁, hfaithful₁⟩ := hsends₁ e₁
  obtain ⟨request', hrequest₂, hfaithful₂⟩ := hsends₂ e₂
  rw [hrequest₁, hrequest₂] at hsame
  obtain rfl := List.singleton_inj.mp hsame
  exact hdiffer (hfaithful₁.operands_eq hfaithful₂)

def attributeLine (idn : String) : List Text :=
  [lit "lsufs", lit "query", lit "-o", lit "3", lit "-i", lit idn,
   lit "-I", lit "0", lit "-s", lit "0", lit "-d", lit "/dev/ufs-bsg0"]

def attributeOperation (idn : Int) : LsufsOperation :=
  { devicePath := lit "/dev/ufs-bsg0"
    queryOp := { opcode := 3, idn := idn, index := 0, selector := 0 } }

theorem query_request_faithful_attributes :
    SendsFaithfully (attributeOperation 2) ∧
      SendsFaithfully (attributeOperation 3) ∧
      ∀ e₁ e₂ : Answering, requestsSent (attributeOperation 2) e₁.replies ≠
        requestsSent (attributeOperation 3) e₂.replies := by
  have h₁ : initQueryOperation (attributeLine "2") {} =
    .ok (attributeOperation 2) := by decide +kernel
  have h₂ : initQueryOperation (attributeLine "0x3") {} =
    .ok (attributeOperation 3) := by decide +kernel
  obtain ⟨hsends₁, hsends₂, hapart⟩ :=
    ((query_request_faithful_iff h₁ h₂).2 (by decide) (by decide)).mpr
      (by decide)
  exact ⟨hsends₁, hsends₂, hapart (by decide)⟩

/-- Reading attribute 0x102 reads attribute 2. -/
theorem attribute_0x102_read_as_2 :
    initQueryOperation (attributeLine "0x102") {} =
        .ok (attributeOperation 0x102) ∧
      initQueryOperation (attributeLine "2") {} =
        .ok (attributeOperation 2) ∧
      ∀ e : Answering, requestsSent (attributeOperation 0x102) e.replies =
        requestsSent (attributeOperation 2) e.replies := by
  refine ⟨by decide +kernel, by decide +kernel, ?_⟩
  intro e
  rw [requestsSent_of_supported _ (by decide),
    requestsSent_of_supported _ (by decide)]
  decide

end UfsTools
