/-
The values a register can be written with: which of them `lsufs uic --set`
and `lsufs query -o 4 -v` accept and send.
-/
import UfsTools.CliNumerals
import UfsTools.UicRequest
import UfsTools.QueryRequest

namespace UfsTools

open CLib Getopt ByteCodec

/-- A value as it is typed. -/
def hexOperand (v : Nat) : Text := lit "0x" ++ showHex v

/-- A handler of a number respects what its record respects. -/
theorem initValue_map {message : String} {optarg : Text}
    {record record' : Int → LsufsOperation}
    {f : LsufsOperation → LsufsOperation} {op : LsufsOperation}
    (hrecord : ∀ value, record' value = f (record value))
    (h : initValue message optarg record = .ok op) :
    initValue message optarg record' = .ok (f op) := by
  simp only [initValue] at h ⊢
  split at h
  · simp [reject] at h
  · rw [← Except.ok.inj h, hrecord]

/-! `lsufs uic --set` -/

def setValueLine (v : Nat) (rest : List Text) : List Text :=
  lit "lsufs" :: lit "uic" :: lit "--set" :: hexOperand v :: rest

/-- Operands that complete `--set`: options other than a second `--set` or a
`--get`, each accepted, with an attribute and a device among them. -/
structure UicOperands (op₀ : LsufsOperation) (rest : List Text) : Prop where
  others : ∀ o ∈ getoptLong uicShortOptions uicLongOptions rest,
    o.option ≠ 's' ∧ o.option ≠ 'g'
  accepted : ∃ op, (getoptLong uicShortOptions uicLongOptions rest).foldlM
      setupUicOption { op₀ with uicOp := {}, devicePath := [] } = .ok op ∧
    op.devicePath ≠ [] ∧ op.uicOp.attrId ≠ init

/-- The line is accepted, and the command it sends has the value. -/
def UicValueWritten (op₀ : LsufsOperation) (v : Nat) (rest : List Text) :
    Prop :=
  ∃ op entries, initUicOperation (setValueLine v rest) op₀ = .ok (op, entries) ∧
    ∀ e : Answering, ∃ request, uicRequestsSent op e.replies = [request] ∧
      (uicCommandOf request.upiuReq).argument3.toNat = v

/-- What `init_set_op` records. -/
def LsufsOperation.withSet (data : UInt32) (op : LsufsOperation) :
    LsufsOperation :=
  { op with uicOp := { op.uicOp with data := data, mode := some .set } }

theorem getoptLong_setValueLine (v : Nat) (rest : List Text) :
    getoptLong uicShortOptions uicLongOptions (setValueLine v rest).tail =
      ⟨'s', hexOperand v⟩ ::
        getoptLong uicShortOptions uicLongOptions rest := by
  have hword : longWord uicLongOptions (lit "set") = (⟨'s', []⟩, true) := by
    decide
  have hcommand : lit "uic" = 'u' :: lit "ic" := rfl
  have hset : lit "--set" = '-' :: '-' :: lit "set" := rfl
  rw [setValueLine, List.tail_cons, hcommand,
    getoptLong_operand (by decide), hset,
    getoptLong_longArg (by decide) hword]

/-- The other options neither read nor write what `--set` records. -/
theorem setupUicOption_withSet {o : Occurrence}
    (ho : o.option ≠ 's' ∧ o.option ≠ 'g') (data : UInt32)
    (op op' : LsufsOperation) (h : setupUicOption op o = .ok op') :
    setupUicOption (op.withSet data) o = .ok (op'.withSet data) := by
  simp only [setupUicOption] at h ⊢
  split at h
  · next hg => exact absurd hg ho.2
  · next hs => exact absurd hs ho.1
  · exact initValue_map (fun _ => rfl) h
  · rw [← Except.ok.inj h]
    rfl
  · rw [← Except.ok.inj h]
    rfl
  · rw [← Except.ok.inj h]
    rfl
  · rw [← Except.ok.inj h]
    rfl
  · exact initValue_map (fun _ => rfl) h
  · simp only [initOperationPath] at h ⊢
    split at h
    · contradiction
    · rw [← Except.ok.inj h]
      rfl
  · contradiction

theorem setupUicOperation_setValue (v : Nat) (rest : List Text)
    (op : LsufsOperation) :
    setupUicOperation (setValueLine v rest) op =
      (⟨'s', hexOperand v⟩ :: getoptLong uicShortOptions uicLongOptions
        rest).foldlM setupUicOption op := by
  rw [setupUicOperation, getoptLong_setValueLine]

/-- The record the line is checked with, for a value that is an `int`. -/
theorem setupUicOperation_withSet {op op' : LsufsOperation}
    {rest : List Text} {v : Nat} (hv : (v : Int) ≤ intMax)
    (hothers : ∀ o ∈ getoptLong uicShortOptions uicLongOptions rest,
      o.option ≠ 's' ∧ o.option ≠ 'g')
    (haccepted : (getoptLong uicShortOptions uicLongOptions rest).foldlM
      setupUicOption op = .ok op') :
    setupUicOperation (setValueLine v rest) op =
      .ok (op'.withSet (UInt32.ofInt v)) := by
  have hfirst : setupUicOption op ⟨'s', hexOperand v⟩ =
      .ok (op.withSet (UInt32.ofInt v)) := by
    simp only [setupUicOption, initSetOp, initValue, hexOperand,
      getValueFromCli_hex hv]
    rfl
  rw [setupUicOperation_setValue, optionLoop_cons hfirst]
  exact optionLoop_map _ (fun o ho op op' h =>
    setupUicOption_withSet (hothers o ho) _ op op' h) haccepted

theorem setupUicOperation_large {rest : List Text} {v : Nat}
    (hlow : 2 ^ 31 ≤ v) (hhigh : v < 2 ^ 32) (op : LsufsOperation) :
    setupUicOperation (setValueLine v rest) op =
      reject "UIC set needs data input.\n" := by
  have hfirst : setupUicOption op ⟨'s', hexOperand v⟩ =
      reject "UIC set needs data input.\n" := by
    simp only [setupUicOption, initSetOp, initValue, hexOperand,
      getValueFromCli_hex_large hlow hhigh]
  rw [setupUicOperation_setValue, List.foldlM_cons, hfirst]
  rfl

theorem uicOpSanityCheck_withSet {op : LsufsOperation} {data : UInt32}
    (hpath : op.devicePath ≠ []) (hattr : op.uicOp.attrId ≠ init)
    (hdata : data ≠ UInt32.ofInt init) :
    ∃ op' entries, uicOpSanityCheck (op.withSet data) = .ok (op', entries) ∧
      op'.uicOp.mode = some .set ∧ op'.uicOp.data = data := by
  simp only [uicOpSanityCheck, LsufsOperation.withSet, if_neg hpath,
    if_neg hattr, if_neg hdata, reduceCtorEq, true_and, if_false]
  exact ⟨_, _, rfl, rfl, rfl⟩

/-- A 32-bit value reaches the register if and only if it is an `int`: the
operand goes through the parser of signed numbers. -/
theorem uicValueWritten_iff {op₀ : LsufsOperation} {rest : List Text}
    (hrest : UicOperands op₀ rest) {v : Nat} (hv : v < 2 ^ 32) :
    UicValueWritten op₀ v rest ↔ v < 2 ^ 31 := by
  constructor
  · rintro ⟨op, entries, haccepted, -⟩
    by_contra hlarge
    rw [initUicOperation, setupUicOperation_large (not_lt.mp hlarge) hv]
      at haccepted
    contradiction
  · intro hsmall
    have hint : (v : Int) ≤ intMax := by
      have hmax : intMax = 2147483647 := rfl
      omega
    have hvalue : (UInt32.ofInt v).toNat = v := by
      simp only [UInt32.ofInt, UInt32.toNat_ofNat']
      omega
    have hdata : UInt32.ofInt v ≠ UInt32.ofInt init := by
      intro heq
      rw [heq] at hvalue
      have hinit : (UInt32.ofInt init).toNat = 4294967295 := by decide
      omega
    obtain ⟨op, hloop, hpath, hattr⟩ := hrest.accepted
    obtain ⟨op', entries, hcheck, hmode, hset⟩ :=
      uicOpSanityCheck_withSet hpath hattr hdata
    refine ⟨op', entries, ?_, ?_⟩
    · rw [initUicOperation,
        setupUicOperation_withSet hint hrest.others hloop]
      exact hcheck
    · intro e
      refine ⟨_, uicRequestsSent_eq (by simp [hmode]) e, ?_⟩
      rw [uicCommandOf_uicRequest]
      simp only [UicOperation.sent, hmode, Option.some.injEq, reduceCtorEq,
        if_false, uicSetCommand, hset, hvalue]

/-! `lsufs query -o 4 -v` -/

def writeAttributeLine (v : Nat) (rest : List Text) : List Text :=
  lit "lsufs" :: lit "query" :: lit "-o" :: lit "4" :: lit "-v" ::
    hexOperand v :: rest

/-- Operands that complete `-o 4 -v`: options other than these two, each
accepted, with an IDN, an index, a selector and a device among them. -/
structure QueryOperands (op₀ : LsufsOperation) (rest : List Text) : Prop where
  others : ∀ o ∈ getoptLong queryShortOptions queryLongOptions rest,
    o.option ≠ 'o' ∧ o.option ≠ 'v'
  accepted : ∃ op, (getoptLong queryShortOptions queryLongOptions rest).foldlM
      setupQueryOption { op₀ with
        queryOp := { func := op₀.queryOp.func }, devicePath := [] } = .ok op ∧
    op.devicePath ≠ [] ∧ op.queryOp.idn ≠ init ∧ op.queryOp.index ≠ init ∧
      op.queryOp.selector ≠ init

/-- The line is accepted, and the request it sends has the value. -/
def AttributeValueWritten (op₀ : LsufsOperation) (v : Nat)
    (rest : List Text) : Prop :=
  ∃ op, initQueryOperation (writeAttributeLine v rest) op₀ = .ok op ∧
    ∀ e : Answering, ∃ request, requestsSent op e.replies = [request] ∧
      (loadBe64 request.upiuReq attrValueAt).toNat = v

/-- What `-o 4` and `-v` record. -/
def LsufsOperation.withWrite (value : UInt64) (op : LsufsOperation) :
    LsufsOperation :=
  { op with queryOp := { op.queryOp with
      opcode := queryReqOpWriteAttr, attrValue := value } }

theorem getoptLong_writeAttributeLine (v : Nat) (rest : List Text) :
    getoptLong queryShortOptions queryLongOptions
        (writeAttributeLine v rest).tail =
      ⟨'o', lit "4"⟩ :: ⟨'v', hexOperand v⟩ ::
        getoptLong queryShortOptions queryLongOptions rest := by
  have hcommand : lit "query" = 'q' :: lit "uery" := rfl
  have hopcode : lit "-o" = ['-', 'o'] := rfl
  have hvalue : lit "-v" = ['-', 'v'] := rfl
  rw [writeAttributeLine, List.tail_cons, hcommand,
    getoptLong_operand (by decide), hopcode,
    getoptLong_short (by decide) (by decide), hvalue,
    getoptLong_short (by decide) (by decide)]

/-- The other options neither read nor write what these two record. -/
theorem setupQueryOption_withWrite {o : Occurrence}
    (ho : o.option ≠ 'o' ∧ o.option ≠ 'v') (value : UInt64)
    (op op' : LsufsOperation) (h : setupQueryOption op o = .ok op') :
    setupQueryOption (op.withWrite value) o = .ok (op'.withWrite value) := by
  simp only [setupQueryOption] at h ⊢
  split at h
  · next hopcode => exact absurd hopcode ho.1
  · exact initValue_map (fun _ => rfl) h
  · exact initValue_map (fun _ => rfl) h
  · exact initValue_map (fun _ => rfl) h
  · next hvalue => exact absurd hvalue ho.2
  · simp only [initOperationPath] at h ⊢
    split at h
    · contradiction
    · rw [← Except.ok.inj h]
      rfl
  · contradiction

/-- The record the line is checked with. -/
theorem setupQueryOperation_withWrite {op op' : LsufsOperation}
    {rest : List Text} {v : Nat} (hv : v < 2 ^ 64)
    (hothers : ∀ o ∈ getoptLong queryShortOptions queryLongOptions rest,
      o.option ≠ 'o' ∧ o.option ≠ 'v')
    (haccepted : (getoptLong queryShortOptions queryLongOptions rest).foldlM
      setupQueryOption op = .ok op') :
    setupQueryOperation (writeAttributeLine v rest) op =
      .ok (op'.withWrite (UInt64.ofNat v)) := by
  have hnumeral : getValueFromCli (lit "4") = some 4 := by decide +kernel
  have hopcode : setupQueryOption op ⟨'o', lit "4"⟩ = .ok { op with
      queryOp := { op.queryOp with opcode := queryReqOpWriteAttr } } := by
    simp only [setupQueryOption, initOpcode, hnumeral]
    rfl
  have hvalue : setupQueryOption { op with
      queryOp := { op.queryOp with opcode := queryReqOpWriteAttr } }
      ⟨'v', hexOperand v⟩ = .ok (op.withWrite (UInt64.ofNat v)) := by
    simp only [setupQueryOption, initAttrValue, hexOperand,
      getUllFromCli_hex_numeral hv]
    rfl
  rw [setupQueryOperation, getoptLong_writeAttributeLine]
  simp only
  rw [optionLoop_cons hopcode, optionLoop_cons hvalue]
  exact optionLoop_map _ (fun o ho op op' h =>
    setupQueryOption_withWrite (hothers o ho) _ op op' h) haccepted

theorem queryOpSanityCheck_withWrite {op : LsufsOperation} {value : UInt64}
    (hpath : op.devicePath ≠ []) (hidn : op.queryOp.idn ≠ init)
    (hindex : op.queryOp.index ≠ init)
    (hselector : op.queryOp.selector ≠ init) :
    queryOpSanityCheck (op.withWrite value) =
      if value = UInt64.ofInt init then
        reject "Query write attribute needs value input.\n"
      else .ok (op.withWrite value) := by
  have hopcode : queryReqOpWriteAttr ≠ init := by decide
  simp [queryOpSanityCheck, LsufsOperation.withWrite, hpath, hopcode, hidn,
    hindex, hselector]

/-- A 64-bit value reaches the attribute if and only if it is not the one that
marks a value not given. -/
theorem attributeValueWritten_iff {op₀ : LsufsOperation} {rest : List Text}
    (hrest : QueryOperands op₀ rest) {v : Nat} (hv : v < 2 ^ 64) :
    AttributeValueWritten op₀ v rest ↔ v ≠ 2 ^ 64 - 1 := by
  obtain ⟨op, hloop, hpath, hidn, hindex, hselector⟩ := hrest.accepted
  have hline : initQueryOperation (writeAttributeLine v rest) op₀ =
      if UInt64.ofNat v = UInt64.ofInt init then
        reject "Query write attribute needs value input.\n"
      else .ok (op.withWrite (UInt64.ofNat v)) := by
    rw [initQueryOperation,
      setupQueryOperation_withWrite hv hrest.others hloop]
    exact queryOpSanityCheck_withWrite hpath hidn hindex hselector
  have hvalue : (UInt64.ofNat v).toNat = v := by
    rw [UInt64.toNat_ofNat', Nat.mod_eq_of_lt hv]
  have hmarker : UInt64.ofNat v = UInt64.ofInt init ↔ v = 2 ^ 64 - 1 := by
    have hinit : (UInt64.ofInt init).toNat = 2 ^ 64 - 1 := by decide
    rw [← UInt64.toNat_inj, hvalue, hinit]
  rw [ne_eq, ← hmarker]
  constructor
  · rintro ⟨op', haccepted, -⟩ heq
    rw [hline, if_pos heq] at haccepted
    contradiction
  · intro hne
    refine ⟨_, hline.trans (if_neg hne), ?_⟩
    intro e
    have hsupported : SupportedOpcode queryReqOpWriteAttr := by decide
    refine ⟨_, requestsSent_of_supported _ hsupported e, ?_⟩
    rw [loadBe64_querySent (by rfl)]
    exact hvalue

/-- Whatever the other operands, `--set` writes the values below 2^31 of the
32-bit ones, and `-o 4 -v` all 64-bit values but the largest. -/
theorem registerValues_written_iff {op₀ : LsufsOperation}
    {uicRest queryRest : List Text} (huic : UicOperands op₀ uicRest)
    (hquery : QueryOperands op₀ queryRest) {v w : Nat} (hv : v < 2 ^ 32)
    (hw : w < 2 ^ 64) :
    (UicValueWritten op₀ v uicRest ↔ v < 2 ^ 31) ∧
      (AttributeValueWritten op₀ w queryRest ↔ w ≠ 2 ^ 64 - 1) :=
  ⟨uicValueWritten_iff huic hv, attributeValueWritten_iff hquery hw⟩

def enableOperands : List Text :=
  [lit "-i", lit "0x00f6", lit "--local", lit "--RX", lit "--lane", lit "0",
    lit "-d", lit "/dev/ufs-bsg0"]

def refreshOperands : List Text :=
  [lit "-i", lit "0x2d", lit "-I", lit "0", lit "-s", lit "0", lit "-d",
    lit "/dev/ufs-bsg0"]

theorem uicOperands_enable : UicOperands {} enableOperands := by
  constructor
  · decide
  · refine ⟨{ devicePath := lit "/dev/ufs-bsg0"
              uicOp := { dir := some .rx, localPeer := some .localSide,
                         lane := 0, attrId := 0xF6 } }, ?_⟩
    decide +kernel

theorem queryOperands_refresh : QueryOperands {} refreshOperands := by
  constructor
  · decide
  · refine ⟨{ devicePath := lit "/dev/ufs-bsg0"
              queryOp := { idn := 0x2D, index := 0, selector := 0 } }, ?_⟩
    decide +kernel

theorem registerValues_written_0x44 :
    (UicValueWritten {} 0x44 enableOperands ↔ 0x44 < 2 ^ 31) ∧
      (AttributeValueWritten {} 2 refreshOperands ↔ 2 ≠ 2 ^ 64 - 1) :=
  registerValues_written_iff uicOperands_enable queryOperands_refresh
    (by decide) (by decide)

/-- The help text's example, with 0x80000000 in place of 0x44. -/
theorem value_0x80000000_rejected :
    ¬ ((∀ (op₀ : LsufsOperation) (v : Nat) (rest : List Text),
        UicOperands op₀ rest → v < 2 ^ 32 → UicValueWritten op₀ v rest) ∧
      ∀ (op₀ : LsufsOperation) (v : Nat) (rest : List Text),
        QueryOperands op₀ rest → v < 2 ^ 64 →
          AttributeValueWritten op₀ v rest) := by
  rintro ⟨h, -⟩
  have hwritten := h {} 0x80000000 enableOperands uicOperands_enable
    (by decide)
  rw [uicValueWritten_iff uicOperands_enable (by decide)] at hwritten
  exact absurd hwritten (by decide)

end UfsTools
