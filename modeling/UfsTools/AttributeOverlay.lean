/-
The two views of a query request that overlap: the packed one with an attribute
value of 64 bits, and the one with 16-bit fields and a value of 32 bits.
-/
import UfsTools.QueryRequest

namespace UfsTools

open CLib ByteCodec Process

/-- `reserved_osf` in `utp_upiu_query`. -/
def reservedOsfAt : Nat := 16

/-- The bytes of `utp_upiu_query` in a block. -/
def queryPart (block : UtpUpiuReq) : List UInt8 := load block opcodeAt 20

def writeAttr (func : UInt32) (v : UInt64) (idn index selector : UInt8) :
    QueryOperation where
  func := func
  opcode := queryReqOpWriteAttr
  idn := idn.toNat
  index := index.toNat
  selector := selector.toNat
  attrValue := v

/-- The 64 bits of the packed view and the fields of the other one that lie over
them: two of 16 bits and one of 32. -/
structure Shared (v : UInt64) (block : UtpUpiuReq) : Prop where
  attrValue : loadBe64 block attrValueAt = v
  reservedOsf : (loadBe16 block reservedOsfAt).toNat = v.toNat / 2 ^ 48
  length : (loadBe16 block lengthAt).toNat = v.toNat / 2 ^ 32 % 2 ^ 16
  value : (loadBe32 block valueAt).toNat = v.toNat % 2 ^ 32
  small : v.toNat < 2 ^ 32 →
    (loadBe32 block valueAt).toNat = (loadBe64 block attrValueAt).toNat ∧
      loadBe16 block lengthAt = 0

/-- The bytes in front of them. -/
structure Overlaid (v : UInt64) (idn index selector : UInt8)
    (block : UtpUpiuReq) : Prop extends Shared v block where
  opcode : ((byte block opcodeAt).toNat : Int) = queryReqOpWriteAttr
  idn : byte block idnAt = idn
  index : byte block indexAt = index
  selector : byte block selectorAt = selector

variable (func : UInt32) (length : UInt16) (v : UInt64)
  (idn index selector : UInt8)

theorem load_writeAttr :
    load (composeUfsBsgReq (writeAttr func v idn index selector)
      length).upiuReq attrValueAt 8 = bigEndian 8 v.toNat := by
  have hdesc : ¬ queryReqOpWriteAttr = queryReqOpReadDesc := by decide
  simp only [composeUfsBsgReq, writeAttr, if_neg hdesc, if_true, storeBe64]
  exact load_store_bigEndian (by decide)

theorem ofInt_byte (b : UInt8) : UInt8.ofInt b.toNat = b := by
  rw [← UInt8.toNat_inj, ← Int.natCast_inj,
    toNat_ofInt_eq_iff (Int.natCast_nonneg _)]
  exact_mod_cast b.toNat_lt

theorem toNat_loadBe16 {block : UtpUpiuReq} {offset x : Nat}
    (h : load block offset 2 = bigEndian 2 x) :
    (loadBe16 block offset).toNat = x % 2 ^ 16 := by
  simp only [loadBe16, h, bigEndianValue_bigEndian, UInt16.toNat_ofNat']
  omega

theorem toNat_loadBe32 {block : UtpUpiuReq} {offset x : Nat}
    (h : load block offset 4 = bigEndian 4 x) :
    (loadBe32 block offset).toNat = x % 2 ^ 32 := by
  simp only [loadBe32, h, bigEndianValue_bigEndian, UInt32.toNat_ofNat']
  omega

theorem toNat_loadBe64 {block : UtpUpiuReq} {offset x : Nat}
    (h : load block offset 8 = bigEndian 8 x) :
    (loadBe64 block offset).toNat = x % 2 ^ 64 := by
  simp only [loadBe64, h, bigEndianValue_bigEndian, UInt64.toNat_ofNat']
  omega

theorem shared_of_load {v : UInt64} {block : UtpUpiuReq}
    (h : load block attrValueAt (4 + 4) = bigEndian (4 + 4) v.toNat) :
    Shared v block := by
  obtain ⟨hupper, hlower⟩ := load_of_bigEndian h
  have hpair : load block attrValueAt (2 + 2) =
      bigEndian (2 + 2) (v.toNat / 256 ^ 4) := hupper
  obtain ⟨hreserved, hlength⟩ := load_of_bigEndian hpair
  have hlt := v.toNat_lt
  have hattr := toNat_loadBe64 h
  have hfirst := toNat_loadBe16 hreserved
  have hsecond := toNat_loadBe16 hlength
  have hlow := toNat_loadBe32 hlower
  change (loadBe16 block reservedOsfAt).toNat = _ at hfirst
  change (loadBe16 block lengthAt).toNat = _ at hsecond
  change (loadBe32 block valueAt).toNat = _ at hlow
  constructor
  · rw [← UInt64.toNat_inj, hattr]
    omega
  · omega
  · omega
  · exact hlow
  · intro hsmall
    rw [← UInt16.toNat_inj, hlow, hattr, hsecond]
    simp
    omega

/-- The value is behind the operands, and the narrower fields share its
bytes. -/
theorem overlaid_writeAttr :
    Overlaid v idn index selector (composeUfsBsgReq
      (writeAttr func v idn index selector) length).upiuReq := by
  have hshared := shared_of_load
    (load_writeAttr func length v idn index selector)
  obtain ⟨hopcode, hidn, hindex, hselector⟩ :=
    byte_composeUfsBsgReq (writeAttr func v idn index selector) length
  constructor
  · exact hshared
  · rw [hopcode]
    rfl
  · exact hidn.trans (ofInt_byte idn)
  · exact hindex.trans (ofInt_byte index)
  · exact hselector.trans (ofInt_byte selector)

/-! Reading the value back. -/

/-- The line `do_query_read_attribute` prints for the value `v`. -/
def readValueLine (qop : QueryOperation) (v : UInt64) : Note :=
  printf (lit "Attribute IDN 0x" ++ intHex qop.idn ++ lit " - " ++
    qop.name ufsAttributes ++ lit ", Index 0x" ++ intHex qop.index ++
    lit " : 0x" ++ showHex v.toNat ++ lit "\n")

theorem readAttributeReport_eq (qop : QueryOperation) (bufLen : UInt16)
    {r : SysReply} (h : bsgStatus r = 0) :
    readAttributeReport qop (queryResult bufLen r) =
      [readValueLine qop (loadBe64 r.bsgReply.upiuRsp attrValueAt)] := by
  simp only [readAttributeReport, queryResult, h, ne_eq, not_true_eq_false,
    if_false, readValueLine]

theorem loadBe64_of_queryPart {block other : UtpUpiuReq}
    (h : queryPart block = queryPart other) :
    loadBe64 block attrValueAt = loadBe64 other attrValueAt := by
  rw [loadBe64, loadBe64, load_part h (by decide) (by decide)]

/-- The line shows no other value. -/
theorem readValueLine_inj {qop : QueryOperation} {v v' : UInt64} :
    readValueLine qop v = readValueLine qop v' ↔ v = v' := by
  constructor
  · intro h
    simp only [readValueLine, printf, Note.print.injEq, true_and,
      List.append_left_inj, List.append_right_inj] at h
    have hvalue := congrArg (valueOf 16) h
    rw [showHex, showHex, valueOf_toDigits (by decide) le_rfl,
      valueOf_toDigits (by decide) le_rfl] at hvalue
    exact UInt64.toNat_inj.mp hvalue
  · rintro rfl
    rfl

variable {S : Type}

theorem doQueryReadAttribute_run (op : LsufsOperation) {r : SysReply}
    (h : bsgStatus r = 0) (rest : List SysReply) (mem : S) :
    wp (doQueryReadAttribute op) (fun ret m => ret = success ∧
        notesOf m.trace = queryNotes r ++
          [readValueLine op.queryOp
            (loadBe64 r.bsgReply.upiuRsp attrValueAt)])
      (fun _ _ => False) (powerOn (r :: rest) mem) := by
  simp only [wp, powerOn, doQueryReadAttribute, queryAndReport_eq_exchange,
    exchange_run, List.nil_append, readAttributeReport_eq _ _ h]
  simp [h, success]

/-- What a write of the attribute `v` puts into the request is intact in both
views, and a reply that carries the same bytes is read as `v` and nothing
else. -/
theorem attribute_overlay_round_trip :
    Overlaid v idn index selector (composeUfsBsgReq
      (writeAttr func v idn index selector) length).upiuReq ∧
    ∀ (op : LsufsOperation) (r : SysReply), bsgStatus r = 0 →
      queryPart r.bsgReply.upiuRsp = queryPart (composeUfsBsgReq
        (writeAttr func v idn index selector) length).upiuReq →
      ∀ (rest : List SysReply) (mem : S),
        wp (doQueryReadAttribute op) (fun ret m => ret = success ∧
            ∀ v', notesOf m.trace =
              queryNotes r ++ [readValueLine op.queryOp v'] ↔ v' = v)
          (fun _ _ => False) (powerOn (r :: rest) mem) := by
  have hoverlaid := overlaid_writeAttr func length v idn index selector
  refine ⟨hoverlaid, ?_⟩
  intro op r hstatus hpart rest mem
  have hvalue := loadBe64_of_queryPart hpart
  rw [hoverlaid.attrValue] at hvalue
  have hrun := doQueryReadAttribute_run op hstatus rest mem
  rw [hvalue] at hrun
  apply wp_imp hrun
  rintro ret m ⟨hret, hnotes⟩
  refine ⟨hret, ?_⟩
  intro v'
  rw [hnotes, List.append_cancel_left_eq, List.singleton_inj,
    readValueLine_inj, eq_comm]

/-- The device gives back what was written to `qTimestamp`. -/
def timestampReply (v : UInt64) : SysReply :=
  { bsgReply := { upiuRsp := (composeUfsBsgReq
      (writeAttr queryReqFuncStdWrite v 0x30 0 0) 0).upiuReq } }

def timestampRead : LsufsOperation :=
  { devicePath := lit "/dev/ufs-bsg0"
    queryOp := { opcode := 3, idn := 0x30, index := 0, selector := 0 } }

theorem queryPart_timestampReply (v : UInt64) :
    queryPart (timestampReply v).bsgReply.upiuRsp = queryPart (composeUfsBsgReq
      (writeAttr queryReqFuncStdWrite v 0x30 0 0) 0).upiuReq :=
  rfl

theorem attribute_overlay_timestamp :
    wp (doQueryReadAttribute timestampRead) (fun ret m => ret = success ∧
        ∀ v', notesOf m.trace = queryNotes (timestampReply 0x18bcfe56800) ++
          [readValueLine timestampRead.queryOp v'] ↔ v' = 0x18bcfe56800)
      (fun _ _ => False) (powerOn [timestampReply 0x18bcfe56800] ()) :=
  (attribute_overlay_round_trip queryReqFuncStdWrite 0 0x18bcfe56800 0x30 0
    0).2 timestampRead (timestampReply 0x18bcfe56800) rfl
      (queryPart_timestampReply _) [] ()

end UfsTools
