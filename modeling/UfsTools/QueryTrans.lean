/-
`query_trans.c`: the printed translation of a descriptor, driven by a table of
field offsets and names.
-/
import UfsTools.Bsg

namespace UfsTools

open CLib

/-- A descriptor field.  `translate` gets the buffer, the offset of the field
and its size. -/
structure UfsDescItem where
  offset : Nat
  name : Text
  translate : Option ((Nat → UInt8) → Nat → Nat → List Note) := none

/-- `field_name_to_size`: the first letter of a name is its size. -/
def fieldNameToSize (name : Text) : Nat :=
  match name with
  | 'w' :: _ => 2
  | 'd' :: _ => 4
  | 'q' :: _ => 8
  | _ => 1

/-- The big-endian number in `size` bytes from `offset` on. -/
def fieldValue (buf : Nat → UInt8) (offset size : Nat) : Nat :=
  ByteCodec.bigEndianValue ((List.range size).map fun i => buf (offset + i))

/-- The loads of a field. -/
def loadField (offset size : Nat) : List Note :=
  (List.range size).map fun i => .load (offset + i)

/-- The line of a field, and what its callback prints below. -/
def translateItem (buf : Nat → UInt8) (item : UfsDescItem) : List Note :=
  let size := fieldNameToSize item.name
  printf (lit "0x" ++ padZero 2 (showUpperHex item.offset) ++ lit ": " ++
    padRight 35 item.name ++ lit " = ") ::
  loadField item.offset size ++
  [printf (lit "0x" ++
      padZero (2 * size) (showUpperHex (fieldValue buf item.offset size))),
    printf (lit "\n")] ++
  match item.translate with
  | none => []
  | some translate => translate buf item.offset size

/-- The walk over the table stops at the first field that does not fit. -/
def translateItems (buf : Nat → UInt8) (len : Nat) :
    List UfsDescItem → List Note
  | [] => []
  | item :: rest =>
      if lit "Reserved" <+: item.name then translateItems buf len rest
      else if item.offset + fieldNameToSize item.name > min len (buf 0).toNat
      then [.load 0]
      else .load 0 :: translateItem buf item ++ translateItems buf len rest

def ufsDescTranslate (buf : Nat → UInt8) (len : Nat)
    (descFields : List UfsDescItem) (descName : Text) : List Note :=
  if len < 1 then [printf (lit "Invalid descriptor parameters\n")]
  else
    printf (lit "UFS " ++ descName ++ lit " Descriptor:\n") ::
      translateItems buf len descFields

/-! The extended features word. -/

/-- The bits of the word and what they stand for. -/
def extendedFeatures : List (Nat × String) :=
  [(0, "Field Firmware Update (FFU)"),
   (1, "Production State Awareness (PSA)"),
   (2, "Device Life Span"),
   (3, "Refresh Operation"),
   (4, "High Temperature Operation"),
   (5, "Low Temperature Operation"),
   (6, "Extended Temperature"),
   (7, "HPB Extension"),
   (8, "WriteBooster"),
   (9, "Performance Throttling"),
   (10, "Advanced RPMB"),
   (11, "Zoned UFS Extension"),
   (12, "Device Level Exception Warning"),
   (13, "Host Initiated Defrag (HID)"),
   (14, "Barrier Support"),
   (15, "Clear Error History"),
   (16, "EXT_IID Support"),
   (17, "File Based Optimization (FBO)"),
   (18, "Fast Recovery Mode"),
   (19, "RPMB Authenticated Vendor CMD")]

/-- The line of one bit. -/
def featureLine (features : Nat) (feature : Nat × String) : Note :=
  printf (lit "    # " ++ padRight 40 (lit feature.2) ++ lit ": " ++
    (if features.testBit feature.1 then lit "Supported"
    else lit "Not supported") ++ lit "\n")

/-- `translate_extended_ufs_features`, which loads its word before it looks at
the size. -/
def translateExtendedUfsFeatures (buf : Nat → UInt8) (offset size : Nat) :
    List Note :=
  let features := fieldValue buf offset 4
  loadField offset 4 ++
  if size < 4 then
    [printf (lit "  # [Incomplete data for extended features]")]
  else
    printf (lit "    # Extended UFS Features Support (JESD220D 4.1):\n") ::
      extendedFeatures.map (featureLine features) ++
      if features &&& 0xFFF00000 ≠ 0 then
        [printf (lit "    # NOTE: Unparsed bit[31:20] contains meaningful data (0x" ++
          padZero 8 (showUpperHex features) ++ lit ")\n")]
      else []

/-- A field without a callback. -/
def field (offset : Nat) (name : String) : UfsDescItem :=
  { offset := offset, name := lit name }

/-- `ufs_dev_desc`: the fields of a device descriptor by offset. -/
def ufsDevDesc : List UfsDescItem :=
  [field 0x00 "bLength",
   field 0x01 "bDescriptorIDN",
   field 0x02 "bDevice",
   field 0x03 "bDeviceClass",
   field 0x04 "bDeviceSubClass",
   field 0x05 "bProtocol",
   field 0x06 "bNumberLU",
   field 0x07 "bNumberWLU",
   field 0x08 "bBootEnable",
   field 0x09 "bDescrAccessEn",
   field 0x0A "bInitPowerMode",
   field 0x0B "bHighPriorityLUN",
   field 0x0C "bSecureRemovalType",
   field 0x0D "bSecurityLU",
   field 0x0E "bBackgroundOpsTermLat",
   field 0x0F "bInitActiveICCLevel",
   field 0x10 "wSpecVersion",
   field 0x12 "wManufactureDate",
   field 0x14 "iManufacturerName",
   field 0x15 "iProductName",
   field 0x16 "iSerialNumber",
   field 0x17 "iOemID",
   field 0x18 "wManufacturerID",
   field 0x1A "bUD0BaseOffset",
   field 0x1B "bUDConfigPLength",
   field 0x1C "bDeviceRTTCap",
   field 0x1D "wPeriodicRTCUpdate",
   field 0x1F "bUFSFeaturesSupport",
   field 0x20 "bFFUTimeout",
   field 0x21 "bQueueDepth",
   field 0x22 "wDeviceVersion",
   field 0x24 "bNumSecureWPArea",
   field 0x25 "dPSAMaxDataSize",
   field 0x29 "bPSAStateTimeout",
   field 0x2A "iProductRevisionLevel",
   field 0x2B "Reserved[5]",
   field 0x30 "Reserved[16]",
   field 0x40 "Reserved[3]",
   field 0x43 "Reserved[10]",
   field 0x4D "wExtendedWriteBoosterSupport",
   { field 0x4F "dExtendedUFSFeaturesSupport" with
     translate := some translateExtendedUfsFeatures },
   field 0x53 "bWriteBoosterBufferPreserveUserSpaceEn",
   field 0x54 "bWriteBoosterBufferType",
   field 0x55 "dNumSharedWriteBoosterBufferAllocUnits"]

/-! The part of the buffer a translation looks at. -/

/-- The callback of a field stays inside the field. -/
def UfsDescItem.ReadsItsField (item : UfsDescItem) : Prop :=
  ∀ translate, item.translate = some translate → ∀ buf i,
    .load i ∈ translate buf item.offset (fieldNameToSize item.name) →
      i < item.offset + fieldNameToSize item.name

/-- A field is loaded byte by byte. -/
theorem load_mem_loadField_iff (offset size i : Nat) :
    .load i ∈ loadField offset size ↔ offset ≤ i ∧ i < offset + size := by
  simp only [loadField, List.mem_map, List.mem_range, Note.load.injEq]
  constructor
  · rintro ⟨j, hj, rfl⟩
    omega
  · rintro ⟨hlo, hhi⟩
    exact ⟨i - offset, by omega, by omega⟩

theorem load_lt_of_mem_translateItem {buf : Nat → UInt8} {item : UfsDescItem}
    (hitem : item.ReadsItsField) {i : Nat}
    (hmem : .load i ∈ translateItem buf item) :
    i < item.offset + fieldNameToSize item.name := by
  simp only [translateItem, List.cons_append, List.mem_cons, List.mem_append,
    load_mem_loadField_iff, printf, reduceCtorEq, false_or] at hmem
  rcases hmem with (hmem | hmem) | hmem
  · exact hmem.2
  · simp at hmem
  · cases htranslate : item.translate with
    | none => simp [htranslate] at hmem
    | some translate =>
        rw [htranslate] at hmem
        exact hitem translate htranslate buf i hmem

theorem load_lt_of_mem_translateItems {buf : Nat → UInt8} {len i : Nat}
    {items : List UfsDescItem} (hitems : ∀ item ∈ items, item.ReadsItsField)
    (hmem : .load i ∈ translateItems buf len items) :
    i = 0 ∨ i < min len (buf 0).toNat := by
  induction items with
  | nil => simp [translateItems] at hmem
  | cons item rest ih =>
      have hitem := hitems item List.mem_cons_self
      have hrest := fun item h => hitems item (List.mem_cons_of_mem _ h)
      simp only [translateItems] at hmem
      split_ifs at hmem with hreserved hbound
      · exact ih hrest hmem
      · simp only [List.mem_singleton, Note.load.injEq] at hmem
        exact .inl hmem
      · simp only [List.cons_append, List.mem_cons, List.mem_append,
          Note.load.injEq] at hmem
        rcases hmem with hmem | hmem | hmem
        · exact .inl hmem
        · have hi := load_lt_of_mem_translateItem hitem hmem
          exact .inr (hi.trans_le (not_lt.mp hbound))
        · exact ih hrest hmem

theorem load_lt_of_mem_extendedFeatures {buf : Nat → UInt8}
    {offset i : Nat} (hmem : .load i ∈ translateExtendedUfsFeatures buf offset 4) :
    i < offset + 4 := by
  simp only [translateExtendedUfsFeatures, List.mem_append,
    load_mem_loadField_iff] at hmem
  rcases hmem with hmem | hmem
  · exact hmem.2
  · split_ifs at hmem <;> simp [printf, featureLine] at hmem

/-- Only the extended features word has a callback. -/
theorem translate_of_mem_ufsDevDesc : ∀ item ∈ ufsDevDesc,
    item.translate = none ∨ item = { field 0x4F "dExtendedUFSFeaturesSupport"
      with translate := some translateExtendedUfsFeatures } := by
  have hfield : ∀ offset name, (field offset name).translate = none :=
    fun _ _ => rfl
  simp only [ufsDevDesc, List.forall_mem_cons, hfield, true_or, or_true,
    true_and, List.not_mem_nil, false_implies, implies_true]

theorem ufsDevDesc_readsItsField :
    ∀ item ∈ ufsDevDesc, item.ReadsItsField := by
  intro item hitem translate htranslate buf i hmem
  rcases translate_of_mem_ufsDevDesc item hitem with hnone | rfl
  · rw [hnone] at htranslate
    contradiction
  · obtain rfl := Option.some.inj htranslate
    exact load_lt_of_mem_extendedFeatures hmem

/-- A translation stays inside the buffer and inside the length the descriptor
gives itself. -/
theorem load_lt_of_mem_ufsDescTranslate {buf : Nat → UInt8} {len i : Nat}
    {items : List UfsDescItem} (hitems : ∀ item ∈ items, item.ReadsItsField)
    {name : Text} (hmem : .load i ∈ ufsDescTranslate buf len items name) :
    i = 0 ∨ i < min len (buf 0).toNat := by
  simp only [ufsDescTranslate] at hmem
  split_ifs at hmem with hlen
  · simp [printf] at hmem
  · simp only [List.mem_cons, printf, reduceCtorEq, false_or] at hmem
    exact load_lt_of_mem_translateItems hitems hmem

end UfsTools
