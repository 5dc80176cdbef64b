/-
The translation of a descriptor, field by field: which fields of a table are
printed, with which values, and which bytes are looked at.
-/
import UfsTools.DescriptorProtocol

namespace UfsTools

open CLib ByteCodec

/-- Reserved entries are passed over. -/
def UfsDescItem.Live (item : UfsDescItem) : Prop :=
  ¬ lit "Reserved" <+: item.name

instance (item : UfsDescItem) : Decidable item.Live :=
  inferInstanceAs (Decidable (¬ _))

def UfsDescItem.size (item : UfsDescItem) : Nat := fieldNameToSize item.name

/-- The first byte behind a field. -/
def UfsDescItem.fieldEnd (item : UfsDescItem) : Nat := item.offset + item.size

/-- The ends of the fields never fall, reserved entries aside. -/
def EndsOrdered (items : List UfsDescItem) : Prop :=
  (items.filter (·.Live)).Pairwise fun a b => a.fieldEnd ≤ b.fieldEnd

instance (items : List UfsDescItem) : Decidable (EndsOrdered items) :=
  inferInstanceAs (Decidable (List.Pairwise _ _))

/-- The fields of a table that lie inside the first `limit` bytes. -/
def fieldsInside (limit : Nat) (items : List UfsDescItem) :
    List UfsDescItem :=
  items.filter fun item => item.Live ∧ item.fieldEnd ≤ limit

/-- The digits printed for a value. -/
def fieldDigits (buf : Nat → UInt8) (item : UfsDescItem) : Text :=
  padZero (2 * item.size) (showUpperHex (fieldValue buf item.offset item.size))

/-- The notes of the callback of a field. -/
def callbackNotes (buf : Nat → UInt8) (item : UfsDescItem) : List Note :=
  match item.translate with
  | none => []
  | some translate => translate buf item.offset item.size

/-- What is printed about a field: where it is, its name, its value, and what
the callback adds. -/
def fieldText (buf : Nat → UInt8) (item : UfsDescItem) : Text :=
  item.heading ++ lit "0x" ++ fieldDigits buf item ++ lit "\n" ++
    stdoutOf (callbackNotes buf item)

def descriptorHeading (descName : Text) : Text :=
  lit "UFS " ++ descName ++ lit " Descriptor:\n"

/-! Values. -/

theorem valueOf_zero_cons (base : Nat) (digits : Text) :
    valueOf base ('0' :: digits) = valueOf base digits := by
  have hzero : digitVal '0' = 0 := by decide
  simp [valueOf, hzero]

theorem valueOf_padZero (base width : Nat) (digits : Text) :
    valueOf base (padZero width digits) = valueOf base digits := by
  rw [padZero]
  induction width - digits.length with
  | zero => rfl
  | succ k ih =>
      rw [List.replicate_succ, List.cons_append, valueOf_zero_cons, ih]

theorem valueOf_map {base : Nat} {f : Char → Char} {digits : Text}
    (h : ∀ c ∈ digits, digitVal (f c) = digitVal c) :
    valueOf base (digits.map f) = valueOf base digits := by
  rw [valueOf, valueOf, List.foldl_map]
  exact List.foldl_ext _ _ _ fun acc c hc => by rw [h c hc]

/-- Upper case letters are the same digits. -/
theorem valueOf_showUpperHex (n : Nat) : valueOf 16 (showUpperHex n) = n := by
  have hsame : ∀ c ∈ showHex n, digitVal c.toUpper = digitVal c := by
    intro c hc
    obtain ⟨d, hd, rfl⟩ := mem_toDigits (by decide) n c hc
    interval_cases d <;> decide
  rw [showUpperHex, valueOf_map hsame]
  exact valueOf_toDigits (by decide) le_rfl n

/-- The printed digits are the big-endian number in the bytes of the field. -/
theorem valueOf_fieldDigits (buf : Nat → UInt8) (item : UfsDescItem) :
    valueOf 16 (fieldDigits buf item) =
      bigEndianValue
        ((List.range item.size).map fun i => buf (item.offset + i)) := by
  rw [fieldDigits, valueOf_padZero, valueOf_showUpperHex]
  rfl

/-! The text. -/

theorem stdoutOf_loadField (offset size : Nat) :
    stdoutOf (loadField offset size) = [] := by
  simp [stdoutOf, loadField]

theorem stdoutOf_translateItem (buf : Nat → UInt8) (item : UfsDescItem) :
    stdoutOf (translateItem buf item) = fieldText buf item := by
  have hnotes : translateItem buf item =
      printf item.heading :: (loadField item.offset item.size ++
        [printf (lit "0x" ++ fieldDigits buf item), printf (lit "\n")] ++
          callbackNotes buf item) := rfl
  rw [hnotes, stdoutOf_printf_cons, stdoutOf_append, stdoutOf_append,
    stdoutOf_loadField, stdoutOf_printf_cons, stdoutOf_printf, fieldText]
  simp only [List.nil_append, List.append_assoc]

variable {buf : Nat → UInt8} {len : Nat} {items : List UfsDescItem}

theorem fieldsInside_cons_pos {item : UfsDescItem} {limit : Nat}
    (h : item.Live ∧ item.fieldEnd ≤ limit) :
    fieldsInside limit (item :: items) = item :: fieldsInside limit items := by
  simp [fieldsInside, h]

theorem fieldsInside_cons_neg {item : UfsDescItem} {limit : Nat}
    (h : ¬ (item.Live ∧ item.fieldEnd ≤ limit)) :
    fieldsInside limit (item :: items) = fieldsInside limit items := by
  simp [fieldsInside, h]

/-- Where the ends are ordered, no field behind the first that does not fit
would fit. -/
theorem fieldsInside_eq_nil {item : UfsDescItem} {limit : Nat}
    (hlive : item.Live) (hordered : EndsOrdered (item :: items))
    (hout : limit < item.fieldEnd) : fieldsInside limit items = [] := by
  have hfirst : (item :: items).filter (·.Live) =
      item :: items.filter (·.Live) := by simp [hlive]
  rw [EndsOrdered, hfirst, List.pairwise_cons] at hordered
  rw [fieldsInside, List.filter_eq_nil_iff]
  intro other hother hinside
  obtain ⟨hlive', hend⟩ := of_decide_eq_true hinside
  have hle := hordered.1 other
    (List.mem_filter.mpr ⟨hother, decide_eq_true hlive'⟩)
  omega

/-- The walk over the table prints the fields that lie inside. -/
theorem stdoutOf_translateItems (hordered : EndsOrdered items) :
    stdoutOf (translateItems buf len items) =
      (fieldsInside (min len (buf 0).toNat) items).flatMap (fieldText buf) := by
  induction items with
  | nil => rfl
  | cons item rest ih =>
      have hrest : EndsOrdered rest :=
        hordered.sublist ((List.sublist_cons_self item rest).filter _)
      rw [translateItems]
      split_ifs with hreserved hout
      · have hskip : ¬ (item.Live ∧ item.fieldEnd ≤ min len (buf 0).toNat) :=
          fun h => h.1 hreserved
        rw [ih hrest, fieldsInside_cons_neg hskip]
      · have hnone := fieldsInside_eq_nil hreserved hordered hout
        have hskip : ¬ (item.Live ∧ item.fieldEnd ≤ min len (buf 0).toNat) :=
          fun h => absurd h.2 (not_le.mpr hout)
        rw [stdoutOf_load_cons, fieldsInside_cons_neg hskip, hnone]
        rfl
      · have hkeep : item.Live ∧ item.fieldEnd ≤ min len (buf 0).toNat :=
          ⟨hreserved, not_lt.mp hout⟩
        rw [List.cons_append, stdoutOf_load_cons, stdoutOf_append,
          stdoutOf_translateItem, ih hrest, fieldsInside_cons_pos hkeep,
          List.flatMap_cons]

/-! The bytes. -/

/-- Every byte looked at is `bLength`, lies inside, or is the business of the
callback of a field that does. -/
def ReadsInside (buf : Nat → UInt8) (limit : Nat) (items : List UfsDescItem)
    (entries : List Note) : Prop :=
  ∀ i, .load i ∈ entries → i = 0 ∨ i < limit ∨
    ∃ item ∈ fieldsInside limit items, .load i ∈ callbackNotes buf item

theorem load_mem_translateItem {item : UfsDescItem} {i : Nat}
    (h : .load i ∈ translateItem buf item) :
    i < item.fieldEnd ∨ .load i ∈ callbackNotes buf item := by
  have hnotes : translateItem buf item =
      printf item.heading :: (loadField item.offset item.size ++
        [printf (lit "0x" ++ fieldDigits buf item), printf (lit "\n")] ++
          callbackNotes buf item) := rfl
  simp only [hnotes, List.mem_cons, List.mem_append, load_mem_loadField_iff,
    printf, reduceCtorEq, false_or, or_false, List.not_mem_nil] at h
  rcases h with h | h
  · exact .inl h.2
  · exact .inr h

theorem ReadsInside.mono {limit : Nat} {item : UfsDescItem}
    {entries : List Note} (h : ReadsInside buf limit items entries) :
    ReadsInside buf limit (item :: items) entries := by
  intro i hi
  rcases h i hi with h | h | ⟨other, hother, hload⟩
  · exact .inl h
  · exact .inr (.inl h)
  · have hsub : (fieldsInside limit items).Sublist
        (fieldsInside limit (item :: items)) :=
      (List.sublist_cons_self item items).filter _
    exact .inr (.inr ⟨other, hsub.subset hother, hload⟩)

theorem readsInside_translateItems (items : List UfsDescItem) :
    ReadsInside buf (min len (buf 0).toNat) items
      (translateItems buf len items) := by
  induction items with
  | nil =>
      intro i hi
      contradiction
  | cons item rest ih =>
      rw [translateItems]
      split_ifs with hreserved hout
      · exact ih.mono
      · intro i hi
        exact .inl (Note.load.inj (List.mem_singleton.mp hi))
      · intro i hi
        rw [List.cons_append, List.mem_cons, List.mem_append] at hi
        rcases hi with hi | hi | hi
        · exact .inl (Note.load.inj hi)
        · rcases load_mem_translateItem hi with hfield | hcallback
          · exact .inr (.inl (hfield.trans_le (not_lt.mp hout)))
          · have hinside : item ∈ fieldsInside (min len (buf 0).toNat)
                (item :: rest) :=
              List.mem_filter.mpr ⟨List.mem_cons_self,
                decide_eq_true ⟨hreserved, not_lt.mp hout⟩⟩
            exact .inr (.inr ⟨item, hinside, hcallback⟩)
        · exact ih.mono i hi

/-! The whole translation. -/

/-- The first `len` bytes of a descriptor, or fewer where its `bLength` says
so. -/
def descLimit (buf : Nat → UInt8) (len : Nat) : Nat := min len (buf 0).toNat

/-- The fields inside are printed, each once, in the order of the table and
with the number in their bytes; nothing behind them is read. -/
structure TranslatedExactly (buf : Nat → UInt8) (len : Nat)
    (items : List UfsDescItem) (descName : Text) : Prop where
  printed : stdoutOf (ufsDescTranslate buf len items descName) =
    descriptorHeading descName ++
      (fieldsInside (descLimit buf len) items).flatMap (fieldText buf)
  values : ∀ item ∈ fieldsInside (descLimit buf len) items,
    valueOf 16 (fieldDigits buf item) = bigEndianValue
      ((List.range item.size).map fun i => buf (item.offset + i))
  reads : ReadsInside buf (descLimit buf len) items
    (ufsDescTranslate buf len items descName)

theorem translatedExactly (hlen : 1 ≤ len) (hordered : EndsOrdered items)
    (descName : Text) : TranslatedExactly buf len items descName := by
  have hnotes : ufsDescTranslate buf len items descName =
      printf (descriptorHeading descName) :: translateItems buf len items := by
    rw [ufsDescTranslate, if_neg (not_lt.mpr hlen)]
    rfl
  constructor
  · rw [hnotes, stdoutOf_printf_cons, stdoutOf_translateItems hordered]
    rfl
  · exact fun item _ => valueOf_fieldDigits buf item
  · intro i hi
    rw [hnotes, List.mem_cons] at hi
    exact readsInside_translateItems items i
      (hi.resolve_left (by simp [printf]))

theorem ufsDevDesc_endsOrdered : EndsOrdered ufsDevDesc := by
  decide +kernel

/-- Whatever is in the buffer and however much of it is valid, a table with
ordered ends is translated exactly; for the device descriptor no byte behind
the limit is read by the callback either. -/
theorem ufsDescTranslate_exact {buf : Nat → UInt8} {len : Nat}
    (hlen : 1 ≤ len ∧ len ≤ 256) :
    (∀ items descName, EndsOrdered items →
      TranslatedExactly buf len items descName) ∧
    ∀ descName, TranslatedExactly buf len ufsDevDesc descName ∧
      ∀ i, .load i ∈ ufsDescTranslate buf len ufsDevDesc descName →
        i = 0 ∨ i < descLimit buf len := by
  constructor
  · exact fun items descName hordered =>
      translatedExactly hlen.1 hordered descName
  · intro descName
    constructor
    · exact translatedExactly hlen.1 ufsDevDesc_endsOrdered descName
    · exact fun i hi => load_lt_of_mem_ufsDescTranslate
        ufsDevDesc_readsItsField hi

theorem ufsDescTranslate_exact_truncated :
    (∀ items descName, EndsOrdered items →
      TranslatedExactly (fun _ => 0x12) 0x20 items descName) ∧
    ∀ descName, TranslatedExactly (fun _ => 0x12) 0x20 ufsDevDesc descName ∧
      ∀ i, .load i ∈ ufsDescTranslate (fun _ => 0x12) 0x20 ufsDevDesc
        descName → i = 0 ∨ i < descLimit (fun _ => 0x12) 0x20 :=
  ufsDescTranslate_exact (by decide)

end UfsTools
