/-
The strings of the report: how far the copies of `get_device_info` write into
`string_buf` and into the three arrays of its caller.
-/
import UfsTools.EomScan

namespace UfsTools

open CLib ByteCodec Process

/-- Every character a run has stored is inside the array it was meant for. -/
def StoresInside (m : Machine EomGlobals) : Prop :=
  ∀ n ∈ notesOf m.trace, n.Inside

instance (m : Machine EomGlobals) : Decidable (StoresInside m) :=
  inferInstanceAs (Decidable (∀ n ∈ notesOf m.trace, n.Inside))

/-- The characters of a string descriptor, as `bLength` delimits it. -/
def stringLength (buf : DescBuf) : Nat :=
  ((List.range (byte buf 0).toNat).drop 2).countP fun i => byte buf i ≠ 0

theorem length_parseStringDesc (buf : DescBuf) :
    (parseStringDesc buf).length = stringLength buf := by
  rw [parseStringDesc, List.length_filterMap_eq_countP, List.countP_map,
    stringLength]
  apply List.countP_congr
  intro i _
  by_cases hzero : byte buf i = 0 <;> simp [hzero]

/-! What one string writes. -/

/-- The index of the next store counts the characters stored before. -/
theorem storeStringDesc_inside_iff {buf : DescBuf} {is : List Nat} {j : Nat} :
    (∀ n ∈ storeStringDesc buf is j, n.Inside) ↔
      ∀ k < is.countP fun i => byte buf i ≠ 0, j + k < stringBufferSize := by
  induction is generalizing j with
  | nil => simp [storeStringDesc]
  | cons i rest ih =>
      by_cases hzero : byte buf i = 0
      · simp [storeStringDesc, hzero, ih]
      · have hcount : (i :: rest).countP (fun i => byte buf i ≠ 0) =
            rest.countP (fun i => byte buf i ≠ 0) + 1 :=
          List.countP_cons_of_pos (by simpa using hzero)
        rw [storeStringDesc, if_neg hzero, List.forall_mem_cons, ih, hcount]
        constructor
        · rintro ⟨hfirst, hrest⟩ k hk
          cases k with
          | zero => exact hfirst
          | succ k =>
              have hnext := hrest k (by omega)
              omega
        · intro hall
          constructor
          · exact hall 0 (by omega)
          · intro k hk
            have hnext := hall (k + 1) (by omega)
            omega

theorem parseStringDescStores_inside_iff (buf : DescBuf) :
    (∀ n ∈ parseStringDescStores buf, n.Inside) ↔
      stringLength buf < stringBufferSize := by
  have hlast : (∀ n ∈ [Note.storeChar stringBufferSize
      (parseStringDesc buf).length], n.Inside) ↔
      stringLength buf < stringBufferSize := by
    rw [List.forall_mem_singleton, length_parseStringDesc]
    rfl
  rw [parseStringDescStores, List.forall_mem_append, hlast,
    storeStringDesc_inside_iff]
  constructor
  · exact And.right
  · intro hlt
    constructor
    · intro k hk
      have hcount : k < stringLength buf := hk
      omega
    · exact hlt

theorem strcpyStores_inside_iff (size : Nat) (text : Text) :
    (∀ n ∈ strcpyStores size text, n.Inside) ↔ text.length < size := by
  rw [strcpyStores, List.forall_mem_map]
  constructor
  · intro hall
    exact hall text.length (by simp)
  · intro hlt i hi
    have hle := List.mem_range.mp hi
    show i < size
    omega

/-! What a run writes. -/

variable {m : Machine EomGlobals}

theorem storesInside_notes (m : Machine EomGlobals) (entries : List Note) :
    StoresInside { m with trace := m.trace ++ entries.map .note } ↔
      StoresInside m ∧ ∀ n ∈ entries, n.Inside := by
  simp only [StoresInside, notesOf_append, notesOf_map_note,
    List.forall_mem_append]

theorem storesInside_call {rest : List SysReply} {c : SysCall} {r : SysReply}
    {entries : List Note} (hentries : ∀ n ∈ entries, n.Inside) :
    StoresInside ⟨rest, m.trace ++ .call c r :: entries.map .note, m.mem⟩ ↔
      StoresInside m := by
  simp only [StoresInside, notesOf_append, notesOf_call, notesOf_map_note,
    List.forall_mem_append]
  exact and_iff_left hentries

/-- The buffer a query leaves, which keeps what its reply does not overlay. -/
def queried (buf : DescBuf) (r : SysReply) : DescBuf :=
  received buf (UInt16.ofNat descriptorBufferSize) r

theorem wp_query_inside {idn index : Int} {buf : DescBuf} {fd : Int}
    {α : Type} {use : Int × DescBuf → Prog EomGlobals α}
    {P : Machine EomGlobals → Prop}
    (hwait : m.replies = [] → P m)
    (huse : ∀ r m', m.replies = r :: m'.replies →
      (StoresInside m' ↔ StoresInside m) →
      wp (use (bsgStatus r, queried buf r)) (fun _ => P) (fun _ => P) m') :
    wp (queryReadDescriptor fd idn index 0 buf
      (UInt16.ofNat descriptorBufferSize) >>= use)
      (fun _ => P) (fun _ => P) m := by
  rw [queryReadDescriptor_eq_exchange, wp_bind]
  apply wp_exchange
  · exact hwait
  · intro r rest hreplies
    apply huse r ⟨rest, _, m.mem⟩ hreplies
    apply storesInside_call
    intro n hn
    rcases List.mem_append.mp hn with hn | hn
    · exact forall_mem_queryNotes (fun _ => trivial) (fun _ => trivial) n hn
    · split at hn
      · rw [List.mem_singleton.mp hn]
        trivial
      · contradiction

/-- The replies that are read as strings, each as long as a query succeeds and
shorter than the array it is copied to. -/
def StringsFit : List Nat → DescBuf → List SysReply → Prop
  | [], _, _ => True
  | _ :: _, _, [] => True
  | size :: sizes, buf, r :: rest =>
      bsgStatus r = 0 → stringLength (queried buf r) < size ∧
        StringsFit sizes (queried buf r) rest

/-- The run from `m` keeps inside the arrays if and only if the strings fit. -/
def FitsFrom (sizes : List Nat) (buf : DescBuf) (m m' : Machine EomGlobals) :
    Prop :=
  StoresInside m' ↔ StoresInside m ∧ StringsFit sizes buf m.replies

/-! The three ways one string is read. -/

section

variable {m₁ m₂ : Machine EomGlobals} {size : Nat} {sizes : List Nat}
  {buf : DescBuf} {r : SysReply}

theorem FitsFrom.of_failed (hreplies : m.replies = r :: m₁.replies)
    (hret : bsgStatus r ≠ 0) (hinside : StoresInside m₂ ↔ StoresInside m) :
    FitsFrom (size :: sizes) buf m m₂ := by
  rw [FitsFrom, hinside, hreplies]
  simp [StringsFit, hret]

theorem FitsFrom.of_long (hreplies : m.replies = r :: m₁.replies)
    (hret : bsgStatus r = 0) (hlong : ¬ stringLength (queried buf r) < size)
    (hinside : ¬ StoresInside m₂) : FitsFrom (size :: sizes) buf m m₂ := by
  rw [FitsFrom, hreplies]
  simp [StringsFit, hret, hlong, hinside]

theorem FitsFrom.of_short (hreplies : m.replies = r :: m₁.replies)
    (hret : bsgStatus r = 0) (hshort : stringLength (queried buf r) < size)
    (hinside : StoresInside m₁ ↔ StoresInside m)
    (hrest : FitsFrom sizes (queried buf r) m₁ m₂) :
    FitsFrom (size :: sizes) buf m m₂ := by
  rw [FitsFrom, hinside] at hrest
  rw [FitsFrom, hrest, hreplies]
  simp [StringsFit, hret, hshort]

end

theorem wp_readString_inside {index : UInt8} {size : Nat} {sizes : List Nat}
    {failed : String} {buf : DescBuf}
    {use : Text → DescBuf → Prog EomGlobals Int}
    (hsize : size ≤ stringBufferSize)
    (huse : ∀ text buf m, wp (use text buf) (fun _ => FitsFrom sizes buf m)
      (fun _ => FitsFrom sizes buf m) m) :
    wp (readString index size failed buf use)
      (fun _ => FitsFrom (size :: sizes) buf m)
      (fun _ => FitsFrom (size :: sizes) buf m) m := by
  rw [readString, wp_bind, wp_get]
  apply wp_query_inside
  · intro hreplies
    simp [FitsFrom, hreplies, StringsFit]
  · intro r m₁ hreplies hinside
    have hlength := length_parseStringDesc (queried buf r)
    have hparsed := storesInside_notes m₁
      (parseStringDescStores (queried buf r))
    rw [parseStringDescStores_inside_iff, hinside] at hparsed
    dsimp only
    by_cases hret : bsgStatus r ≠ 0
    · rw [if_pos hret, wp_bind, wp_note, wp_pure]
      apply FitsFrom.of_failed hreplies hret
      apply (storesInside_notes m₁ [prErr (lit failed)]).trans
      simpa [Note.Inside, prErr] using hinside
    rw [if_neg hret, wp_bind, wp_notes]
    have hok : bsgStatus r = 0 := not_not.mp hret
    by_cases hlong : stringBufferSize ≤ (parseStringDesc (queried buf r)).length
    · rw [if_pos hlong, wp_fault]
      apply FitsFrom.of_long hreplies hok
      · omega
      · rw [hparsed]
        omega
    rw [if_neg hlong, wp_bind, wp_notes]
    have hcopied := storesInside_notes
      { m₁ with trace := m₁.trace ++
          List.map .note (parseStringDescStores (queried buf r)) }
      (strcpyStores size (parseStringDesc (queried buf r)))
    rw [strcpyStores_inside_iff, hparsed] at hcopied
    by_cases hfull : size ≤ (parseStringDesc (queried buf r)).length
    · rw [if_pos hfull, wp_fault]
      apply FitsFrom.of_long hreplies hok
      · omega
      · rw [hcopied]
        omega
    · rw [if_neg hfull]
      have hkept : (StoresInside m ∧
          stringLength (queried buf r) < stringBufferSize) ∧
          (parseStringDesc (queried buf r)).length < size ↔
            StoresInside m := by
        have hall : stringLength (queried buf r) < stringBufferSize ∧
            (parseStringDesc (queried buf r)).length < size := by omega
        simp [hall]
      have hrest := hcopied.trans hkept
      have hshort : stringLength (queried buf r) < size := by omega
      exact wp_mono (huse _ _ _)
        (fun _ _ => FitsFrom.of_short hreplies hok hshort hrest)
        (fun _ _ => FitsFrom.of_short hreplies hok hshort hrest)

/-- The arrays of `generate_eom_report`. -/
abbrev deviceStringSizes : List Nat :=
  [manufacturerNameStringDescSize, productNameStringDescSize,
    productRevisionLevelStringDescSize]

/-- The four queries of `get_device_info`: what is read of the device itself
holds the indices of its strings and stays in the buffer. -/
def DeviceStringsFit : List SysReply → Prop
  | [] => True
  | r :: rest => bsgStatus r = 0 →
      StringsFit deviceStringSizes (queried (Vector.replicate _ 0) r) rest

/-- For every sequence of replies, `get_device_info` writes inside
`string_buf` and inside the arrays of its caller, the NUL characters included,
if and only if each string it reads is shorter than its array. -/
theorem getDeviceInfo_inside_iff (replies : List SysReply) (g : EomGlobals) :
    StoresInside (getDeviceInfo (fun _ _ _ => pure success)
        (powerOn replies g)).machine ↔ DeviceStringsFit replies := by
  apply wp_machine (P := fun m' => StoresInside m' ↔ DeviceStringsFit replies)
  have hstart : ∀ replies, StoresInside (powerOn replies g) := by
    simp [StoresInside, powerOn]
  rw [getDeviceInfo, wp_bind, wp_get]
  apply wp_query_inside
  · intro hreplies
    have hnone : replies = [] := hreplies
    simp [hnone, DeviceStringsFit, hstart]
  · intro r m₁ hreplies hinside
    dsimp only
    have hcons : replies = r :: m₁.replies := hreplies
    have hkept : StoresInside m₁ := hinside.mpr (hstart _)
    by_cases hret : bsgStatus r ≠ 0
    · rw [if_pos hret, wp_bind, wp_note, wp_pure, hcons]
      have hnote := storesInside_notes m₁
        [prErr (lit "Failed to read Device Descriptor\n")]
      simp only [List.map_singleton] at hnote
      rw [hnote]
      simp [DeviceStringsFit, hret, hkept, Note.Inside, prErr]
    · rw [if_neg hret, hcons]
      have hok : bsgStatus r = 0 := not_not.mp hret
      have hfits : ∀ m₂, FitsFrom deviceStringSizes
          (queried (Vector.replicate _ 0) r) m₁ m₂ →
          (StoresInside m₂ ↔ DeviceStringsFit (r :: m₁.replies)) := by
        intro m₂ hm₂
        rw [FitsFrom, and_iff_right hkept] at hm₂
        rw [hm₂, DeviceStringsFit]
        exact ⟨fun h _ => h, fun h => h hok⟩
      apply wp_mono _ (fun _ => hfits) (fun _ => hfits)
      apply wp_readString_inside (by decide)
      intro _ buf₁ m₂
      apply wp_readString_inside (by decide)
      intro _ buf₂ m₃
      apply wp_readString_inside (by decide)
      intro _ buf₃ m₄
      rw [wp_pure, FitsFrom, StringsFit, and_true]

/-- A string descriptor of 38 bytes: two of header, then 18 characters of two
bytes each. -/
def longNameDescriptor : List UInt8 :=
  [38, 5] ++ (List.replicate 18 [0, 65]).flatten

def longNameReplies : List SysReply :=
  [{}, { data := longNameDescriptor }, {}, {}]

/-- Eighteen letters fill the array of the manufacturer's name, and the NUL goes
behind it. -/
theorem manufacturer_name_overflows :
    ¬ ∀ (replies : List SysReply) (g : EomGlobals),
      StoresInside (getDeviceInfo (fun _ _ _ => pure success)
        (powerOn replies g)).machine := by
  intro h
  have hoverflow : ¬ StoresInside (getDeviceInfo (fun _ _ _ => pure success)
      (powerOn longNameReplies {})).machine := by decide +kernel
  exact hoverflow (h longNameReplies {})

end UfsTools
