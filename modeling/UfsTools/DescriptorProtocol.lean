/-
What the script finds of a device descriptor in the text `lsufs` prints for
it: of the two formats `do_query_read_descriptor` has, the device descriptor
gets the one without offsets.
-/
import UfsTools.EomScript
import UfsTools.QueryOutcome

namespace UfsTools

open CLib PyText Getopt ByteCodec Process

variable {S : Type}

/-- The end of `Offset` with the start of a number behind it. -/
abbrev offsetEnd : Text := ['t', ' ', '0']

theorem offsetEnd_infix_marker (offset : Nat) :
    offsetEnd <:+: offsetMarker offset :=
  ⟨lit "Offse", 'x' :: (showHex offset ++ lit " : 0x"), by
    simp [offsetMarker, lit]⟩

/-! Numbers. -/

theorem not_mem_padZero {width : Nat} {text : Text} (h : 't' ∉ text) :
    't' ∉ padZero width text := by
  simp [padZero, h, List.mem_replicate]

theorem not_mem_showHex (n : Nat) : 't' ∉ showHex n := by
  intro hmem
  obtain ⟨d, hd, hdigit⟩ := mem_toDigits (by norm_num) n _ hmem
  interval_cases d <;> exact absurd hdigit (by decide)

theorem not_mem_showUpperHex (n : Nat) : 't' ∉ showUpperHex n := by
  intro hmem
  obtain ⟨c, hc, hupper⟩ := List.mem_map.mp hmem
  obtain ⟨d, hd, rfl⟩ := mem_toDigits (by norm_num) n c hc
  interval_cases d <;> exact absurd hupper (by decide)

theorem avoids_padZero_showUpperHex (width n : Nat) :
    Avoids offsetEnd (padZero width (showUpperHex n)) :=
  avoids_of_head_not_mem (not_mem_padZero (not_mem_showUpperHex n))

/-! Printed notes. -/

theorem avoids_stdoutOf {entries : List Note}
    (h : ∀ n ∈ entries, Avoids offsetEnd (stdoutOf [n])) :
    Avoids offsetEnd (stdoutOf entries) := by
  apply avoids_flatMap
  intro n hn
  simpa [stdoutOf] using h n hn

theorem avoids_nil : Avoids offsetEnd [] :=
  avoids_of_head_not_mem (by simp)

theorem avoids_loadField (offset size : Nat) :
    Avoids offsetEnd (stdoutOf (loadField offset size)) := by
  apply avoids_stdoutOf
  intro n hn
  obtain ⟨i, -, rfl⟩ := List.mem_map.mp hn
  exact avoids_nil

theorem stdoutOf_printf (text : Text) : stdoutOf [printf text] = text := by
  simp [stdoutOf, printf]

theorem stdoutOf_printf_cons (text : Text) (entries : List Note) :
    stdoutOf (printf text :: entries) = text ++ stdoutOf entries := rfl

theorem stdoutOf_load_cons (i : Nat) (entries : List Note) :
    stdoutOf (.load i :: entries) = stdoutOf entries := rfl

/-- What is printed in front of the value of a field. -/
def UfsDescItem.heading (item : UfsDescItem) : Text :=
  lit "0x" ++ padZero 2 (showUpperHex item.offset) ++ lit ": " ++
    padRight 35 item.name ++ lit " = "

theorem avoids_heading :
    ∀ item ∈ ufsDevDesc, Avoids offsetEnd item.heading := by
  decide +kernel

theorem avoids_featureLine (features : Nat) :
    ∀ feature ∈ extendedFeatures,
      Avoids offsetEnd (stdoutOf [featureLine features feature]) := by
  have hline : ∀ feature ∈ extendedFeatures, ∀ word ∈ [lit "Supported",
      lit "Not supported"], Avoids offsetEnd (lit "    # " ++
        padRight 40 (lit feature.2) ++ lit ": " ++ word ++ lit "\n") := by
    decide +kernel
  intro feature hfeature
  rw [featureLine, stdoutOf_printf]
  split
  · exact hline feature hfeature _ (by simp)
  · exact hline feature hfeature _ (by simp)

theorem avoids_translateExtendedUfsFeatures (buf : Nat → UInt8)
    (offset size : Nat) :
    Avoids offsetEnd
      (stdoutOf (translateExtendedUfsFeatures buf offset size)) := by
  rw [translateExtendedUfsFeatures, stdoutOf_append]
  apply Avoids.append (avoids_loadField offset 4)
  split
  · decide +kernel
  · rw [stdoutOf_append, stdoutOf_printf_cons]
    apply Avoids.append
    · apply Avoids.append
      · decide +kernel
      · apply avoids_stdoutOf
        intro n hn
        obtain ⟨feature, hfeature, rfl⟩ := List.mem_map.mp hn
        exact avoids_featureLine _ feature hfeature
    · split
      · rw [stdoutOf_printf]
        apply Avoids.append
        · apply Avoids.append
          · decide +kernel
          · exact avoids_padZero_showUpperHex _ _
        · decide +kernel
      · exact avoids_nil

theorem avoids_translate (buf : Nat → UInt8) {item : UfsDescItem}
    (hitem : item ∈ ufsDevDesc) :
    Avoids offsetEnd (stdoutOf (match item.translate with
      | none => []
      | some translate =>
          translate buf item.offset (fieldNameToSize item.name))) := by
  rcases translate_of_mem_ufsDevDesc item hitem with hnone | rfl
  · rw [hnone]
    exact avoids_nil
  · exact avoids_translateExtendedUfsFeatures buf _ _

theorem avoids_translateItem (buf : Nat → UInt8) {item : UfsDescItem}
    (hitem : item ∈ ufsDevDesc) :
    Avoids offsetEnd (stdoutOf (translateItem buf item)) := by
  have hprefix : Avoids offsetEnd (lit "0x") := by decide +kernel
  have hend : Avoids offsetEnd (lit "\n") := by decide +kernel
  simp only [translateItem, List.cons_append, stdoutOf_printf_cons,
    stdoutOf_append]
  apply Avoids.append
  · exact avoids_heading item hitem
  · apply Avoids.append
    · apply Avoids.append (avoids_loadField _ _)
      apply Avoids.append
      · exact hprefix.append (avoids_padZero_showUpperHex _ _)
      · exact hend.append avoids_nil
    · exact avoids_translate buf hitem

theorem avoids_translateItems (buf : Nat → UInt8) (len : Nat)
    {items : List UfsDescItem} (hitems : ∀ item ∈ items, item ∈ ufsDevDesc) :
    Avoids offsetEnd (stdoutOf (translateItems buf len items)) := by
  induction items with
  | nil => exact avoids_nil
  | cons item rest ih =>
      have hrest := ih fun item' h => hitems item' (List.mem_cons_of_mem _ h)
      rw [translateItems]
      split
      · exact hrest
      · split
        · exact avoids_nil
        · rw [List.cons_append, stdoutOf_load_cons, stdoutOf_append]
          exact (avoids_translateItem buf (hitems item (by simp))).append hrest

theorem avoids_dumpHex (buf : Nat → UInt8) (len : Nat) :
    Avoids offsetEnd (stdoutOf (dumpHex buf len)) := by
  have hend : Avoids offsetEnd (lit "\n") := by decide +kernel
  have hbyte (n : Nat) : 't' ∉ padZero 2 (showHex n) :=
    not_mem_padZero (not_mem_showHex n)
  have hline (i : Nat) : Avoids offsetEnd (stdoutOf (dumpHexByte buf i)) := by
    have hoffset : 't' ∉ lit "0x" ++ padZero 2 (showHex i) ++ lit ": " := by
      simp [hbyte, lit]
    have hvalue : 't' ∉ padZero 2 (showHex (buf i).toNat) ++ lit " " := by
      simp [hbyte, lit]
    rw [dumpHexByte, stdoutOf_append, stdoutOf_append]
    apply Avoids.append
    · apply Avoids.append
      · split
        · rw [stdoutOf_printf]
          exact avoids_of_head_not_mem hoffset
        · exact avoids_nil
      · rw [stdoutOf_load_cons, stdoutOf_printf]
        exact avoids_of_head_not_mem hvalue
    · split
      · exact hend.append avoids_nil
      · exact avoids_nil
  rw [dumpHex, stdoutOf_append, stdoutOf_printf_cons]
  apply Avoids.append
  · apply Avoids.append
    · decide +kernel
    · rw [stdoutOf, List.flatMap_assoc]
      exact avoids_flatMap fun i _ => hline i
  · split
    · exact hend.append avoids_nil
    · exact avoids_nil

/-- Nothing that is printed of a device descriptor looks like an offset. -/
theorem avoids_descriptorNotes {qop : QueryOperation} (hidn : qop.idn = 0)
    (buf : Nat → UInt8) (len : Nat) :
    Avoids offsetEnd (stdoutOf (descriptorNotes qop buf len)) := by
  have hfirst : characteristicsLookUp ufsDescriptors (UInt32.ofInt qop.idn) =
      0 := by
    rw [hidn]
    decide
  rw [descriptorNotes, if_pos hfirst, stdoutOf_append]
  apply Avoids.append
  · rw [ufsDescTranslate]
    split
    · decide +kernel
    · rw [stdoutOf_printf_cons]
      apply Avoids.append
      · decide +kernel
      · exact avoids_translateItems buf len fun item h => h
  · exact avoids_dumpHex buf len

theorem stdoutOf_queryNotes (r : SysReply) : stdoutOf (queryNotes r) = [] := by
  rw [stdoutOf, List.flatMap_eq_nil_iff]
  exact forall_mem_queryNotes (fun _ => rfl) (fun _ => rfl)

/-! The protocol. -/

/-- The command line that `query_desc(0, 0)` makes up. -/
def descriptorLine (devicePath : Text) : List Text :=
  [lit "lsufs", lit "query", lit "-o", lit "1", lit "-i", lit "0", lit "-I",
   lit "0", lit "-s", lit "0", lit "-d", devicePath]

theorem initQueryOperation_descriptorLine {devicePath : Text}
    {op : LsufsOperation}
    (h : initQueryOperation (descriptorLine devicePath) {} = .ok op) :
    op.queryOp.opcode = queryReqOpReadDesc ∧ op.queryOp.idn = 0 := by
  have hwords : getoptLong queryShortOptions queryLongOptions
      (descriptorLine devicePath).tail =
      [⟨'o', lit "1"⟩, ⟨'i', lit "0"⟩, ⟨'I', lit "0"⟩, ⟨'s', lit "0"⟩] ++
        [⟨'d', devicePath⟩] := by
    rfl
  have hnumbers : List.foldlM setupQueryOption ({} : LsufsOperation)
      [⟨'o', lit "1"⟩, ⟨'i', lit "0"⟩, ⟨'I', lit "0"⟩, ⟨'s', lit "0"⟩] =
      .ok { queryOp :=
        { opcode := 1, idn := 0, index := 0, selector := 0 } } := by
    decide +kernel
  have hsetup : setupQueryOperation (descriptorLine devicePath) {} =
      initOperationPath devicePath { queryOp :=
        { opcode := 1, idn := 0, index := 0, selector := 0 } } := by
    rw [setupQueryOperation, hwords]
    show List.foldlM setupQueryOption _ (_ ++ _) = _
    rw [List.foldlM_append, hnumbers]
    show (initOperationPath devicePath _).bind .ok = _
    cases initOperationPath devicePath _ with
    | error entries => rfl
    | ok op => rfl
  have hparsed : (initOperationPath devicePath { queryOp :=
      { opcode := 1, idn := 0, index := 0, selector := 0 } }).bind
        queryOpSanityCheck = .ok op := by
    rw [← hsetup]
    exact h
  cases hpath : initDevicePath devicePath with
  | error message => simp [initOperationPath, hpath, Except.bind] at hparsed
  | ok path =>
      simp only [initOperationPath, hpath, Except.bind, queryOpSanityCheck,
        reject] at hparsed
      split_ifs at hparsed
      rw [← Except.ok.inj hparsed]
      exact ⟨rfl, rfl⟩

/-- The offsets `get_device_info` looks for. -/
def nameOffsets : List Nat := [0x14, 0x15, 0x2a]

/-- The script reads the bytes of the descriptor from the text. -/
def DescriptorFound (text : Text) (buf : Nat → UInt8) : Prop :=
  ∀ offset ∈ nameOffsets,
    descriptorByte offset text = some (buf offset).toNat

/-- What `lsufs` has in its buffer. -/
def descriptorBuffer (r : SysReply) : Nat → UInt8 :=
  byte (received (Vector.replicate _ 0) (UInt16.ofNat descriptorBufferSize) r)

/-- A device descriptor with all three bytes, in length and in segment. -/
structure DescriptorReply (r : SysReply) : Prop where
  transferred : bsgStatus r = 0
  segment : 0x2B ≤ (dataSegLen r).toNat ∧ (dataSegLen r).toNat ≤ 255
  length : 0x2B ≤ (descriptorBuffer r 0).toNat

instance (r : SysReply) : Decidable (DescriptorReply r) :=
  decidable_of_iff (bsgStatus r = 0 ∧ (0x2B ≤ (dataSegLen r).toNat ∧
      (dataSegLen r).toNat ≤ 255) ∧ 0x2B ≤ (descriptorBuffer r 0).toNat)
    ⟨fun h => ⟨h.1, h.2.1, h.2.2⟩,
      fun h => ⟨h.transferred, h.segment, h.length⟩⟩

/-- The text of a whole read of the device descriptor. -/
theorem avoids_queryTrace {op : LsufsOperation}
    (hopcode : op.queryOp.opcode = queryReqOpReadDesc)
    (hidn : op.queryOp.idn = 0) (o r : SysReply) :
    Avoids offsetEnd (stdoutOf (notesOf (queryTrace op o r))) := by
  have hnotes : notesOf (queryTrace op o r) = queryNotes r ++
      readDescriptorReport op.queryOp
        (queryResult (queryBufLen op.queryOp.opcode) r) ++
      [.close o.ret] := by
    simp [queryTrace, queryReport, hopcode]
  rw [hnotes, stdoutOf_append, stdoutOf_append, stdoutOf_queryNotes]
  apply Avoids.append
  · apply Avoids.append avoids_nil
    rw [readDescriptorReport]
    split
    · exact avoids_nil
    · exact avoids_descriptorNotes hidn _ _
  · exact avoids_nil

/-- Whatever the device answers, the script finds none of the three bytes: the
device descriptor is printed as a table of fields and a hex dump, and neither
has the offsets the script looks for. -/
theorem device_descriptor_never_found {devicePath : Text}
    {op : LsufsOperation}
    (hop : initQueryOperation (descriptorLine devicePath) {} = .ok op)
    (o r : SysReply) (hopen : 0 ≤ o.ret) (rest : List SysReply) (mem : S) :
    wp (doQueryOperation op) (fun ret m => ret = bsgStatus r ∧
        (∀ offset, descriptorByte offset (stdoutOf (notesOf m.trace)) = none) ∧
        ¬ DescriptorFound (stdoutOf (notesOf m.trace)) (descriptorBuffer r))
      (fun _ _ => False) (powerOn (o :: r :: rest) mem) := by
  obtain ⟨hopcode, hidn⟩ := initQueryOperation_descriptorLine hop
  rw [wp, doQueryOperation_run op (.inl hopcode) hopen]
  have hnone (offset : Nat) : descriptorByte offset
      (stdoutOf (notesOf (queryTrace op o r))) = none := by
    rw [descriptorByte, searchAfter_of_avoids (offsetEnd_infix_marker offset)
      (avoids_queryTrace hopcode hidn o r), Option.bind_none]
  refine ⟨rfl, hnone, ?_⟩
  intro hfound
  have hbyte := hfound 0x14 (by simp [nameOffsets])
  rw [hnone] at hbyte
  contradiction

/-- A descriptor of 64 bytes, all of them 0x40. -/
def plainDescriptor : SysReply :=
  { bsgReply := { upiuRsp := storeBe16 (Vector.replicate 32 0) 10 0x40 }
    data := List.replicate 0x40 0x40 }

theorem device_descriptor_never_found_plain :
    wp (doQueryOperation deviceDescriptorRead) (fun ret m =>
        ret = bsgStatus plainDescriptor ∧
        (∀ offset, descriptorByte offset (stdoutOf (notesOf m.trace)) = none) ∧
        ¬ DescriptorFound (stdoutOf (notesOf m.trace))
          (descriptorBuffer plainDescriptor))
      (fun _ _ => False) (powerOn [{ ret := 3 }, plainDescriptor] ()) :=
  device_descriptor_never_found
    (show initQueryOperation (descriptorLine (lit "/dev/ufs-bsg0")) {} =
      .ok deviceDescriptorRead by decide +kernel)
    { ret := 3 } plainDescriptor (by decide) [] ()

/-- A valid descriptor whose bytes the script does not find. -/
theorem plain_descriptor_not_found :
    DescriptorReply plainDescriptor ∧
      wp (doQueryOperation deviceDescriptorRead) (fun ret m =>
          ret = success ∧
            ¬ DescriptorFound (stdoutOf (notesOf m.trace))
              (descriptorBuffer plainDescriptor))
        (fun _ _ => False) (powerOn [{ ret := 3 }, plainDescriptor] ()) := by
  refine ⟨by decide +kernel, ?_⟩
  rw [wp, doQueryOperation_run deviceDescriptorRead (by decide) (by decide)]
  refine ⟨by decide +kernel, ?_⟩
  intro hfound
  have hbyte := hfound 0x14 (by simp [nameOffsets])
  rw [descriptorByte, searchAfter_of_avoids (offsetEnd_infix_marker 0x14)
    (avoids_queryTrace rfl rfl _ _)] at hbyte
  contradiction

end UfsTools
