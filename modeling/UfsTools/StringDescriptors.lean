/-
The two decoders of a string descriptor: `ufseom` walks over its bytes, the
script searches the lines that `lsufs` prints for them.
-/
import UfsTools.DescriptorProtocol
import UfsTools.DeviceStrings

namespace UfsTools

open CLib PyText ByteCodec

/-- One line of a dump. -/
def dumpLine (buf : Nat → UInt8) (i : Nat) : Text :=
  lit "Offset 0x" ++ showHex i ++ lit " : 0x" ++ showHex (buf i).toNat ++
    lit "\n"

/-- The character a byte stands for; a zero stands for none. -/
def stringChar (b : UInt8) : Text :=
  if b = 0 then [] else [Char.ofNat b.toNat]

theorem stdoutOf_dumpDescriptor (buf : Nat → UInt8) (len : Nat) :
    stdoutOf (dumpDescriptor buf len) =
      (List.range len).flatMap (dumpLine buf) := by
  rw [stdoutOf, dumpDescriptor, List.flatMap_assoc]
  apply List.flatMap_congr
  intro i _
  simp [printf, dumpLine]

/-! Hexadecimal numerals. -/

theorem blank_not_mem_showHex (n : Nat) : ' ' ∉ showHex n := by
  intro hmem
  exact absurd (isAlnum_of_mem_showHex hmem) (by decide)

theorem showHex_injective {m n : Nat} (h : showHex m = showHex n) : m = n := by
  have hm := valueOf_toDigits (by decide : 1 < 16) le_rfl m
  rw [← showHex, h] at hm
  rw [← hm]
  exact valueOf_toDigits (by decide) le_rfl n

theorem showHex_eq_zero_iff (n : Nat) : showHex n = lit "0" ↔ n = 0 := by
  constructor
  · exact fun h => showHex_injective (n := 0) h
  · rintro rfl
    rfl

/-! The search for one line. -/

/-- Only the first letter of a line can start a match. -/
theorem offsetMarker_not_inside {buf : Nat → UInt8} {i k : Nat} (h : i ≠ k) :
    ¬ offsetMarker k <:+: offsetMarker i ++ showHex (buf i).toNat := by
  intro hinside
  have hother : 'O' ∉ lit "ffset 0x" ++ showHex i ++ lit " : 0x" ++
      showHex (buf i).toNat := by
    have hdigit (n : Nat) : 'O' ∉ showHex n := by
      intro hmem
      obtain ⟨d, hd, hchar⟩ := mem_toDigits (by decide) n _ hmem
      interval_cases d <;> exact absurd hchar (by decide)
    simp [lit, hdigit]
  have hfirst : offsetMarker i ++ showHex (buf i).toNat =
      'O' :: (lit "ffset 0x" ++ showHex i ++ lit " : 0x" ++
        showHex (buf i).toNat) := rfl
  rw [hfirst, List.infix_cons_iff] at hinside
  rcases hinside with hprefix | hrest
  · apply h
    apply showHex_injective
    have hnumbers : showHex k ++ ' ' :: lit ": 0x" <+:
        showHex i ++ ' ' :: (lit ": 0x" ++ showHex (buf i).toNat) := by
      have hsame : lit "Offset 0x" ++ (showHex k ++ ' ' :: lit ": 0x") <+:
          lit "Offset 0x" ++
            (showHex i ++ ' ' :: (lit ": 0x" ++ showHex (buf i).toNat)) := by
        simpa [offsetMarker, lit] using hprefix
      exact (List.prefix_append_right_inj _).mp hsame
    exact (prefix_append_cons_inj (blank_not_mem_showHex k)
      (blank_not_mem_showHex i) hnumbers).symm
  · apply hother
    apply hrest.subset
    simp [offsetMarker, lit]

theorem avoids_dumpLine {buf : Nat → UInt8} {i k : Nat} (h : i ≠ k) :
    Avoids (offsetMarker k) (dumpLine buf i) := by
  have hend : '\n' ∉ offsetMarker k := by
    have hdigit : '\n' ∉ showHex k := by
      intro hmem
      exact absurd (isAlnum_of_mem_showHex hmem) (by decide)
    simp [offsetMarker, lit, hdigit]
  exact avoids_line hend (offsetMarker_not_inside h)

/-- The search finds the line of the offset, wherever it stands. -/
theorem searchAfter_dumpLines (buf : Nat → UInt8) (is : List Nat) (k : Nat) :
    searchAfter (offsetMarker k) isAlnum (is.flatMap (dumpLine buf)) =
      if k ∈ is then some (showHex (buf k).toNat) else none := by
  induction is with
  | nil => rfl
  | cons i rest ih =>
      rw [List.flatMap_cons]
      by_cases hik : i = k
      · subst hik
        have hline : dumpLine buf i ++ rest.flatMap (dumpLine buf) =
            offsetMarker i ++ (showHex (buf i).toNat ++
              '\n' :: rest.flatMap (dumpLine buf)) := by
          simp [dumpLine, offsetMarker, lit]
        rw [hline, if_pos List.mem_cons_self]
        apply searchAfter_prefix
        · simp [offsetMarker, lit]
        · exact Nat.toDigits_ne_nil
        · exact fun c => isAlnum_of_mem_showHex
        · simp
          decide
      · have hmem : k ∈ i :: rest ↔ k ∈ rest := by
          simp [Ne.symm hik]
        rw [searchAfter_append (avoids_dumpLine hik), ih]
        simp only [hmem]

/-! The characters. -/

theorem stringChar_length_le (b : UInt8) : (stringChar b).length ≤ 1 := by
  rw [stringChar]
  split <;> simp

/-- What stands behind an offset is decoded as the byte walk does. -/
theorem parseDescChar_dump (buf : Nat → UInt8) (len i : Nat) :
    parseDescChar (stdoutOf (dumpDescriptor buf len)) i =
      some (if 2 * i + 3 < len then stringChar (buf (2 * i + 3)) else []) := by
  rw [parseDescChar, stdoutOf_dumpDescriptor, searchAfter_dumpLines]
  by_cases hline : 2 * i + 3 < len
  · have hzero : (buf (2 * i + 3)).toNat = 0 ↔ buf (2 * i + 3) = 0 := by
      rw [← UInt8.toNat_inj]
      rfl
    have hvalid : (buf (2 * i + 3)).toNat.isValidChar := by
      have hlt := (buf (2 * i + 3)).toNat_lt
      left
      omega
    simp only [List.mem_range, hline, if_true, showHex_eq_zero_iff, hzero,
      hexNumber_showHex, stringChar]
    split
    · rfl
    · simp [hvalid]
  · simp only [List.mem_range, hline, if_false]

/-- Text without the first letter of a marker is passed over. -/
theorem parseDescChar_append {x y : Text} (h : 'O' ∉ x) :
    parseDescChar (x ++ y) = parseDescChar y := by
  funext i
  have hmarker : offsetMarker (2 * i + 3) = 'O' :: (lit "ffset 0x" ++
      showHex (2 * i + 3) ++ lit " : 0x") := rfl
  rw [parseDescChar, parseDescChar, hmarker,
    searchAfter_append (avoids_of_head_not_mem h)]

theorem parseDesc_dump (buf : Nat → UInt8) (len n : Nat) :
    EomMisc.parseDesc (stdoutOf (dumpDescriptor buf len)) n =
      some ((List.range n).flatMap fun i =>
        if 2 * i + 3 < len then stringChar (buf (2 * i + 3)) else []) := by
  have hchars : parseDescChar (stdoutOf (dumpDescriptor buf len)) =
      fun i => pure
        (if 2 * i + 3 < len then stringChar (buf (2 * i + 3)) else []) :=
    funext fun i => parseDescChar_dump buf len i
  rw [EomMisc.parseDesc, hchars, List.mapM_pure]
  simp [List.flatMap_def]

/-! The walk over the bytes. -/

theorem parseStringDesc_eq_flatMap (buf : DescBuf) :
    parseStringDesc buf = (List.range' 2 ((byte buf 0).toNat - 2)).flatMap
      fun i => stringChar (byte buf i) := by
  have hdrop : (List.range (byte buf 0).toNat).drop 2 =
      List.range' 2 ((byte buf 0).toNat - 2) := by
    rw [List.range_eq_range', List.drop_range']
  rw [parseStringDesc, hdrop]
  induction List.range' 2 ((byte buf 0).toNat - 2) with
  | nil => rfl
  | cons i rest ih =>
      rw [List.map_cons, List.filterMap_cons, List.flatMap_cons, ← ih]
      rw [stringChar]
      split_ifs <;> rfl

/-- Where the even places add nothing, only the odd ones are left. -/
theorem flatMap_odd {α : Type*} {f : Nat → List α}
    (heven : ∀ i, f (2 * i + 2) = []) (n : Nat) :
    (List.range' 2 (2 * n)).flatMap f =
      (List.range n).flatMap fun i => f (2 * i + 3) := by
  induction n with
  | zero => rfl
  | succ n ih =>
      have hpair : List.range' 2 (2 * (n + 1)) =
          List.range' 2 (2 * n) ++ [2 * n + 2, 2 * n + 3] := by
        rw [show 2 * (n + 1) = 2 * n + 2 by ring, ← List.range'_append_1]
        simp only [List.range'_succ, List.range'_zero]
        congr 2
        · omega
        · congr 1
          omega
      rw [hpair, List.range_succ, List.flatMap_append, List.flatMap_append,
        ih]
      simp [heven]

/-- Places behind the end may be looked at if they add nothing. -/
theorem flatMap_beyond {α : Type*} {f : Nat → List α} {len m : Nat}
    (hle : len ≤ m) :
    (List.range' 2 m).flatMap (fun i => if i < 2 + len then f i else []) =
      (List.range' 2 len).flatMap f := by
  induction m, hle using Nat.le_induction with
  | base =>
      apply List.flatMap_congr
      intro i hi
      rw [List.mem_range'_1] at hi
      exact if_pos hi.2
  | succ m hle ih =>
      rw [List.range'_concat, List.flatMap_append, ih]
      simp [hle]

/-- A string descriptor of single-byte characters that `n` reads of the script
cover and `string_buf` can hold. -/
structure StringDescriptor (buf : DescBuf) (n : Nat) : Prop where
  header : 2 ≤ (byte buf 0).toNat
  covered : (byte buf 0).toNat ≤ 2 + 2 * n
  fits : (byte buf 0).toNat ≤ 72
  single : ∀ i < (byte buf 0).toNat, 2 ≤ i → i % 2 = 0 → byte buf i = 0

instance (buf : DescBuf) (n : Nat) : Decidable (StringDescriptor buf n) :=
  decidable_of_iff (2 ≤ (byte buf 0).toNat ∧
      (byte buf 0).toNat ≤ 2 + 2 * n ∧ (byte buf 0).toNat ≤ 72 ∧
      ∀ i < (byte buf 0).toNat, 2 ≤ i → i % 2 = 0 → byte buf i = 0)
    ⟨fun h => ⟨h.1, h.2.1, h.2.2.1, h.2.2.2⟩,
      fun h => ⟨h.header, h.covered, h.fits, h.single⟩⟩

variable {buf : DescBuf} {n : Nat}

theorem parseStringDesc_eq_odd (h : StringDescriptor buf n) {m : Nat}
    (hm : (byte buf 0).toNat ≤ 2 + 2 * m) :
    parseStringDesc buf = (List.range m).flatMap fun i =>
      if 2 * i + 3 < (byte buf 0).toNat then stringChar (byte buf (2 * i + 3))
      else [] := by
  have hheader := h.header
  rw [parseStringDesc_eq_flatMap,
    ← flatMap_beyond (show (byte buf 0).toNat - 2 ≤ 2 * m by omega),
    flatMap_odd]
  · simp only [Nat.add_sub_cancel' hheader]
  · intro i
    split
    · next hlt =>
        have hzero := h.single (2 * i + 2) (by omega) (by omega) (by omega)
        rw [hzero]
        rfl
    · rfl

/-- The non-zero bytes at the offsets 3, 5, … of a descriptor. -/
def oddCharacters (buf : DescBuf) : Text :=
  ((List.range (byte buf 0).toNat).filter fun i =>
    3 ≤ i ∧ i % 2 = 1 ∧ byte buf i ≠ 0).map fun i => Char.ofNat (byte buf i).toNat

theorem flatMap_stringChar (buf : DescBuf) (is : List Nat) :
    is.flatMap (fun i => stringChar (byte buf i)) =
      (is.filter fun i => byte buf i ≠ 0).map fun i =>
        Char.ofNat (byte buf i).toNat := by
  induction is with
  | nil => rfl
  | cons i rest ih =>
      rw [List.flatMap_cons, ih]
      by_cases hzero : byte buf i = 0
      · have hnone : stringChar (byte buf i) = [] := if_pos hzero
        rw [hnone, List.filter_cons_of_neg (by simpa using hzero)]
        rfl
      · have hone : stringChar (byte buf i) =
            [Char.ofNat (byte buf i).toNat] := if_neg hzero
        rw [hone, List.filter_cons_of_pos (by simpa using hzero)]
        rfl

theorem parseStringDesc_eq_oddCharacters (h : StringDescriptor buf n) :
    parseStringDesc buf = oddCharacters buf := by
  have hheader := h.header
  have hrange : List.range (byte buf 0).toNat =
      0 :: 1 :: List.range' 2 ((byte buf 0).toNat - 2) := by
    obtain ⟨len, hlen⟩ := Nat.exists_eq_add_of_le hheader
    rw [hlen, List.range_eq_range', Nat.add_comm 2 len, List.range'_succ,
      List.range'_succ]
    rfl
  rw [parseStringDesc_eq_flatMap, flatMap_stringChar, oddCharacters, hrange,
    List.filter_cons_of_neg (by simp), List.filter_cons_of_neg (by simp)]
  congr 1
  apply List.filter_congr
  intro i hi
  rw [List.mem_range'_1] at hi
  rw [decide_eq_decide]
  constructor
  · intro hbyte
    have hodd : i % 2 ≠ 0 := by
      intro heven
      exact hbyte (h.single i (by omega) hi.1 heven)
    exact ⟨by omega, by omega, hbyte⟩
  · exact fun hi => hi.2.2

theorem stringLength_lt (h : StringDescriptor buf n) :
    stringLength buf < stringBufferSize := by
  have hfits : (byte buf 0).toNat ≤ 2 + 2 * 35 := h.fits
  rw [← length_parseStringDesc, parseStringDesc_eq_odd h hfits,
    List.length_flatMap]
  calc ((List.range 35).map fun i => (if 2 * i + 3 < (byte buf 0).toNat then
          stringChar (byte buf (2 * i + 3)) else []).length).sum
      ≤ (List.range 35).length • 1 := by
        rw [← List.length_map (fun i => (if 2 * i + 3 < (byte buf 0).toNat then
          stringChar (byte buf (2 * i + 3)) else []).length)]
        apply List.sum_le_card_nsmul
        intro l hl
        obtain ⟨i, -, rfl⟩ := List.mem_map.mp hl
        split
        · exact stringChar_length_le _
        · simp
    _ < stringBufferSize := by decide

/-- The script reads from the dump of a string descriptor the string that
`parse_string_desc` builds from its bytes, which fits its buffer: the non-zero
bytes at the odd offsets. -/
theorem string_decoders_agree {buf : DescBuf} {n : Nat}
    (h : StringDescriptor buf n) :
    EomMisc.parseDesc
        (stdoutOf (dumpDescriptor (byte buf) (byte buf 0).toNat)) n =
      some (parseStringDesc buf) ∧
    parseStringDesc buf = oddCharacters buf ∧
    ∀ entry ∈ parseStringDescStores buf, entry.Inside := by
  refine ⟨?_, parseStringDesc_eq_oddCharacters h, ?_⟩
  · rw [parseDesc_dump, ← parseStringDesc_eq_odd h h.covered]
  · rw [parseStringDescStores_inside_iff]
    exact stringLength_lt h

/-- The string "AB", with a character in between that is not there. -/
def twoLetters : DescBuf :=
  store (Vector.replicate _ 0) 0 [8, 3, 0, 65, 0, 0, 0, 66]

theorem string_decoders_agree_two_letters :
    EomMisc.parseDesc
        (stdoutOf (dumpDescriptor (byte twoLetters) (byte twoLetters 0).toNat))
        16 = some (parseStringDesc twoLetters) ∧
    parseStringDesc twoLetters = oddCharacters twoLetters ∧
    ∀ entry ∈ parseStringDescStores twoLetters, entry.Inside :=
  string_decoders_agree (by decide +kernel)

/-- The heading `lsufs` puts above the dump does not disturb the script. -/
theorem parseDesc_descriptorNotes {qop : QueryOperation} (hidn : qop.idn = 5)
    (h : StringDescriptor buf n) :
    EomMisc.parseDesc (stdoutOf
        (descriptorNotes qop (byte buf) (byte buf 0).toNat)) n =
      some (parseStringDesc buf) := by
  have htable : characteristicsLookUp ufsDescriptors (UInt32.ofInt 5) ≠ 0 := by
    decide
  have hheading : 'O' ∉ lit "Descriptor IDN 0x" ++ intHex qop.idn ++
      lit " - " ++ qop.name ufsDescriptors ++ lit " :\n" := by
    rw [QueryOperation.name, hidn]
    decide
  have hdump := parseDesc_dump (byte buf) (byte buf 0).toNat n
  rw [← parseStringDesc_eq_odd h h.covered] at hdump
  rw [descriptorNotes, hidn, if_neg htable, ← hidn, stdoutOf_printf_cons,
    ← hdump, EomMisc.parseDesc, parseDescChar_append hheading,
    EomMisc.parseDesc]

end UfsTools
