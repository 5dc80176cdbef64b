/-
Fixed-width byte encodings of natural numbers, and a block of bytes that is
read and written through views of several widths at given offsets.
-/
import Mathlib

namespace ByteCodec

/-- The `width` low bytes of `n`, most significant first. -/
def bigEndian : Nat → Nat → List UInt8
  | 0, _ => []
  | width + 1, n => bigEndian width (n / 256) ++ [UInt8.ofNat n]

def bigEndianValue (bytes : List UInt8) : Nat :=
  bytes.foldl (fun acc b => acc * 256 + b.toNat) 0

/-- The same bytes, least significant first. -/
def littleEndian (width n : Nat) : List UInt8 := (bigEndian width n).reverse

def littleEndianValue (bytes : List UInt8) : Nat := bigEndianValue bytes.reverse

@[simp] theorem bigEndian_length (width n : Nat) :
    (bigEndian width n).length = width := by
  induction width generalizing n with
  | zero => rfl
  | succ width ih => simp [bigEndian, ih]

@[simp] theorem littleEndian_length (width n : Nat) :
    (littleEndian width n).length = width := by
  simp [littleEndian]

theorem bigEndianValue_append (bytes : List UInt8) (b : UInt8) :
    bigEndianValue (bytes ++ [b]) = bigEndianValue bytes * 256 + b.toNat := by
  simp [bigEndianValue]

theorem bigEndianValue_bigEndian (width n : Nat) :
    bigEndianValue (bigEndian width n) = n % 256 ^ width := by
  induction width generalizing n with
  | zero => simp [bigEndian, bigEndianValue, Nat.mod_one]
  | succ width ih =>
      have hbyte : (UInt8.ofNat n).toNat = n % 256 := by simp
      rw [bigEndian, bigEndianValue_append, ih, hbyte, pow_succ', Nat.mod_mul]
      ring

/-- The upper bytes come first. -/
theorem bigEndian_add (upper lower n : Nat) :
    bigEndian (upper + lower) n =
      bigEndian upper (n / 256 ^ lower) ++ bigEndian lower n := by
  induction lower generalizing n with
  | zero => simp [bigEndian]
  | succ lower ih =>
      rw [← Nat.add_assoc, bigEndian, ih, bigEndian, List.append_assoc,
        Nat.div_div_eq_div_mul, ← pow_succ']

theorem littleEndianValue_littleEndian (width n : Nat) :
    littleEndianValue (littleEndian width n) = n % 256 ^ width := by
  rw [littleEndianValue, littleEndian, List.reverse_reverse, bigEndianValue_bigEndian]

/-! A block of `n` bytes. -/

variable {n : Nat}

def byte (block : Vector UInt8 n) (i : Nat) : UInt8 := block[i]?.getD 0

def load (block : Vector UInt8 n) (offset width : Nat) : List UInt8 :=
  (List.range width).map fun i => byte block (offset + i)

/-- Overwrite the bytes from `offset` on; what would fall behind the block is
dropped. -/
def store (block : Vector UInt8 n) (offset : Nat) (bytes : List UInt8) :
    Vector UInt8 n :=
  Vector.ofFn fun i =>
    if offset ≤ i.val then bytes.getD (i.val - offset) block[i] else block[i]

theorem byte_store_inside {block : Vector UInt8 n} {offset i : Nat}
    {bytes : List UInt8} (hlo : offset ≤ i) (hhi : i < offset + bytes.length)
    (hi : i < n) : byte (store block offset bytes) i = bytes.getD (i - offset) 0 := by
  have hindex : i - offset < bytes.length := by omega
  simp [byte, store, hlo, hi, hindex]

theorem byte_store_outside {block : Vector UInt8 n} {offset i : Nat}
    {bytes : List UInt8} (h : i < offset ∨ offset + bytes.length ≤ i) :
    byte (store block offset bytes) i = byte block i := by
  by_cases hi : i < n
  · by_cases hlo : offset ≤ i
    · have hindex : bytes.length ≤ i - offset := by omega
      simp [byte, store, hlo, hi, hindex]
    · simp [byte, store, hlo, hi]
  · simp [byte, hi]

theorem load_store_same {block : Vector UInt8 n} {offset : Nat}
    {bytes : List UInt8} (h : offset + bytes.length ≤ n) :
    load (store block offset bytes) offset bytes.length = bytes := by
  apply List.ext_getElem
  · simp [load]
  · intro i hi hi'
    simp only [load, List.getElem_map, List.getElem_range]
    rw [byte_store_inside (by omega) (by omega) (by omega)]
    simp [hi']

theorem load_store_bigEndian {block : Vector UInt8 n} {offset width x : Nat}
    (h : offset + width ≤ n) :
    load (store block offset (bigEndian width x)) offset width =
      bigEndian width x := by
  have hload : load (store block offset (bigEndian width x)) offset
      (bigEndian width x).length = bigEndian width x :=
    load_store_same (by simpa using h)
  rwa [bigEndian_length] at hload

theorem load_store_disjoint {block : Vector UInt8 n} {offset at' width : Nat}
    {bytes : List UInt8}
    (h : at' + width ≤ offset ∨ offset + bytes.length ≤ at') :
    load (store block offset bytes) at' width = load block at' width := by
  simp only [load, List.map_inj_left, List.mem_range]
  intro i hi
  exact byte_store_outside (by omega)

theorem load_add (block : Vector UInt8 n) (offset upper lower : Nat) :
    load block offset (upper + lower) =
      load block offset upper ++ load block (offset + upper) lower := by
  simp only [load, List.range_add, List.map_append, List.map_map,
    Function.comp_def, Nat.add_assoc]

/-- A narrower view of a stored number: its upper bytes are in front. -/
theorem load_of_bigEndian {block : Vector UInt8 n} {offset upper lower x : Nat}
    (h : load block offset (upper + lower) = bigEndian (upper + lower) x) :
    load block offset upper = bigEndian upper (x / 256 ^ lower) ∧
      load block (offset + upper) lower = bigEndian lower x := by
  rw [load_add, bigEndian_add] at h
  exact List.append_inj h (by simp [load])

/-- Blocks that agree over a range agree over every part of it. -/
theorem load_part {block other : Vector UInt8 n}
    {offset width offset' width' : Nat}
    (h : load block offset width = load other offset width)
    (hlo : offset ≤ offset') (hhi : offset' + width' ≤ offset + width) :
    load block offset' width' = load other offset' width' := by
  simp only [load, List.map_inj_left, List.mem_range] at h ⊢
  intro i hi
  have hbyte := h (offset' - offset + i) (by omega)
  rwa [← Nat.add_assoc, Nat.add_sub_cancel' hlo] at hbyte

theorem byte_eq_of_load_eq {block other : Vector UInt8 n} {offset : Nat}
    (h : load block offset 1 = load other offset 1) :
    byte block offset = byte other offset := by
  simpa [load] using h

end ByteCodec
