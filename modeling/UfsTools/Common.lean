/-
`common.h` and `common.c`: the return codes, the option values the two
programs share, and what a function prints or touches on its way.
-/
import UfsTools.Getopt
import UfsTools.Process

namespace UfsTools

open CLib

/-- The return codes, and `INIT`, which says that a field was not given. -/
def success : Int := 0
def init : Int := -1
def error : Int := -2

def devicePathNameSizeMax : Nat := 256

/-- Where a message is printed to. -/
inductive Stream where
  | stdout
  | stderr
deriving DecidableEq

/-- What a run leaves behind between its system calls.  `load` is a read of the
buffer a descriptor is printed from, `store` a write to the array of EOM
results, `storeChar` a write to one of `size` characters, each with the index
used; `fprint` goes to the report file. -/
inductive Note where
  | print (stream : Stream) (text : Text)
  | fprint (text : Text)
  | load (index : Nat)
  | store (index : Nat)
  | storeChar (size index : Nat)
  | usleep (usec : Nat)
  | close (fd : Int)
deriving DecidableEq

/-- A write inside its array; other notes write no characters. -/
def Note.Inside : Note → Prop
  | .storeChar size index => index < size
  | _ => True

instance (n : Note) : Decidable n.Inside :=
  match n with
  | .storeChar size index => inferInstanceAs (Decidable (index < size))
  | .print _ _ | .fprint _ | .load _ | .store _ | .usleep _ | .close _ =>
      isTrue trivial

/-- A line on stdout. -/
def printf (text : Text) : Note := .print .stdout text

/-- `pr_err`, a line on stderr. -/
def prErr (text : Text) : Note := .print .stderr text

/-- All that a user who looks at stdout sees. -/
def stdoutOf (notes : List Note) : Text :=
  notes.flatMap fun
    | .print .stdout text => text
    | _ => []

@[simp] theorem stdoutOf_append (left right : List Note) :
    stdoutOf (left ++ right) = stdoutOf left ++ stdoutOf right := by
  simp [stdoutOf]

/-- The conversion `get_value_from_cli` and its ufseom sibling start with. -/
def convertCli (optarg : Text) : Option Int :=
  if lit "0x" <:+: optarg ∨ lit "0X" <:+: optarg then
    let (value, rest) := strtol 0 optarg
    if rest ≠ [] then none else some (toInt value)
  else some (atoi optarg)

/-- A zero that does not start with the character `0` came from no numeral. -/
def spuriousZero (value : Int) (optarg : Text) : Bool :=
  value = 0 ∧ optarg.head? ≠ some '0'

/-- `get_value_from_cli`: a negative number is rejected, as text is. -/
def getValueFromCli (optarg : Text) : Option Int :=
  match convertCli optarg with
  | none => none
  | some value =>
      if spuriousZero value optarg ∨ value < 0 then none else some value

/-- `get_ull_from_cli`: a sign wraps around. -/
def getUllFromCli (optarg : Text) : Option UInt64 :=
  if lit "0x" <:+: optarg ∨ lit "0X" <:+: optarg then
    let (value, rest) := strtoull 0 optarg
    if rest ≠ [] then none
    else if spuriousZero value optarg then none
    else some (UInt64.ofNat value)
  else
    let value := UInt64.ofInt (atoll optarg)
    if spuriousZero value.toNat optarg then none else some value

/-- The message of a rejected path, or the path as it is copied. -/
def initDevicePath (optarg : Text) : Except Text Text :=
  if optarg = [] then .error (lit "Need the path to bsg device.\n")
  else if devicePathNameSizeMax ≤ optarg.length then
    .error (lit "bsg device path is too long.\n")
  else .ok optarg

theorem convertCli_le {optarg : Text} {value : Int}
    (h : convertCli optarg = some value) : value ≤ intMax := by
  simp only [convertCli] at h
  split at h
  · split at h
    · contradiction
    · rw [← Option.some.inj h]
      exact toInt_le _
  · rw [← Option.some.inj h]
    exact toInt_le _

/-- A hexadecimal numeral that fits an `int` is read back. -/
theorem getValueFromCli_hex {n : Nat} (h : (n : Int) ≤ intMax) :
    getValueFromCli (lit "0x" ++ showHex n) = some (n : Int) := by
  have hlit : lit "0x" ++ showHex n = '0' :: 'x' :: showHex n := rfl
  have hinfix : lit "0x" <:+: lit "0x" ++ showHex n :=
    (List.prefix_append _ _).isInfix
  have hint : intMax = 2147483647 := rfl
  have hconvert : convertCli (lit "0x" ++ showHex n) = some (n : Int) := by
    rw [convertCli, if_pos (.inl hinfix), hlit, strtol_hex (by omega)]
    simp only [ne_eq, not_true_eq_false, if_false]
    rw [toInt_of_range (by omega) h]
  have hkeep : ¬ (spuriousZero n (lit "0x" ++ showHex n) ∨ (n : Int) < 0) := by
    rw [hlit]
    simp [spuriousZero]
  simp only [getValueFromCli, hconvert, if_neg hkeep]

/-- An accepted number fits an `int` and is not negative. -/
theorem getValueFromCli_range {optarg : Text} {value : Int}
    (h : getValueFromCli optarg = some value) :
    0 ≤ value ∧ value ≤ intMax := by
  simp only [getValueFromCli] at h
  split at h
  · contradiction
  · next v hconvert =>
      split at h
      · contradiction
      · next hkeep =>
          obtain rfl := Option.some.inj h
          simp only [not_or, not_lt] at hkeep
          exact ⟨hkeep.2, convertCli_le hconvert⟩

/-- `struct ufs_characteristics`, an entry of the tables of names. -/
structure UfsCharacteristics where
  id : UInt32
  name : Text

/-- The position of `id`, or `INIT`.  The terminating entry of the C table is
left out: its own id ends the search. -/
def characteristicsLookUp (table : List UfsCharacteristics) (id : UInt32) :
    Int :=
  match table.findIdx? fun c => c.id = id with
  | none => init
  | some i => i

/-- The name printed for an entry, `???` if the look-up found none. -/
def characteristicsName (table : List UfsCharacteristics) (id : Int) : Text :=
  if id < 0 then lit "???"
  else
    match table[id.toNat]? with
    | none => []
    | some c => c.name

/-! `dump_hex` -/

/-- A round of the loop of `dump_hex`: sixteen bytes a line. -/
def dumpHexByte (buf : Nat → UInt8) (offset : Nat) : List Note :=
  (if offset % 16 = 0 then
    [printf (lit "0x" ++ padZero 2 (showHex offset) ++ lit ": ")]
  else []) ++
  [.load offset,
    printf (padZero 2 (showHex (buf offset).toNat) ++ lit " ")] ++
  (if offset % 16 = 15 then [printf (lit "\n")] else [])

/-- `dump_hex`, which takes the length on trust. -/
def dumpHex (buf : Nat → UInt8) (len : Nat) : List Note :=
  printf (lit "\nHex Dump Raw Data:\n") ::
    (List.range len).flatMap (dumpHexByte buf) ++
    (if len % 16 ≠ 0 then [printf (lit "\n")] else [])

/-- The dump loads as many bytes as it is told. -/
theorem load_mem_dumpHex_iff (buf : Nat → UInt8) (len i : Nat) :
    .load i ∈ dumpHex buf len ↔ i < len := by
  have hbyte : ∀ offset, .load i ∈ dumpHexByte buf offset ↔ i = offset := by
    intro offset
    simp only [dumpHexByte, List.mem_append]
    split <;> split <;> simp [printf]
  simp only [dumpHex, List.cons_append, List.mem_cons, List.mem_append,
    List.mem_flatMap, List.mem_range, hbyte]
  split <;> simp [printf]

end UfsTools
