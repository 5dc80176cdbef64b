/-
`ufs_bsg.h` and `ufs_bsg.c`: the UPIU blocks that travel through the BSG node,
with the several struct views the code lays over one block, and the system
calls of the two programs.
-/
import UfsTools.ByteCodec
import UfsTools.Common

namespace UfsTools

open CLib ByteCodec

/-- `enum bsg_ioctl_dir`: which of the two transfer lengths the buffer gets. -/
inductive BsgIoctlDir where
  | toDev
  | fromDev
deriving DecidableEq

/-- `struct utp_upiu_req`: the header dwords at 0, 4 and 8, behind them the
union of the query, attribute and UIC views. -/
abbrev UtpUpiuReq := Vector UInt8 32

/-! Offsets of the header and of the members of `utp_upiu_query`. -/

/-- The header: the transaction type is in the first dword, the function in the
second, the segment length in the third. -/
def dword0At : Nat := 0
def dword1At : Nat := 4
def dword2At : Nat := 8

/-- `utp_upiu_query`: the operands are four bytes in a row. -/
def opcodeAt : Nat := 12
def idnAt : Nat := 13
def indexAt : Nat := 14
def selectorAt : Nat := 15
def lengthAt : Nat := 18
def valueAt : Nat := 20

/-- `value` in the packed view `utp_upiu_query_attr`. -/
def attrValueAt : Nat := 16

/-! The four dwords of `struct uic_command`. -/

/-- The command number; its three arguments follow. -/
def uicCommandAt : Nat := 12
def uicArgument1At : Nat := 16
def uicArgument2At : Nat := 20
def uicArgument3At : Nat := 24

/-- `DWORD` without its `htobe32`, which is left to the store. -/
def DWORD (b3 b2 b1 b0 : UInt32) : UInt32 :=
  (b3 <<< 24) ||| (b2 <<< 16) ||| (b1 <<< 8) ||| b0

/-- A member of one byte. -/
def storeU8 (block : UtpUpiuReq) (offset : Nat) (x : UInt8) : UtpUpiuReq :=
  store block offset [x]

/-- `htobe16` into a member of the block. -/
def storeBe16 (block : UtpUpiuReq) (offset : Nat) (x : UInt16) : UtpUpiuReq :=
  store block offset (bigEndian 2 x.toNat)

/-- `htobe32` into a member of the block. -/
def storeBe32 (block : UtpUpiuReq) (offset : Nat) (x : UInt32) : UtpUpiuReq :=
  store block offset (bigEndian 4 x.toNat)

/-- `htobe64` into a member of the block. -/
def storeBe64 (block : UtpUpiuReq) (offset : Nat) (x : UInt64) : UtpUpiuReq :=
  store block offset (bigEndian 8 x.toNat)

/-- A dword in the byte order of the machine. -/
def storeU32 (block : UtpUpiuReq) (offset : Nat) (x : UInt32) : UtpUpiuReq :=
  store block offset (littleEndian 4 x.toNat)

/-- `be16toh` of a member of the block. -/
def loadBe16 (block : UtpUpiuReq) (offset : Nat) : UInt16 :=
  UInt16.ofNat (bigEndianValue (load block offset 2))

/-- `be32toh` of a member of the block. -/
def loadBe32 (block : UtpUpiuReq) (offset : Nat) : UInt32 :=
  UInt32.ofNat (bigEndianValue (load block offset 4))

/-- `be64toh` of a member of the block. -/
def loadBe64 (block : UtpUpiuReq) (offset : Nat) : UInt64 :=
  UInt64.ofNat (bigEndianValue (load block offset 8))

/-- A dword in the byte order of the machine. -/
def loadU32 (block : UtpUpiuReq) (offset : Nat) : UInt32 :=
  UInt32.ofNat (littleEndianValue (load block offset 4))

/-- A stored dword is loaded again. -/
theorem loadU32_storeU32 {block : UtpUpiuReq} {offset : Nat} {x : UInt32}
    (h : offset + 4 ≤ 32) : loadU32 (storeU32 block offset x) offset = x := by
  have hlen : (littleEndian 4 x.toNat).length = 4 := littleEndian_length 4 _
  have hload : load (store block offset (littleEndian 4 x.toNat)) offset
      (littleEndian 4 x.toNat).length = littleEndian 4 x.toNat :=
    load_store_same (by omega)
  rw [hlen] at hload
  rw [loadU32, storeU32, hload, littleEndianValue_littleEndian,
    Nat.mod_eq_of_lt (by simpa using x.toNat_lt)]
  exact UInt32.ofNat_toNat

/-- A store elsewhere leaves the dword. -/
theorem loadU32_storeU32_disjoint {block : UtpUpiuReq} {offset other : Nat}
    {x : UInt32} (h : offset + 4 ≤ other ∨ other + 4 ≤ offset) :
    loadU32 (storeU32 block other x) offset = loadU32 block offset := by
  rw [loadU32, storeU32, load_store_disjoint (by simpa using h), loadU32]

theorem byte_storeU8 {block : UtpUpiuReq} {offset : Nat} {x : UInt8}
    (h : offset < 32) : byte (storeU8 block offset x) offset = x := by
  rw [storeU8, byte_store_inside le_rfl (by simp) h, Nat.sub_self]
  rfl

theorem byte_storeU8_of_ne {block : UtpUpiuReq} {offset i : Nat} {x : UInt8}
    (h : i ≠ offset) : byte (storeU8 block offset x) i = byte block i := by
  apply byte_store_outside
  rw [List.length_singleton]
  omega

/-- Both ends of the transport agree on the byte order. -/
theorem loadBe32_storeBe32 {block : UtpUpiuReq} {offset : Nat} {x : UInt32}
    (h : offset + 4 ≤ 32) :
    loadBe32 (storeBe32 block offset x) offset = x := by
  rw [loadBe32, storeBe32, load_store_bigEndian h, bigEndianValue_bigEndian,
    Nat.mod_eq_of_lt (by simpa using x.toNat_lt)]
  exact UInt32.ofNat_toNat

theorem loadBe64_storeBe64 {block : UtpUpiuReq} {offset : Nat} {x : UInt64}
    (h : offset + 8 ≤ 32) :
    loadBe64 (storeBe64 block offset x) offset = x := by
  rw [loadBe64, storeBe64, load_store_bigEndian h, bigEndianValue_bigEndian,
    Nat.mod_eq_of_lt (by simpa using x.toNat_lt)]
  exact UInt64.ofNat_toNat

/-- `struct ufs_bsg_request`, whose message code says what the block is. -/
structure UfsBsgRequest where
  msgcode : UInt32
  upiuReq : UtpUpiuReq
deriving DecidableEq

/-- `struct ufs_bsg_reply`, all zero before the ioctl. -/
structure UfsBsgReply where
  result : Int := 0
  replyPayloadRcvLen : UInt32 := 0
  upiuRsp : UtpUpiuReq := Vector.replicate 32 0

/-- The arguments of the `SG_IO` ioctl as `ufs_bsg_io` fills them in. -/
structure SgIoV4 where
  guard : Char
  protocol : UInt32
  subprotocol : UInt32
  request : UfsBsgRequest
  requestLen : UInt32
  maxResponseLen : UInt32
  dinXferLen : UInt32
  doutXferLen : UInt32
deriving DecidableEq

/-- The flags `open` is called with. -/
inductive OpenFlag where
  | rdonly
  | rdwr
  | rdwrDirectCreat
deriving DecidableEq

/-- The system calls of both programs, with the arguments that matter to the
kernel. -/
inductive SysCall where
  | open (path : Text) (flag : OpenFlag)
  | ioctl (fd : Int) (sgIo : SgIoV4)
  | memalign (alignment size : Nat)
  | malloc (size : Nat)
  | pwrite (fd : Int) (count : Nat)
  | pread (fd : Int) (count : Nat)
  | fopen (path : Text)
  | clockGettime
deriving DecidableEq

/-- The outcome of a system call: its return value (a pointer counts as its
address, a clock as the seconds it shows) and, for the ioctl, what came back in
the `sg_io_v4`, in the reply and in the data buffer. -/
structure SysReply where
  ret : Int := 0
  errno : Int := 0
  info : UInt32 := 0
  deviceStatus : UInt32 := 0
  transportStatus : UInt32 := 0
  driverStatus : UInt32 := 0
  bsgReply : UfsBsgReply := {}
  data : List UInt8 := []

/-- A program of this repository between two steps. -/
abbrev Machine (S : Type) := Process.Machine SysCall SysReply Note S

/-- A program that makes these calls and leaves these notes. -/
abbrev Prog (S α : Type) := Process.Prog SysCall SysReply Note S α

/-- What a run has asked, was told and has left behind. -/
abbrev Trace := List (Process.Event SysCall SysReply Note)

/-- The state in which a program finds its environment. -/
def powerOn {S : Type} (replies : List SysReply) (mem : S) : Machine S :=
  ⟨replies, [], mem⟩

/-- An environment in which the node opens and one request is answered. -/
structure Answering where
  opened : SysReply
  reply : SysReply
  later : List SysReply
  opens : 0 ≤ opened.ret

/-- What comes back from it, in order. -/
def Answering.replies (e : Answering) : List SysReply :=
  e.opened :: e.reply :: e.later

/-! What a trace shows. -/

/-- What the program printed, stored, loaded and closed. -/
def notesOf (trace : Trace) : List Note :=
  trace.filterMap fun
    | .note entry => some entry
    | .call _ _ => none

/-- The requests handed to `ufs_bsg_io`, with the replies it got. -/
def exchangesOf (trace : Trace) : List (UfsBsgRequest × SysReply) :=
  trace.filterMap fun
    | .call (.ioctl _ sgIo) reply => some (sgIo.request, reply)
    | _ => none

@[simp] theorem notesOf_nil : notesOf [] = [] := rfl

@[simp] theorem notesOf_note (n : Note) (trace : Trace) :
    notesOf (.note n :: trace) = n :: notesOf trace := rfl

@[simp] theorem notesOf_call (c : SysCall) (r : SysReply) (trace : Trace) :
    notesOf (.call c r :: trace) = notesOf trace := rfl

@[simp] theorem exchangesOf_ioctl (fd : Int) (sgIo : SgIoV4) (r : SysReply)
    (trace : Trace) :
    exchangesOf (.call (.ioctl fd sgIo) r :: trace) =
      (sgIo.request, r) :: exchangesOf trace := rfl

@[simp] theorem notesOf_append (left right : Trace) :
    notesOf (left ++ right) = notesOf left ++ notesOf right := by
  simp [notesOf]

@[simp] theorem notesOf_map_note (entries : List Note) :
    notesOf (entries.map .note) = entries := by
  induction entries with
  | nil => rfl
  | cons entry entries ih => rw [List.map_cons, notesOf_note, ih]

@[simp] theorem exchangesOf_append (left right : Trace) :
    exchangesOf (left ++ right) = exchangesOf left ++ exchangesOf right := by
  simp [exchangesOf]

@[simp] theorem exchangesOf_map_note (entries : List Note) :
    exchangesOf (entries.map .note) = [] := by
  simp [exchangesOf]

/-! `ufs_bsg_io` -/

/-- The `sg_io_v4` of a request; only one direction has a length. -/
def sgIoRequest (request : UfsBsgRequest) (bufLen : UInt32)
    (dir : BsgIoctlDir) : SgIoV4 where
  guard := 'Q'
  protocol := 0
  subprotocol := 2
  request := request
  requestLen := 36
  maxResponseLen := 40
  dinXferLen := if dir = .fromDev then bufLen else 0
  doutXferLen := if dir = .fromDev then 0 else bufLen

/-- The value `ufs_bsg_io` returns: `-EIO` whenever the BSG layer reports an
error, else what the ioctl returned. -/
def bsgStatus (r : SysReply) : Int :=
  if r.info ≠ 0 ∨ r.bsgReply.result ≠ 0 then -5 else r.ret

/-- What `ufs_bsg_io` prints, of the ioctl and of the BSG layer. -/
def bsgNotes (r : SysReply) : List Note :=
  (if r.ret ≠ 0 then
    [prErr (lit "ufs_bsg_io: Error from sg_io ioctl (return value: " ++
      showInt r.ret ++ lit ", error no: " ++ showInt r.errno ++
      lit ")")]
  else []) ++
  (if r.info ≠ 0 ∨ r.bsgReply.result ≠ 0 then
    [prErr (lit "Error from sg_io - device_status: 0x" ++
      showHex r.deviceStatus.toNat ++ lit ", transport_status: 0x" ++
      showHex r.transportStatus.toNat ++ lit ", driver_status: 0x" ++
      showHex r.driverStatus.toNat ++ lit ", bsg reply result: 0x" ++
      showHex (UInt32.ofInt r.bsgReply.result).toNat ++ lit "\n")]
  else [])

/-- What holds of its two messages holds of all the transport prints. -/
theorem forall_mem_bsgNotes {P : Note → Prop} {r : SysReply}
    (hioctl : ∀ text, P (prErr (lit "ufs_bsg_io" ++ text)))
    (hsgIo : ∀ text, P (prErr (lit "Error from sg_io" ++ text))) :
    ∀ n ∈ bsgNotes r, P n := by
  intro n hn
  rcases List.mem_append.mp hn with hn | hn
  · split at hn
    · rw [List.mem_singleton.mp hn]
      exact hioctl _
    · contradiction
  · split at hn
    · rw [List.mem_singleton.mp hn]
      exact hsgIo _
    · contradiction

variable {S : Type}

/-- One request to the node: a call whose reply decides the return value and the
messages. -/
def ufsBsgIo (fd : Int) (request : UfsBsgRequest) (bufLen : UInt32)
    (dir : BsgIoctlDir) : Prog S (Int × SysReply) :=
  Process.exchange (.ioctl fd (sgIoRequest request bufLen dir))
    fun r => ((bsgStatus r, r), bsgNotes r)

/-- `open(2)` and its kin, of which only the return value is looked at. -/
def sysCall (c : SysCall) : Prog S Int :=
  Process.exchange c fun r => (r.ret, [])

end UfsTools
