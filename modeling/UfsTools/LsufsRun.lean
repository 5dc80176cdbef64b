/-
A whole run of lsufs on any device: which of its accepted command lines the
shell hands on to their operation, and the system calls of that operation.
-/
import UfsTools.EyeLink
import UfsTools.LsufsDispatch
import UfsTools.ShellWords

namespace UfsTools

open CLib Process

variable {D : Type} {dev : Device SysCall SysReply D}

abbrev LsufsRunMachine (D : Type) := LinkMachine D LsufsGlobals

/-! The line the shell puts together. -/

/-- The words the shell finds behind the command. -/
def lineArguments (argv : List Text) : List Text :=
  lineWords (joinLine (argv.drop 2))

theorem lineWords_command {command : Text} (hword : Word command)
    (rest : List Text) : lineWords (joinLine (command :: rest)) =
      command :: lineWords (joinLine rest) := by
  cases rest with
  | nil => exact lineWords_word hword
  | cons next rest => exact lineWords_cons hword _

theorem nul_not_mem_joined {args : List Text}
    (h : ∀ arg ∈ args, '\x00' ∉ arg) : '\x00' ∉ joinLine args := by
  induction args with
  | nil => simp [joinLine]
  | cons arg rest ih =>
      rw [List.forall_mem_cons] at h
      cases rest with
      | nil => exact h.1
      | cons next rest => simp [joinLine, h.1, ih h.2]

/-- The buffer holds the joined line, and a NUL behind it. -/
theorem joinedBuff_line {args : List Text}
    (hroom : (joinLine args).length < shellMaxCmdLen) :
    ∃ rest, joinedBuff args = joinLine args ++ '\x00' :: rest := by
  obtain ⟨k, hk⟩ := Nat.exists_eq_add_of_lt hroom
  refine ⟨List.replicate k '\x00', ?_⟩
  rw [joinedBuff_eq hroom.le, ← List.replicate_succ]
  congr 2
  omega

/-! The test for help. -/

theorem isNumber_dash (rest : Text) : isNumber ('-' :: rest) = false := by
  simp [isNumber, isDigit]

theorem isCharacter_dash (rest : Text) : isCharacter ('-' :: rest) = false := by
  cases rest <;> simp [isCharacter, isAlphabet]

theorem stems_string {buff word : Text} {ptr : Nat}
    (h : Stems buff (.string ptr) word) : cString buff ptr = word := by
  obtain ⟨ptr', hstring, hval⟩ := h
  simp only [shellVariant] at hval
  split_ifs at hval
  rw [ShellVariant.string.inj hval, hstring]

theorem stems_dash {buff rest : Text} {val : ShellVariant}
    (h : Stems buff val ('-' :: rest)) : ∃ ptr, val = .string ptr := by
  obtain ⟨ptr, hstring, rfl⟩ := h
  refine ⟨ptr, ?_⟩
  rw [shellVariant, hstring]
  simp [isCharacter_dash, isNumber_dash]

/-- A word that asks for help. -/
def HelpWord (word : Text) : Prop := word = lit "--help" ∨ word = lit "-h"

instance (word : Text) : Decidable (HelpWord word) :=
  inferInstanceAs (Decidable (_ ∨ _))

/-- The handlers look at the first argument. -/
theorem asksForHelp_iff {buff : Text} {vals : List ShellVariant}
    {words : List Text} (hstems : List.Forall₂ (Stems buff) vals words) :
    asksForHelp buff ⟨vals⟩ = true ↔
      ∃ word, words.head? = some word ∧ HelpWord word := by
  cases hstems with
  | nil => simp [asksForHelp, ShellCmdArgs.arg]
  | @cons val word vals words hhead hrest =>
      simp only [asksForHelp, ShellCmdArgs.arg, List.getD_cons_zero,
        List.head?_cons, Option.some.injEq, exists_eq_left', HelpWord]
      constructor
      · intro hasks
        split at hasks
        · rw [← stems_string hhead]
          exact of_decide_eq_true hasks
        · contradiction
      · intro hword
        obtain ⟨ptr, rfl⟩ : ∃ ptr, val = .string ptr := by
          rcases hword with rfl | rfl <;> exact stems_dash hhead
        dsimp only
        rw [stems_string hhead]
        exact decide_eq_true hword

/-! The shell. -/

variable {Q : Int → LsufsRunMachine D → Prop} {c : LsufsRunMachine D}

/-- The machine in which the shell has cut its line into words. -/
def interpreted (c : LsufsRunMachine D) (argv : List Text) (buff : Text)
    (ptr : Nat) (vals : List ShellVariant) : LsufsRunMachine D :=
  { c with
    trace := c.trace ++ (joinNotes argv).map .note
    mem := { c.mem with cmdBuff := buff, cmd := some ptr, args := ⟨vals⟩ } }

/-- Joining the arguments of a line that fits, cutting it into words, and the
call of the shell while a place for arguments stays free. -/
theorem meets_shellProcessCmdLineArgs {program command : Text}
    {rest : List Text} (hword : Word command)
    (hplain : ∀ arg ∈ rest, '\x00' ∉ arg)
    (hroom : joinedLength (program :: command :: rest) < shellMaxCmdLen)
    (hlast : c.mem.lastCmdHandler = none)
    (hmany : shellMaxArgs ≤ (lineWords (joinLine rest)).length →
      ∀ buff ptr vals,
        Q (-1) (interpreted c (program :: command :: rest) buff ptr vals))
    (hdispatch : (lineWords (joinLine rest)).length < shellMaxArgs →
      ∀ buff ptr vals, cString buff ptr = command →
        List.Forall₂ (Stems buff) vals (lineWords (joinLine rest)) →
        meets dev (shellDispatch kshellOp) Q
          (interpreted c (program :: command :: rest) buff ptr vals)) :
    meets dev
      (shellProcessCmdLineArgs kshellOp (program :: command :: rest)) Q c := by
  have hinside := ((join_inside_iff _).mpr hroom).inside
  have hlength := joinedLength_eq (program :: command :: rest)
  rw [List.tail_cons] at hinside hlength
  rw [hlength] at hroom
  obtain ⟨behind, hbuff⟩ := joinedBuff_line hroom
  have hnul : '\x00' ∉ joinLine (command :: rest) := by
    apply nul_not_mem_joined
    rw [List.forall_mem_cons]
    exact ⟨fun hmem => (hword.plain _ hmem).2 rfl, hplain⟩
  have hwords := lineWords_command hword rest
  have hmem : '\x00' ∈ joinedBuff (command :: rest) := by
    rw [hbuff]
    simp
  rcases interpretLine_line hnul behind with ⟨hnone, -⟩ |
    ⟨word, words, buff, ptr, vals, hline, hinterpreted, hcmd, hstems⟩
  · rw [hwords] at hnone
    exact absurd hnone (List.cons_ne_nil _ _)
  · rw [hwords] at hline
    obtain ⟨rfl, rfl⟩ := List.cons.inj hline
    rw [← hbuff] at hinterpreted
    have hgoes := goesOn_shellProcessCmdLineArgs program hinside
      hmem hlast
    simp only [hinterpreted] at hgoes
    apply hgoes.meets
    by_cases hfree : (lineWords (joinLine rest)).length < shellMaxArgs
    · rw [List.take_of_length_le hfree.le] at hstems
      simp only [if_pos hfree, ne_eq, not_true_eq_false, if_false]
      exact hdispatch hfree buff ptr vals hcmd hstems
    · have hfull : (-1 : Int) ≠ 0 := by decide
      simp only [if_neg hfree, if_pos hfull]
      apply meets_pure
      exact hmany (not_lt.mp hfree) buff ptr vals

/-! The operations. -/

/-- How an operation opens the node. -/
def OperationType.node (type : OperationType) (op : LsufsOperation) :
    SysCall :=
  match type with
  | .uic => .open op.devicePath
      (if op.uicOp.mode = some .get then .rdonly else .rdwr)
  | .query => .open op.devicePath (queryOpenFlag op.queryOp)

/-- An operation that sends a request. -/
def OperationType.Sends (type : OperationType) (op : LsufsOperation) : Prop :=
  match type with
  | .uic => op.uicOp.mode ≠ none
  | .query => SupportedOpcode op.queryOp.opcode

def OperationType.request (type : OperationType) (op : LsufsOperation)
    (fd : Int) : SysCall :=
  match type with
  | .uic => uicIoctl fd op.uicOp.sent
  | .query =>
      queryIoctl { op with fd := fd } (queryBufLen op.queryOp.opcode)

/-- What an operation returns once it has its reply. -/
def OperationType.status : OperationType → SysReply → Int
  | .uic => uicSetStatus
  | .query => bsgStatus

/-- What an operation says about its reply. -/
def OperationType.report (type : OperationType) (op : LsufsOperation)
    (r : SysReply) : List Note :=
  match type with
  | .uic => uicNotes r ++
      [if op.uicOp.mode = some .get then uicGetNote op.uicOp (uicStatus r)
        else uicSetNote op.uicOp (uicStatus r)]
  | .query => queryNotes r ++ queryReport op.queryOp
      (queryResult (queryBufLen op.queryOp.opcode) r)

def openFailed (fd : Int) : Note :=
  prErr (lit "Filed to open file (" ++ showInt fd ++ lit ").\n")

/-- What both operations are: the node is opened, one request is sent, and the
node is closed again. -/
def runRequest (type : OperationType) (op : LsufsOperation) :
    Prog LsufsGlobals Int := do
  let fd ← sysCall (type.node op)
  if fd < 0 then
    note (openFailed fd)
    pure error
  else
    let ret ← exchange (type.request op fd) fun r =>
      (type.status r, type.report op r)
    note (.close fd)
    pure ret

theorem run_eq_runRequest {type : OperationType} {op : LsufsOperation}
    (hsends : type.Sends op) : type.run op = runRequest type op := by
  cases type with
  | uic =>
      obtain ⟨fd, path, ⟨mode, dir, side, lane, attr, data⟩, qop⟩ := op
      cases mode with
      | none => exact absurd rfl hsends
      | some mode =>
          cases mode with
          | get => simp only [OperationType.run, doUicOperation,
              doUicGet_eq_exchange, runRequest]; rfl
          | set => simp only [OperationType.run, doUicOperation,
              doUicSet_eq_exchange, runRequest]; rfl
  | query =>
      have hdispatch : ∀ fd, (dispatchQuery { op with fd := fd } :
          Prog LsufsGlobals Int) = exchange (OperationType.query.request op fd)
            fun r => (bsgStatus r, OperationType.query.report op r) := by
        intro fd
        rw [dispatchQuery_of_supported { op with fd := fd } hsends,
          queryAndReport_eq_exchange]
        rfl
      simp only [OperationType.run, doQueryOperation, hdispatch, runRequest]
      rfl

/-- What an operation has opened. -/
def nodeOpened (dev : Device SysCall SysReply D) (d : D)
    (type : OperationType) (op : LsufsOperation) : Int :=
  (dev.answer d (type.node op)).ret

/-- The machine behind the request of an operation. -/
def requested (dev : Device SysCall SysReply D) (c : LsufsRunMachine D)
    (type : OperationType) (op : LsufsOperation) (fd : Int) :
    LsufsRunMachine D :=
  let r := dev.answer c.device (type.request op fd)
  { dev.after c (type.request op fd) with
    trace := (dev.after c (type.request op fd)).trace ++
      (type.report op r ++ [Note.close fd]).map .note }

theorem meets_runRequest {type : OperationType} {op : LsufsOperation}
    {fd : Int} (hfd : fd = nodeOpened dev c.device type op)
    (hunopened : fd < 0 → Q error { dev.after c (type.node op) with
      trace := (dev.after c (type.node op)).trace ++
        [.note (openFailed fd)] })
    (hsent : 0 ≤ fd → Q
      (type.status (dev.answer (dev.next c.device (type.node op))
        (type.request op fd)))
      (requested dev (dev.after c (type.node op)) type op fd)) :
    meets dev (runRequest type op) Q c := by
  rw [runRequest]
  apply meets_bind
  apply meets_sysCall
  rw [← nodeOpened, ← hfd]
  by_cases hneg : fd < 0
  · rw [if_pos hneg]
    apply meets_bind
    apply meets_note
    exact meets_pure (hunopened hneg)
  · rw [if_neg hneg]
    apply meets_bind
    apply meets_exchange
    apply meets_bind
    apply meets_note
    apply meets_pure
    have hreturned := hsent (not_lt.mp hneg)
    rw [requested, List.map_append, ← List.append_assoc] at hreturned
    exact hreturned

instance : (type : OperationType) → (op : LsufsOperation) →
    Decidable (type.Sends op)
  | .uic, op => inferInstanceAs (Decidable (op.uicOp.mode ≠ none))
  | .query, op => inferInstanceAs (Decidable (SupportedOpcode op.queryOp.opcode))

/-- The calls an operation makes of a device. -/
def operationCalls (dev : Device SysCall SysReply D) (d : D)
    (type : OperationType) (op : LsufsOperation) : List SysCall :=
  let fd := nodeOpened dev d type op
  type.node op :: if 0 ≤ fd ∧ type.Sends op then [type.request op fd] else []

/-- What the device answers to the request of an operation. -/
def operationReply (dev : Device SysCall SysReply D) (d : D)
    (type : OperationType) (op : LsufsOperation) : SysReply :=
  dev.answer (dev.next d (type.node op))
    (type.request op (nodeOpened dev d type op))

def operationStatus (dev : Device SysCall SysReply D) (d : D)
    (type : OperationType) (op : LsufsOperation) : Int :=
  if 0 ≤ nodeOpened dev d type op ∧ type.Sends op then
    type.status (operationReply dev d type op)
  else error

def opcodeUnsupported (qop : QueryOperation) : Note :=
  prErr (lit "Unsupported query request type - " ++ showInt qop.opcode ++
    lit "\n")

/-- What an operation says, with the node closed at the end. -/
def operationNotes (dev : Device SysCall SysReply D) (d : D)
    (type : OperationType) (op : LsufsOperation) : List Note :=
  let fd := nodeOpened dev d type op
  if fd < 0 then [openFailed fd]
  else (if type.Sends op then type.report op (operationReply dev d type op)
    else [opcodeUnsupported op.queryOp]) ++ [.close fd]

/-- The operation has run: it made its calls, said what it says, and the last
thing it did was to close what it had opened. -/
structure OperationRan (dev : Device SysCall SysReply D)
    (type : OperationType) (op : LsufsOperation) (c : LsufsRunMachine D)
    (ret : Int) (c' : LsufsRunMachine D) : Prop where
  mem : c'.mem = c.mem
  device : c'.device = (operationCalls dev c.device type op).foldl dev.next
    c.device
  calls : callsOf c'.trace =
    callsOf c.trace ++ operationCalls dev c.device type op
  notes : notesOf c'.trace =
    notesOf c.trace ++ operationNotes dev c.device type op
  status : ret = operationStatus dev c.device type op
  closed : 0 ≤ nodeOpened dev c.device type op → c'.trace.getLast? =
    some (.note (.close (nodeOpened dev c.device type op)))

section

variable {type : OperationType} {op : LsufsOperation}

theorem notesOf_after (x : SysCall) :
    notesOf (dev.after c x).trace = notesOf c.trace := by
  simp [Device.after]

/-- Nothing but the node was asked for. -/
theorem operationCalls_of_not
    (h : ¬ (0 ≤ nodeOpened dev c.device type op ∧ type.Sends op)) :
    operationCalls dev c.device type op = [type.node op] := by
  rw [operationCalls, if_neg h]

theorem operationRan_unopened (hneg : nodeOpened dev c.device type op < 0) :
    OperationRan dev type op c error { dev.after c (type.node op) with
      trace := (dev.after c (type.node op)).trace ++
        [.note (openFailed (nodeOpened dev c.device type op))] } := by
  have hnot : ¬ (0 ≤ nodeOpened dev c.device type op ∧ type.Sends op) :=
    fun h => absurd h.1 (not_le.mpr hneg)
  have hcalls := operationCalls_of_not hnot
  constructor
  · rfl
  · rw [hcalls]
    rfl
  · rw [hcalls, callsOf_append, callsOf_after]
    exact List.append_nil _
  · rw [notesOf_append, notesOf_after, operationNotes, if_pos hneg]
    rfl
  · rw [operationStatus, if_neg hnot]
  · exact fun hpos => absurd hpos (not_le.mpr hneg)

theorem operationRan_requested (hpos : 0 ≤ nodeOpened dev c.device type op)
    (hsends : type.Sends op) : OperationRan dev type op c
      (type.status (operationReply dev c.device type op))
      (requested dev (dev.after c (type.node op)) type op
        (nodeOpened dev c.device type op)) := by
  have hcalls : operationCalls dev c.device type op = [type.node op,
      type.request op (nodeOpened dev c.device type op)] := by
    rw [operationCalls, if_pos ⟨hpos, hsends⟩]
  constructor
  · rfl
  · rw [hcalls]
    rfl
  · rw [hcalls, requested, callsOf_append, callsOf_map_note, callsOf_after,
      callsOf_after, List.append_nil, List.append_assoc]
    rfl
  · rw [requested, notesOf_append, notesOf_map_note, notesOf_after,
      notesOf_after, operationNotes, if_neg (not_lt.mpr hpos), if_pos hsends]
    rfl
  · rw [operationStatus, if_pos ⟨hpos, hsends⟩]
  · intro _
    simp [requested]

theorem operationRan_unsupported
    (hpos : 0 ≤ nodeOpened dev c.device type op) (hnot : ¬ type.Sends op) :
    OperationRan dev type op c error { dev.after c (type.node op) with
      trace := (dev.after c (type.node op)).trace ++
        [opcodeUnsupported op.queryOp,
          Note.close (nodeOpened dev c.device type op)].map .note } := by
  have hcalls : operationCalls dev c.device type op = [type.node op] :=
    operationCalls_of_not fun h => hnot h.2
  constructor
  · rfl
  · rw [hcalls]
    rfl
  · rw [hcalls, callsOf_append, callsOf_map_note, callsOf_after,
      List.append_nil]
  · rw [notesOf_append, notesOf_map_note, notesOf_after, operationNotes,
      if_neg (not_lt.mpr hpos), if_neg hnot]
    rfl
  · rw [operationStatus, if_neg fun h => hnot h.2]
  · intro _
    simp

end

theorem meets_run {type : OperationType} {op : LsufsOperation}
    (hmode : type = .uic → op.uicOp.mode ≠ none)
    (h : ∀ ret c', OperationRan dev type op c ret c' → Q ret c') :
    meets dev (type.run op) Q c := by
  by_cases hsends : type.Sends op
  · rw [run_eq_runRequest hsends]
    apply meets_runRequest rfl
    · exact fun hneg => h _ _ (operationRan_unopened hneg)
    · exact fun hpos => h _ _ (operationRan_requested hpos hsends)
  · cases type with
    | uic => exact absurd (hmode rfl) hsends
    | query =>
        have hunknown (fd : Int) := dispatchQuery_of_not_supported
          (S := LsufsGlobals) { op with fd := fd } hsends
        rw [OperationType.run, doQueryOperation]
        apply meets_bind
        apply meets_sysCall
        change meets dev (if nodeOpened dev c.device .query op < 0 then _
          else _) Q (dev.after c (OperationType.query.node op))
        by_cases hneg : nodeOpened dev c.device .query op < 0
        · rw [if_pos hneg]
          apply meets_bind
          apply meets_note
          exact meets_pure (h _ _ (operationRan_unopened hneg))
        · rw [if_neg hneg, hunknown]
          apply meets_bind
          apply meets_bind
          apply meets_note
          apply meets_pure
          apply meets_bind
          apply meets_note
          apply meets_pure
          have hran := operationRan_unsupported (not_lt.mp hneg) hsends
          rw [List.map_cons, List.append_cons] at hran
          exact h _ _ hran

/-! The shell and the operation. -/

/-- The operation behind an accepted command line: the words fit `arg_val`, and
the first of them does not ask for help. -/
structure Dispatchable (argv : List Text) : Prop where
  words : (lineArguments argv).length < shellMaxArgs
  help : ∀ word, (lineArguments argv).head? = some word → ¬ HelpWord word

theorem dispatchable_iff (argv : List Text) :
    Dispatchable argv ↔ (lineArguments argv).length < shellMaxArgs ∧
      ∀ word ∈ (lineArguments argv).head?, ¬ HelpWord word :=
  ⟨fun h => ⟨h.words, h.help⟩, fun h => ⟨h.1, h.2⟩⟩

instance (argv : List Text) : Decidable (Dispatchable argv) :=
  decidable_of_iff' _ (dispatchable_iff argv)

def lsufsStart : LsufsGlobals := { user := {} }

def allocation (argv : List Text) : SysCall :=
  .malloc (sizeofPointer * argv.length)

/-- The operation is to run: the record is what the option parser made of the
command line, and nothing but the copy of the arguments was asked for. -/
structure Begun (dev : Device SysCall SysReply D) (d : D) (argv : List Text)
    (type : OperationType) (op : LsufsOperation) (entries : List Note)
    (c : LsufsRunMachine D) : Prop where
  device : c.device = dev.next d (allocation argv)
  record : c.mem.user.op = op
  invoked : c.mem.user.invoked = [type.invocation op]
  calls : callsOf c.trace = [allocation argv]
  printed : stdoutOf (notesOf c.trace) = stdoutOf entries

/-- Nothing was run. -/
structure Refused (argv : List Text) (ret : Int) (c : LsufsRunMachine D) :
    Prop where
  status : ret = if shellMaxArgs ≤ (lineArguments argv).length then -1
    else error
  invoked : c.mem.user.invoked = []
  calls : callsOf c.trace = [allocation argv]

/-- The call of the shell with the name of an operation. -/
theorem meets_shellDispatch {type : OperationType} {ptr : Nat}
    (hcmd : c.mem.cmd = some ptr)
    (hword : cString c.mem.cmdBuff ptr = type.name)
    (hcmds : c.mem.cmds = lsufsCmds)
    (hhelp : asksForHelp c.mem.cmdBuff c.mem.args = true →
      ∀ last, Q error { c with mem := { c.mem with lastCmdHandler := last } })
    (hrun : asksForHelp c.mem.cmdBuff c.mem.args = false →
      meets dev (type.run c.mem.user.op) (fun ret c' => ∀ last,
        Q ret { c' with mem := { c'.mem with lastCmdHandler := last } })
          { c with mem := c.mem.calling type }) :
    meets dev (shellDispatch kshellOp) Q c := by
  obtain ⟨helpStr, hlookup⟩ := lookupCmd_name type
  rw [← hcmds, ← hword] at hlookup
  apply (goesOn_shellDispatch hcmd hlookup).meets_silent
  apply meets_bind
  have hsettle {ret : Int} {c' : LsufsRunMachine D}
      (hret : ∀ last, Q ret { c' with mem := { c'.mem with
        lastCmdHandler := last } }) :
      meets dev (do
        modify fun g : LsufsGlobals =>
          { g with lastCmdHandler := some (.user type) }
        pure ret) Q c' := by
    apply meets_bind
    apply meets_modify
    exact meets_pure (hret _)
  cases hasks : asksForHelp c.mem.cmdBuff c.mem.args with
  | true =>
      apply (goesOn_kshellOp_help hasks).meets_silent
      exact meets_pure (hsettle (hhelp hasks))
  | false =>
      apply (goesOn_kshellOp hasks).meets_silent
      exact meets_imp (hrun hasks) fun _ _ => hsettle

theorem stdoutOf_joinNotes (argv : List Text) :
    stdoutOf (joinNotes argv) = [] :=
  stdoutOf_storeChars _ _

/-- The rule for a whole run with the command line of an operation. -/
theorem meets_lsufsMain {d : D} {program : Text} {type : OperationType}
    {rest argv : List Text} {op : LsufsOperation} {entries : List Note}
    (hargv : argv = program :: type.name :: rest)
    (hparse : lsufsParseArgs argv lsufsOp = .ok (op, entries))
    (hplain : ∀ arg ∈ rest, '\x00' ∉ arg)
    (hroom : joinedLength argv < shellMaxCmdLen)
    (halloc : (dev.answer d (allocation argv)).ret ≠ 0)
    (hrefused : ¬ Dispatchable argv → ∀ ret c, Refused argv ret c → Q ret c)
    (hrun : Dispatchable argv → ∀ c, Begun dev d argv type op entries c →
      meets dev (type.run op) (fun ret c' => ∀ last,
        Q ret { c' with mem := { c'.mem with lastCmdHandler := last } }) c) :
    meets dev (lsufsMain argv) Q ⟨d, [], lsufsStart⟩ := by
  rw [lsufsMain]
  apply meets_bind
  apply meets_sysCall
  rw [← allocation, if_neg halloc]
  apply meets_bind
  apply (goesOn_shellInit _ _).meets_silent
  apply meets_pure
  apply meets_bind
  apply meets_get
  have hop : lsufsStart.user.op = lsufsOp := rfl
  simp only [Device.after, hop, hparse]
  apply meets_bind
  apply meets_notes
  apply meets_bind
  apply meets_modify
  apply meets_bind
  apply GoesOn.meets_silent
  · apply goesOn_shellAddCmd ⟨_, .user .uic, _⟩
    exact (by decide : 4 < shellMaxCmds)
  apply meets_pure
  apply meets_bind
  apply GoesOn.meets_silent
  · apply goesOn_shellAddCmd ⟨_, .user .query, _⟩
    exact (by decide : 5 < shellMaxCmds)
  apply meets_pure
  subst hargv
  apply meets_shellProcessCmdLineArgs (word_name type) hplain hroom rfl
  · intro hmany buff ptr vals
    have hlong : shellMaxArgs ≤
        (lineArguments (program :: type.name :: rest)).length := hmany
    refine hrefused (fun hd => absurd hd.words (not_lt.mpr hlong)) _ _ ⟨?_, rfl,
      ?_⟩
    · rw [if_pos hlong]
    · simp [interpreted, callsOf]
  · intro hfree buff ptr vals hcmd hstems
    have hasks := asksForHelp_iff hstems
    apply meets_shellDispatch rfl hcmd rfl
    · intro hhelp last
      obtain ⟨word, hhead, hword⟩ := hasks.mp hhelp
      refine hrefused (fun hd => hd.help word hhead hword) _ _ ⟨?_, rfl, ?_⟩
      · exact (if_neg (not_le.mpr hfree)).symm
      · simp [interpreted, callsOf]
    · intro hhelp
      have hd : Dispatchable (program :: type.name :: rest) := by
        refine ⟨hfree, fun word hhead hword => ?_⟩
        have hasked := hasks.mpr ⟨word, hhead, hword⟩
        rw [interpreted] at hhelp
        rw [hhelp] at hasked
        contradiction
      apply hrun hd
      refine ⟨rfl, rfl, rfl, ?_, ?_⟩
      · simp [interpreted, callsOf]
      · simp [interpreted, stdoutOf_joinNotes]

/-- Where the command line is accepted, so is what a UIC operation is told. -/
theorem uicAccepted_of_dispatchable {program : Text} {type : OperationType}
    {rest argv : List Text} {op : LsufsOperation} {entries : List Note}
    (hargv : argv = program :: type.name :: rest)
    (hparse : lsufsParseArgs argv lsufsOp = .ok (op, entries))
    (hd : Dispatchable argv) : type = .uic → UicAccepted op.uicOp := by
  rintro rfl
  cases lsufsParseArgs_accepted hparse with
  | info hline hcommand =>
      obtain rfl := (List.cons.inj (List.cons.inj (hargv.symm.trans hline)).2).1
      rcases hcommand with h | h <;> exact absurd h (by decide)
  | @operationHelp program' word type' hline hword =>
      subst hline
      have hargument : lineArguments [program', type'.name, word] = [word] := by
        have hplain : Word word := by
          rcases hword with rfl | rfl <;> decide
        exact lineWords_word hplain
      have hask : HelpWord word := hword.symm
      exact absurd hask (hd.help word (by rw [hargument]; rfl))
  | @operation program' type' rest' hline honce =>
      obtain rfl : type' = .uic := by
        have hname := (List.cons.inj
          (List.cons.inj (hargv.symm.trans hline)).2).1
        cases type' with
        | uic => rfl
        | query => exact absurd hname (by decide)
      cases honce with
      | uic hinit hset => exact initUicOperation_accepted hinit

/-! One run with a command line that is handed on. -/

/-- A command line of an operation that lsufs accepts and hands on. -/
structure LsufsJob where
  argv : List Text
  program : Text
  type : OperationType
  rest : List Text
  op : LsufsOperation
  entries : List Note
  line : argv = program :: type.name :: rest
  accepted : lsufsParseArgs argv lsufsOp = .ok (op, entries)
  plain : ∀ arg ∈ rest, '\x00' ∉ arg
  room : joinedLength argv < shellMaxCmdLen
  dispatchable : Dispatchable argv

namespace LsufsJob

variable (job : LsufsJob) (dev : Device SysCall SysReply D) (d : D)

/-- The device once the arguments are copied. -/
def copied : D := dev.next d (allocation job.argv)

def ends : Int := operationStatus dev (job.copied dev d) job.type job.op

def prints : Text :=
  stdoutOf job.entries ++
    stdoutOf (operationNotes dev (job.copied dev d) job.type job.op)

def leaves : D :=
  (operationCalls dev (job.copied dev d) job.type job.op).foldl dev.next
    (job.copied dev d)

/-- What the run of a job comes to. -/
structure Done (ret : Int) (c : LsufsRunMachine D) : Prop where
  ends : ret = job.ends dev d
  prints : stdoutOf (notesOf c.trace) = job.prints dev d
  leaves : c.device = job.leaves dev d

theorem meets_main (host : Host D) :
    meets host.device (lsufsMain job.argv) (job.Done host.device d)
      ⟨d, [], lsufsStart⟩ := by
  apply meets_lsufsMain job.line job.accepted job.plain job.room
    (host.allocates _ _)
  · exact fun hnot => absurd job.dispatchable hnot
  · intro hd c hbegun
    apply meets_run fun huic =>
      (uicAccepted_of_dispatchable job.line job.accepted hd huic).mode
    intro ret c' hran last
    have hcopied : c.device = job.copied host.device d := hbegun.device
    constructor
    · rw [hran.status, hcopied, ends]
    · have hnotes := congrArg stdoutOf hran.notes
      rw [stdoutOf_append, hbegun.printed, hcopied] at hnotes
      exact hnotes
    · have hdevice := hran.device
      rw [hcopied] at hdevice
      exact hdevice

end LsufsJob

/-- On any device, and for any accepted command line of an operation that fits
the buffer of the shell, lsufs does one of two things.  If the words fit
`arg_val` and the first of them does not ask for help, it runs the operation:
the node is opened, the one request is sent unless that failed or the opcode is
not supported, the node is closed, and the status of the operation is returned.
Else the node is not even opened. -/
theorem lsufs_runs_exactly (dev : Device SysCall SysReply D) (d : D)
    (program : Text) (type : OperationType) (rest argv : List Text)
    (op : LsufsOperation) (entries : List Note)
    (hargv : argv = program :: type.name :: rest)
    (hparse : lsufsParseArgs argv lsufsOp = .ok (op, entries))
    (hplain : ∀ arg ∈ rest, '\x00' ∉ arg)
    (hroom : joinedLength argv < shellMaxCmdLen)
    (halloc : (dev.answer d (allocation argv)).ret ≠ 0) :
    meets dev (lsufsMain argv) (fun ret c =>
      (Dispatchable argv → ∃ c₁, Begun dev d argv type op entries c₁ ∧
        ∃ c₂, OperationRan dev type op c₁ ret c₂ ∧ c.trace = c₂.trace ∧
          c.mem.user = c₂.mem.user) ∧
      (¬ Dispatchable argv → Refused argv ret c)) ⟨d, [], lsufsStart⟩ := by
  apply meets_lsufsMain hargv hparse hplain hroom halloc
  · exact fun hnot ret c hrefused =>
      ⟨fun hd => absurd hd hnot, fun _ => hrefused⟩
  · intro hd c₁ hbegun
    apply meets_run fun huic =>
      (uicAccepted_of_dispatchable hargv hparse hd huic).mode
    intro ret c₂ hran last
    exact ⟨fun _ => ⟨c₁, hbegun, c₂, hran, rfl, rfl⟩,
      fun hnot => absurd hd hnot⟩

/-- What `getLine` asks for, with the three defaults. -/
def getOperation : LsufsOperation :=
  { lsufsOp with
    devicePath := lit "/dev/ufs-bsg0"
    uicOp := ⟨some .get, some .tx, some .localSide, 0, 0xf6,
      UInt32.ofInt init⟩ }

def getEntries : List Note :=
  [printf (lit "local/peer is not given, assume local.\n"),
   printf (lit "Tx/Rx is not given, assume Tx.\n"),
   printf (lit "Lane N is not given, assume lane 0.\n")]

theorem getLine_accepted :
    lsufsParseArgs getLine lsufsOp = .ok (getOperation, getEntries) := by
  decide +kernel

/-- A node that opens, and answers every request with zeros. -/
def quietNode : Device SysCall SysReply Unit where
  answer _ call :=
    match call with
    | .ioctl _ _ => {}
    | _ => { ret := 3 }
  next d _ := d

theorem lsufs_runs_exactly_get_line :
    meets quietNode (lsufsMain getLine) (fun ret c =>
      (Dispatchable getLine → ∃ c₁, Begun quietNode () getLine .uic
          getOperation getEntries c₁ ∧
        ∃ c₂, OperationRan quietNode .uic getOperation c₁ ret c₂ ∧
          c.trace = c₂.trace ∧ c.mem.user = c₂.mem.user) ∧
      (¬ Dispatchable getLine → Refused getLine ret c))
      ⟨(), [], lsufsStart⟩ :=
  lsufs_runs_exactly quietNode () (lit "lsufs") .uic _ getLine getOperation
    getEntries rfl getLine_accepted (by decide) (by decide) (by decide)

end UfsTools
