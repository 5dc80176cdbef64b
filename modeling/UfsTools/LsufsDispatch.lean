/-
The two readings of a command line by lsufs: the option parsers check it, and
the shell decides from the joined line which operation runs.
-/
import UfsTools.ShellBuffer
import UfsTools.UicRequest

namespace UfsTools

open CLib Process

/-! What runs at most once, and on which record. -/

structure UicSet (uop : UicOperation) : Prop where
  mode : uop.mode ≠ none
  dir : uop.dir ≠ none
  side : uop.localPeer ≠ none
  lane : uop.lane ≠ init
  attrId : uop.attrId ≠ init

structure QuerySet (qop : QueryOperation) : Prop where
  opcode : qop.opcode ≠ init
  idn : qop.idn ≠ init
  index : qop.index ≠ init
  selector : qop.selector ≠ init

/-- The record of lsufs before its options are read. -/
def lsufsOp : LsufsOperation := ({} : Lsufs).op

/-- The operations that were run: none, or one, on the record that its option
parser made of the command line. -/
inductive InvokedOnce (argv : List Text) : List Invocation → Prop
  | nothing : InvokedOnce argv []
  | uic {op : LsufsOperation} {entries : List Note}
      (hinit : initUicOperation argv lsufsOp = .ok (op, entries))
      (hset : UicSet op.uicOp) : InvokedOnce argv [.uic op]
  | query {op : LsufsOperation}
      (hinit : initQueryOperation argv lsufsOp = .ok op)
      (hset : QuerySet op.queryOp) : InvokedOnce argv [.query op]

theorem UicAccepted.set {uop : UicOperation} (h : UicAccepted uop) :
    UicSet uop := by
  have hinit : init < 0 := by decide
  constructor
  · exact h.mode
  · exact h.dir
  · exact h.side
  · exact ne_of_gt (hinit.trans_le h.lane)
  · exact ne_of_gt (hinit.trans_le h.attrId)

theorem OperandsAccepted.set {qop : QueryOperation}
    (h : OperandsAccepted qop) : QuerySet qop := by
  have hinit : init < 0 := by decide
  constructor
  · exact ne_of_gt (hinit.trans_le h.opcode)
  · exact ne_of_gt (hinit.trans_le h.idn)
  · exact ne_of_gt (hinit.trans_le h.index)
  · exact ne_of_gt (hinit.trans_le h.selector)

def OperationType.name : OperationType → Text
  | .uic => lit "uic"
  | .query => lit "query"

def OperationType.invocation : OperationType → LsufsOperation → Invocation
  | .uic => .uic
  | .query => .query

theorem initOperation_invokedOnce {type : OperationType} {argv : List Text}
    {op : LsufsOperation} {entries : List Note}
    (h : initOperation type argv lsufsOp = .ok (op, entries)) :
    InvokedOnce argv [type.invocation op] := by
  cases type with
  | uic =>
      simp only [initOperation] at h
      split at h
      · contradiction
      · next result hinit =>
          obtain rfl := Except.ok.inj h
          exact .uic hinit (initUicOperation_accepted hinit).set
  | query =>
      simp only [initOperation] at h
      split at h
      · contradiction
      · next op' hinit =>
          obtain ⟨rfl, -⟩ := Prod.mk.inj (Except.ok.inj h)
          exact .query hinit (initQueryOperation_accepted hinit).set

/-! What `parse_args` lets through. -/

inductive LineAccepted (argv : List Text) (op : LsufsOperation) : Prop
  | info {program command : Text} {rest : List Text}
      (hargv : argv = program :: command :: rest)
      (hcommand : command = lit "-v" ∨ command = lit "-h")
  | operationHelp {program word : Text} {type : OperationType}
      (hargv : argv = [program, type.name, word])
      (hword : word = lit "-h" ∨ word = lit "--help")
  | operation {program : Text} {type : OperationType} {rest : List Text}
      (hargv : argv = program :: type.name :: rest)
      (hinvoked : InvokedOnce argv [type.invocation op])

theorem lsufsNts_find {command name : Text} {type : OperationType}
    (h : (lsufsNts.find? fun nt => nt.1 = command) = some (name, type)) :
    command = type.name := by
  have hmem := List.mem_of_find?_eq_some h
  have hfound := List.find?_some h
  have hname : name = command := of_decide_eq_true hfound
  simp only [lsufsNts, List.mem_cons, Prod.mk.injEq, List.not_mem_nil,
    or_false] at hmem
  rcases hmem with ⟨rfl, rfl⟩ | ⟨rfl, rfl⟩ <;> exact hname.symm

theorem lsufsParseArgs_accepted {argv : List Text} {op : LsufsOperation}
    {entries : List Note}
    (h : lsufsParseArgs argv lsufsOp = .ok (op, entries)) :
    LineAccepted argv op := by
  match argv, h with
  | program :: command :: rest, h =>
      simp only [lsufsParseArgs] at h
      split at h
      · next hversion => exact .info rfl (.inl hversion)
      split at h
      · next hhelp => exact .info rfl (.inr hhelp)
      split at h
      · contradiction
      next name type hfind =>
        obtain rfl := lsufsNts_find hfind
        split at h
        · next hrest =>
            rcases hrest with rfl | rfl
            · exact .operationHelp rfl (.inl rfl)
            · exact .operationHelp rfl (.inr rfl)
        · exact .operation rfl (initOperation_invokedOnce h)

/-! The table of commands. -/

def shellCmds : List (ShellCmd OperationType) :=
  [⟨lit "help", .help, lit "print all available cmds"⟩,
   ⟨lit "exit", .exit, lit "exit shell"⟩,
   ⟨lit "quit", .exit, lit "quit shell"⟩,
   ⟨lit "targs", .testArgs, lit "test args"⟩]

def lsufsCmds : List (ShellCmd OperationType) :=
  shellCmds ++
    [⟨lit "uic", .user .uic, lit "Please try 'uic -h'\n"⟩,
     ⟨lit "query", .user .query, lit "Please try 'query -h'\n"⟩]

/-- The options of lsufs itself abbreviate no command. -/
theorem lookupCmd_info {command : Text}
    (h : command = lit "-v" ∨ command = lit "-h") :
    lookupCmd lsufsCmds command = none := by
  rcases h with rfl | rfl <;> decide +kernel

/-- The name of an operation abbreviates no command in front of its own. -/
theorem lookupCmd_name (type : OperationType) :
    ∃ helpStr, lookupCmd lsufsCmds type.name =
      some ⟨type.name, .user type, helpStr⟩ := by
  cases type with
  | uic => exact ⟨lit "Please try 'uic -h'\n", by decide +kernel⟩
  | query => exact ⟨lit "Please try 'query -h'\n", by decide +kernel⟩

theorem word_info {command : Text}
    (h : command = lit "-v" ∨ command = lit "-h") : Word command := by
  rcases h with rfl | rfl <;> apply word_of_all <;> decide +kernel

theorem word_name (type : OperationType) : Word type.name := by
  cases type <;> apply word_of_all <;> decide +kernel

/-- What `parse_args` answers with a help text the handlers refuse. -/
theorem asksForHelp_joined {type : OperationType} {word : Text}
    (hword : word = lit "-h" ∨ word = lit "--help") :
    asksForHelp (interpretLine (joinedBuff [type.name, word])).buff
      (interpretLine (joinedBuff [type.name, word])).args = true := by
  cases type <;> rcases hword with rfl | rfl <;> decide +kernel

/-! The shell. -/

abbrev LsufsMachine := Machine LsufsGlobals

variable {m : LsufsMachine} {Q : Int → LsufsMachine → Prop}
  {E : Halt → LsufsMachine → Prop}

theorem goesOn_shellInit (prompt : Text) (g : LsufsGlobals) :
    GoesOn (shellInit prompt) (pure 0) g []
      { g with cmdPrompt := prompt, cmds := shellCmds, lastCmdHandler := none } :=
  .of_run fun _ _ => rfl

/-- Another command, while the table has room. -/
theorem goesOn_shellAddCmd (c : ShellCmd OperationType) {g : LsufsGlobals}
    (hroom : g.cmds.length < shellMaxCmds) :
    GoesOn (shellAddCmd c.cmd c.cmdHandler c.helpStr) (pure 0) g []
      { g with cmds := g.cmds ++ [c] } := by
  apply GoesOn.of_run
  intro replies trace
  rw [shellAddCmd, get_bind, if_neg (not_le.mpr hroom)]
  rfl

/-- The shell finds no command. -/
theorem goesOn_shellDispatch_none {g : LsufsGlobals} {ptr : Nat}
    (hcmd : g.cmd = some ptr)
    (hlookup : lookupCmd g.cmds (cString g.cmdBuff ptr) = none) :
    GoesOn (shellDispatch kshellOp) (pure 0) g [] g := by
  apply GoesOn.of_run
  intro replies trace
  simp only [shellDispatch, get_bind, hcmd, hlookup]

/-- The shell finds a command, and keeps its handler. -/
theorem goesOn_shellDispatch {g : LsufsGlobals} {ptr : Nat}
    {c : ShellCmd OperationType} (hcmd : g.cmd = some ptr)
    (hlookup : lookupCmd g.cmds (cString g.cmdBuff ptr) = some c) :
    GoesOn (shellDispatch kshellOp) (do
      let result ← runHandler kshellOp c.cmdHandler g.args
      modify fun g => { g with lastCmdHandler := some c.cmdHandler }
      pure result) g [] g := by
  apply GoesOn.of_run
  intro replies trace
  simp only [shellDispatch, get_bind, hcmd, hlookup]

/-- What a run has printed so far and the requests it has sent. -/
def sameOutput (m m' : LsufsMachine) : Prop :=
  stdoutOf (notesOf m'.trace) = stdoutOf (notesOf m.trace) ∧
    exchangesOf m'.trace = exchangesOf m.trace

/-- The machine in which the shell looks the command up. -/
structure Dispatching (words : List Text) (m m' : LsufsMachine) : Prop where
  user : m'.mem.user = m.mem.user
  cmds : m'.mem.cmds = m.mem.cmds
  buff : m'.mem.cmdBuff = (interpretLine (joinedBuff words)).buff
  args : m'.mem.args = (interpretLine (joinedBuff words)).args
  cmd : m'.mem.cmd = some 0
  word : words.head? = some (cString m'.mem.cmdBuff 0)
  output : sameOutput m m'

/-- Stores to a buffer print nothing. -/
theorem stdoutOf_storeChars (stores : List (Nat × Char)) (size : Nat) :
    stdoutOf (stores.map fun s => Note.storeChar size s.1) = [] := by
  rw [stdoutOf, List.flatMap_eq_nil_iff]
  intro n hn
  obtain ⟨s, -, rfl⟩ := List.mem_map.mp hn
  rfl

theorem sameOutput_storeChars (m : LsufsMachine) (mem : LsufsGlobals)
    (stores : List (Nat × Char)) (size : Nat) :
    sameOutput m { m with
      trace := m.trace ++ (stores.map fun s =>
        Note.storeChar size s.1).map .note
      mem := mem } := by
  constructor
  · rw [notesOf_append, notesOf_map_note, stdoutOf_append,
      stdoutOf_storeChars, List.append_nil]
  · rw [exchangesOf_append, exchangesOf_map_note, List.append_nil]

/-- What joining the arguments stores. -/
def joinNotes (argv : List Text) : List Note :=
  (joinStores argv.tail 0).map fun s => .storeChar shellMaxCmdLen s.1

/-- Joining arguments that fit, cutting the line into words, and the call of
the shell. -/
theorem goesOn_shellProcessCmdLineArgs (program : Text) {command : Text}
    {rest : List Text} {g : LsufsGlobals}
    (hinside : ∀ s ∈ joinStores (command :: rest) 0, s.1 < shellMaxCmdLen)
    (hnul : '\x00' ∈ joinedBuff (command :: rest))
    (hlast : g.lastCmdHandler = none) :
    let line := interpretLine (joinedBuff (command :: rest))
    GoesOn (shellProcessCmdLineArgs kshellOp (program :: command :: rest))
      (if line.ret ≠ 0 then pure line.ret else shellDispatch kshellOp) g
      (joinNotes (program :: command :: rest))
      { g with cmdBuff := line.buff, cmd := line.cmd, args := line.args } := by
  intro line replies trace
  have hargs : ¬ (program :: command :: rest).length ≤ 1 := by simp
  have hline (trace) : shellInterpretCmdLine
      ⟨replies, trace, { g with cmdBuff := joinedBuff (command :: rest) }⟩ =
        .done line.ret ⟨replies, trace, { g with
          cmdBuff := line.buff, cmd := line.cmd, args := line.args }⟩ := by
    rw [shellInterpretCmdLine, get_bind, if_neg (not_not_intro hnul)]
    rfl
  rw [shellProcessCmdLineArgs, if_neg hargs, List.tail_cons]
  simp only [if_pos hinside]
  refine (bind_done (hline _)).trans ?_
  split_ifs with hret
  · rfl
  · exact shellProcessCmd_compare kshellOp fun hrepeats => hrepeats.2 hlast

/-- Joining the arguments, cutting the line into words, and the call of the
shell. -/
theorem wp_shellProcessCmdLineArgs {program command : Text}
    {rest : List Text} (hword : Word command)
    (hlast : m.mem.lastCmdHandler = none)
    (hoverflow : shellMaxCmdLen ≤ joinedLength (program :: command :: rest) →
      ∀ m', m'.mem.user = m.mem.user → E .fault m')
    (hrefused : ∀ ret m', m'.mem.user = m.mem.user → Q ret m')
    (hdispatch : ∀ m', Dispatching (command :: rest) m m' →
      wp (shellDispatch kshellOp) Q E m') :
    wp (shellProcessCmdLineArgs kshellOp (program :: command :: rest)) Q E
      m := by
  have hlength := joinedLength_eq (program :: command :: rest)
  rw [List.tail_cons] at hlength
  by_cases hinside :
      ∀ s ∈ joinStores (command :: rest) 0, s.1 < shellMaxCmdLen
  · by_cases hnul : '\x00' ∈ joinedBuff (command :: rest)
    · obtain ⟨c, tail, hend, hbuff⟩ :=
        joinedBuff_cons hword (length_joinLine_le hinside) hnul
      have hcmd := interpretLine_cmd hword hend tail
      rw [← hbuff] at hcmd
      apply (goesOn_shellProcessCmdLineArgs _ hinside hnul hlast).wp
      split_ifs with hret
      · rw [wp_pure]
        exact hrefused _ _ rfl
      · apply hdispatch
        refine ⟨rfl, rfl, rfl, rfl, hcmd.1, ?_, ?_⟩
        · rw [hcmd.2, List.head?_cons]
        · exact sameOutput_storeChars _ _ _ _
    · have hlong : shellMaxCmdLen ≤ (joinLine (command :: rest)).length := by
        by_contra hfits
        exact hnul (nul_mem_joinedBuff (not_le.mp hfits))
      rw [shellProcessCmdLineArgs, if_neg (by simp), List.tail_cons]
      simp only [if_pos hinside, wp_bind, wp_notes, wp_modify,
        shellInterpretCmdLine, wp_get]
      rw [← joinedBuff, if_pos hnul, wp_fault]
      exact hoverflow (by omega) _ rfl
  · have hlong := mt (join_inside_iff (program :: command :: rest)).mpr
      fun h => hinside h.inside
    rw [shellProcessCmdLineArgs, if_neg (by simp), List.tail_cons]
    simp only [wp_bind, wp_notes]
    rw [if_neg hinside, wp_fault]
    exact hoverflow (not_lt.mp hlong) _ rfl

/-! The operations. -/

variable {S : Type}

theorem keepsMem_sysCall (c : SysCall) : KeepsMem (sysCall c : Prog S Int) :=
  keepsMem_exchange c _

theorem keepsMem_report (n : Note) (ret : Int) :
    KeepsMem (do
      note n
      pure ret : Prog S Int) :=
  (keepsMem_notes _).bind fun _ => keepsMem_pure ret

theorem keepsMem_doUicOperation (op : LsufsOperation) :
    KeepsMem (doUicOperation op : Prog S Int) := by
  apply (keepsMem_sysCall _).bind
  intro fd
  split_ifs
  · exact keepsMem_report _ _
  · dsimp only
    split
    · rw [doUicGet_eq_exchange]
      exact (keepsMem_exchange _ _).bind fun ret => keepsMem_report _ ret
    · rw [doUicSet_eq_exchange]
      exact (keepsMem_exchange _ _).bind fun ret => keepsMem_report _ ret
    · apply (keepsMem_notes _).bind
      exact fun _ => (keepsMem_pure _).bind fun ret => keepsMem_report _ ret

theorem keepsMem_queryAndReport (op : LsufsOperation) (bufLen : UInt16)
    (report : QueryResult → List Note) :
    KeepsMem (queryAndReport op bufLen report : Prog S Int) := by
  rw [queryAndReport_eq_exchange]
  exact keepsMem_exchange _ _

theorem keepsMem_dispatchQuery (op : LsufsOperation) :
    KeepsMem (dispatchQuery op : Prog S Int) := by
  rw [dispatchQuery]
  split_ifs
  · exact keepsMem_queryAndReport _ _ _
  · exact keepsMem_queryAndReport _ _ _
  · exact keepsMem_queryAndReport _ _ _
  · exact keepsMem_queryAndReport _ _ _
  · exact keepsMem_queryAndReport _ _ _
  · exact keepsMem_report _ _

theorem keepsMem_doQueryOperation (op : LsufsOperation) :
    KeepsMem (doQueryOperation op : Prog S Int) := by
  apply (keepsMem_sysCall _).bind
  intro fd
  split_ifs
  · exact keepsMem_report _ _
  · exact (keepsMem_dispatchQuery _).bind fun ret => keepsMem_report _ ret

/-- What a handler runs. -/
def OperationType.run : OperationType → LsufsOperation → Prog LsufsGlobals Int
  | .uic => doUicOperation
  | .query => doQueryOperation

theorem keepsMem_run (type : OperationType) (op : LsufsOperation) :
    KeepsMem (type.run op) := by
  cases type with
  | uic => exact keepsMem_doUicOperation op
  | query => exact keepsMem_doQueryOperation op

/-- The variables with which the operation starts. -/
def LsufsGlobals.calling (g : LsufsGlobals) (type : OperationType) :
    LsufsGlobals :=
  { g with user := { g.user with
      invoked := g.user.invoked ++ [type.invocation g.user.op] } }

/-- A handler that is asked for help. -/
theorem goesOn_kshellOp_help {type : OperationType} {g : LsufsGlobals}
    (hasks : asksForHelp g.cmdBuff g.args = true) :
    GoesOn (kshellOp type g.args) (pure error) g [] g := by
  apply GoesOn.of_run
  intro replies trace
  cases type with
  | uic => rw [kshellOp, kshellOpUic, get_bind, if_pos hasks]
  | query => rw [kshellOp, kshellOpQuery, get_bind, if_pos hasks]

/-- Else it runs its operation on the record. -/
theorem goesOn_kshellOp {type : OperationType} {g : LsufsGlobals}
    (hasks : asksForHelp g.cmdBuff g.args = false) :
    GoesOn (kshellOp type g.args) (type.run g.user.op) g []
      (g.calling type) := by
  have hnot : ¬ asksForHelp g.cmdBuff g.args = true := by simp [hasks]
  apply GoesOn.of_run
  intro replies trace
  cases type with
  | uic =>
      rw [kshellOp, kshellOpUic, get_bind, if_neg hnot]
      rfl
  | query =>
      rw [kshellOp, kshellOpQuery, get_bind, if_neg hnot]
      rfl

theorem wp_kshellOp {type : OperationType}
    (hhelp : Q error m)
    (hrun : asksForHelp m.mem.cmdBuff m.mem.args = false →
      wp (type.run m.mem.user.op) Q E
        { m with mem := m.mem.calling type }) :
    wp (kshellOp type m.mem.args) Q E m := by
  cases hasks : asksForHelp m.mem.cmdBuff m.mem.args with
  | true =>
      apply (goesOn_kshellOp_help hasks).wp_silent
      rw [wp_pure]
      exact hhelp
  | false => exact (goesOn_kshellOp hasks).wp_silent (hrun hasks)

/-! A whole run. -/

/-- The machine in which the one operation of a run starts: its record is what
the option parser accepted, and nothing was sent before. -/
structure Starting (argv : List Text) (type : OperationType)
    (m : LsufsMachine) : Prop where
  accepted : InvokedOnce argv [type.invocation m.mem.user.op]
  invoked : m.mem.user.invoked = [type.invocation m.mem.user.op]
  printed : ∃ entries,
    lsufsParseArgs argv lsufsOp = .ok (m.mem.user.op, entries) ∧
      stdoutOf (notesOf m.trace) = stdoutOf entries
  silent : exchangesOf m.trace = []

/-- What a run comes to that keeps the shell's own variables for itself. -/
def Settled (Q : Int → LsufsMachine → Prop) (ret : Int) (m : LsufsMachine) :
    Prop :=
  ∀ last, Q ret { m with mem := { m.mem with lastCmdHandler := last } }

/-- The shell finds the handler of the operation that was named. -/
theorem wp_shellDispatch_name {type : OperationType} {rest : List Text}
    {m' : LsufsMachine} (hcmds : m.mem.cmds = lsufsCmds)
    (hm' : Dispatching (type.name :: rest) m m')
    (hcalled : wp (kshellOp type m'.mem.args) (Settled Q) E m') :
    wp (shellDispatch kshellOp) Q E m' := by
  obtain ⟨helpStr, hlookup⟩ := lookupCmd_name type
  have hword := Option.some.inj hm'.word
  rw [← hcmds, ← hm'.cmds, hword] at hlookup
  apply (goesOn_shellDispatch hm'.cmd hlookup).wp_silent
  rw [wp_bind]
  apply wp_imp hcalled
  intro ret m'' hsettled
  rw [wp_bind, wp_modify, wp_pure]
  exact hsettled _

/-- The call of the shell for a command line that was accepted. -/
theorem wp_shell_accepted {argv : List Text} {entries : List Note}
    (hargs : lsufsParseArgs argv lsufsOp = .ok (m.mem.user.op, entries))
    (hprinted : stdoutOf (notesOf m.trace) = stdoutOf entries)
    (hsilent : exchangesOf m.trace = [])
    (hcmds : m.mem.cmds = lsufsCmds) (hlast : m.mem.lastCmdHandler = none)
    (hinvoked : m.mem.user.invoked = [])
    (hoverflow : shellMaxCmdLen ≤ joinedLength argv →
      ∀ m', m'.mem.user.invoked = [] → E .fault m')
    (hquiet : ∀ ret m', m'.mem.user.invoked = [] → Q ret m')
    (hrun : ∀ type m', Starting argv type m' →
      wp (type.run m'.mem.user.op) (Settled Q) E m') :
    wp (shellProcessCmdLineArgs kshellOp argv) Q E m := by
  have hnothing : ∀ m' : LsufsMachine, m'.mem.user = m.mem.user →
      m'.mem.user.invoked = [] := by
    intro m' huser
    rw [huser, hinvoked]
  have hrefused : ∀ ret m', m'.mem.user = m.mem.user → Q ret m' := by
    intro ret m' huser
    exact hquiet ret m' (hnothing m' huser)
  have hfault : shellMaxCmdLen ≤ joinedLength argv →
      ∀ m', m'.mem.user = m.mem.user → E .fault m' := by
    intro hlong m' huser
    exact hoverflow hlong m' (hnothing m' huser)
  cases lsufsParseArgs_accepted hargs with
  | info hargv hcommand =>
      subst hargv
      apply wp_shellProcessCmdLineArgs (word_info hcommand) hlast hfault
        hrefused
      intro m' hm'
      have hlookup := lookupCmd_info hcommand
      rw [← hcmds, ← hm'.cmds, Option.some.inj hm'.word] at hlookup
      apply (goesOn_shellDispatch_none hm'.cmd hlookup).wp_silent
      rw [wp_pure]
      exact hrefused 0 m' hm'.user
  | operationHelp hargv hword =>
      subst hargv
      apply wp_shellProcessCmdLineArgs (word_name _) hlast hfault hrefused
      intro m' hm'
      apply wp_shellDispatch_name hcmds hm'
      apply wp_kshellOp
      · exact fun _ => hquiet _ _ (hnothing m' hm'.user)
      · intro hasks
        rw [hm'.buff, hm'.args, asksForHelp_joined hword] at hasks
        contradiction
  | @operation program type rest hargv honce =>
      subst hargv
      apply wp_shellProcessCmdLineArgs (word_name _) hlast hfault hrefused
      intro m' hm'
      apply wp_shellDispatch_name hcmds hm'
      apply wp_kshellOp
      · exact fun _ => hquiet _ _ (hnothing m' hm'.user)
      · intro _
        have hop : m'.mem.user.op = m.mem.user.op := by rw [hm'.user]
        rw [← hop] at hargs honce
        have hfirst : (m'.mem.calling type).user.invoked =
            [type.invocation m'.mem.user.op] := by
          rw [LsufsGlobals.calling, hnothing m' hm'.user, List.nil_append]
        exact hrun type { m' with mem := m'.mem.calling type } ⟨honce, hfirst,
          ⟨entries, hargs, hm'.output.1.trans hprinted⟩,
          hm'.output.2.trans hsilent⟩

/-- The rule for a whole run: it ends with nothing invoked, or it starts one
operation. -/
theorem wp_lsufsMain {argv : List Text} {replies : List SysReply}
    (hwait : ∀ m', m'.mem.user.invoked = [] → E .waiting m')
    (hoverflow : shellMaxCmdLen ≤ joinedLength argv →
      ∀ m', m'.mem.user.invoked = [] → E .fault m')
    (hquiet : ∀ ret m', m'.mem.user.invoked = [] → Q ret m')
    (hrun : ∀ type m', Starting argv type m' →
      wp (type.run m'.mem.user.op) (Settled Q) E m') :
    wp (lsufsMain argv) Q E
      (powerOn replies ({ user := {} } : LsufsGlobals)) := by
  rw [lsufsMain, wp_bind]
  apply wp_exchange
  · exact fun _ => hwait _ rfl
  · intro r rest _
    split_ifs with halloc
    · rw [wp_bind, wp_note, wp_pure]
      exact hquiet _ _ rfl
    rw [wp_bind]
    apply (goesOn_shellInit _ _).wp_silent
    rw [wp_pure, wp_bind, wp_get]
    dsimp only
    split
    · rw [wp_bind, wp_notes, wp_pure]
      exact hquiet _ _ rfl
    · next op entries hargs =>
        rw [wp_bind, wp_notes, wp_bind, wp_modify, wp_bind]
        apply GoesOn.wp_silent
        · apply goesOn_shellAddCmd ⟨lit "uic", .user .uic, _⟩
          exact (by decide : 4 < shellMaxCmds)
        rw [wp_pure, wp_bind]
        apply GoesOn.wp_silent
        · apply goesOn_shellAddCmd ⟨lit "query", .user .query, _⟩
          exact (by decide : 5 < shellMaxCmds)
        rw [wp_pure]
        apply wp_shell_accepted hargs
        · simp [powerOn]
        · simp [powerOn, exchangesOf]
        · rfl
        · rfl
        · rfl
        · exact hoverflow
        · exact hquiet
        · exact hrun

/-- For every command line whose joined form fits the buffer, and whatever the
environment answers, lsufs runs at most one operation: the one whose option
parser accepted the command line, on the record that parser filled in. -/
theorem lsufs_invokes_once (argv : List Text) (replies : List SysReply)
    (hfits : joinedLength argv < shellMaxCmdLen) :
    wp (lsufsMain argv) (fun _ m => InvokedOnce argv m.mem.user.invoked)
      (fun _ m => InvokedOnce argv m.mem.user.invoked)
      (powerOn replies ({ user := {} } : LsufsGlobals)) := by
  have hnothing : ∀ m : LsufsMachine, m.mem.user.invoked = [] →
      InvokedOnce argv m.mem.user.invoked := by
    intro m hm
    rw [hm]
    exact .nothing
  apply wp_lsufsMain
  · exact hnothing
  · intro hlong
    exact absurd hfits (not_lt.mpr hlong)
  · exact fun _ => hnothing
  · intro type m hm
    have honce : ∀ m' : LsufsMachine, m'.mem = m.mem →
        InvokedOnce argv m'.mem.user.invoked := by
      intro m' hmem
      rw [hmem, hm.invoked]
      exact hm.accepted
    exact wp_mono (keepsMem_run type _ m)
      (fun _ m' hmem _ => honce m' hmem) (fun _ m' hmem => honce m' hmem)

/-- `lsufs uic -g -i 0xf6 -d /dev/ufs-bsg0` -/
def getLine : List Text :=
  [lit "lsufs", lit "uic", lit "-g", lit "-i", lit "0xf6", lit "-d",
    lit "/dev/ufs-bsg0"]

theorem lsufs_invokes_once_get :
    joinedLength getLine < shellMaxCmdLen ∧
      wp (lsufsMain getLine)
        (fun _ m => InvokedOnce getLine m.mem.user.invoked)
        (fun _ m => InvokedOnce getLine m.mem.user.invoked)
        (powerOn [{ ret := 1 }, { ret := 3 }, registerReply 0]
          ({ user := {} } : LsufsGlobals)) := by
  have hfits : joinedLength getLine < shellMaxCmdLen := by decide +kernel
  exact ⟨hfits, lsufs_invokes_once getLine _ hfits⟩

example : ((lsufsMain getLine (powerOn
    [{ ret := 1 }, { ret := 3 }, registerReply 0]
    { user := {} })).machine.mem.user.invoked).length = 1 := by
  decide +kernel

end UfsTools
