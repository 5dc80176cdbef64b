/-
Runs of lsufs one after another on one device: each does to the store of the
device what its command line asks for, and shows what the store holds.
-/
import UfsTools.UfsStore

namespace UfsTools

open CLib ByteCodec Process

variable {D : Type}

namespace LsufsJob

/-- What the command line asks the device for.  An opcode that is not supported
asks for nothing. -/
def command (job : LsufsJob) : Option UfsCommand :=
  if job.type.Sends job.op then some (job.type.command job.op) else none

/-- What a run does to the store. -/
def apply (job : LsufsJob) (s : UfsStore) : UfsStore :=
  match job.command with
  | some cmd => cmd.apply s
  | none => s

/-- What a run returns. -/
def status (job : LsufsJob) (s : UfsStore) : Int :=
  match job.command with
  | some cmd => cmd.status s
  | none => error

/-- What the user reads: the defaults that were assumed, and what the store
holds. -/
def stdout (job : LsufsJob) (s : UfsStore) : Text :=
  stdoutOf job.entries ++
    if job.type.Sends job.op then stdoutOf (job.type.output job.op s) else []

end LsufsJob

/-- The run of a job has ended as the store says. -/
structure ShownBy (job : LsufsJob) (s : UfsStore)
    (e : Int × LsufsRunMachine D) : Prop where
  status : e.1 = job.status s
  printed : stdoutOf (notesOf e.2.trace) = job.stdout s

/-! One run. -/

theorem commandOf_node (type : OperationType) (op : LsufsOperation) :
    commandOf (type.node op) = none := by
  cases type <;> rfl

theorem stdoutOf_close (fd : Int) : stdoutOf [.close fd] = [] := rfl

section

variable {ufs : UfsDevice D} {type : OperationType} {op : LsufsOperation}
  {d : D}

theorem nodeOpened_nonneg :
    0 ≤ nodeOpened ufs.device d type op := by
  cases type with
  | uic => exact ufs.opens _ _ _
  | query => exact ufs.opens _ _ _

/-- The reply to the request of an operation shows the store. -/
theorem operationReply_shown (hsends : type.Sends op) :
    (type.command op).Shown (ufs.store d)
      (operationReply ufs.device d type op) := by
  have hkept := ufs.keeps d _ (commandOf_node type op)
  have hshown := ufs.replies (ufs.device.next d (type.node op)) _ _
    (commandOf_request hsends (nodeOpened ufs.device d type op))
  rw [hkept] at hshown
  exact hshown

theorem store_operationCalls :
    ufs.store ((operationCalls ufs.device d type op).foldl ufs.device.next d) =
      if type.Sends op then (type.command op).apply (ufs.store d)
      else ufs.store d := by
  have hkept := ufs.keeps d _ (commandOf_node type op)
  have hopened : 0 ≤ nodeOpened ufs.device d type op := nodeOpened_nonneg
  rw [operationCalls]
  by_cases hsends : type.Sends op
  · rw [if_pos ⟨hopened, hsends⟩, if_pos hsends, ← hkept]
    exact ufs.applies _ _ _ (commandOf_request hsends _)
  · rw [if_neg fun h => hsends h.2, if_neg hsends]
    exact hkept

theorem operationStatus_shown (hsettable : (type.command op).Settable) :
    operationStatus ufs.device d type op =
      if type.Sends op then (type.command op).status (ufs.store d)
      else error := by
  have hopened : 0 ≤ nodeOpened ufs.device d type op := nodeOpened_nonneg
  rw [operationStatus]
  by_cases hsends : type.Sends op
  · rw [if_pos ⟨hopened, hsends⟩, if_pos hsends]
    exact (operation_reports hsettable (operationReply_shown hsends)).2
  · rw [if_neg fun h => hsends h.2, if_neg hsends]

theorem stdoutOf_operationNotes (hsettable : (type.command op).Settable) :
    stdoutOf (operationNotes ufs.device d type op) =
      if type.Sends op then stdoutOf (type.output op (ufs.store d))
      else [] := by
  have hopened : ¬ nodeOpened ufs.device d type op < 0 :=
    not_lt.mpr nodeOpened_nonneg
  rw [operationNotes, if_neg hopened, stdoutOf_append, stdoutOf_close,
    List.append_nil]
  split_ifs with hsends
  · rw [(operation_reports hsettable (operationReply_shown hsends)).1]
  · rfl

end

/-- What an accepted command line sets is not `ERROR`. -/
theorem LsufsJob.settable (job : LsufsJob) :
    (job.type.command job.op).Settable := by
  have haccepted := uicAccepted_of_dispatchable job.line job.accepted
    job.dispatchable
  cases htype : job.type with
  | uic =>
      have huic := haccepted htype
      rw [OperationType.command, UicOperation.ufsCommand]
      split_ifs with hget
      · trivial
      · have hset : job.op.uicOp.mode = some .set := by
          cases hmode : job.op.uicOp.mode with
          | none => exact absurd hmode huic.mode
          | some mode =>
              cases mode with
              | get => exact absurd hmode hget
              | set => rfl
        have hdata := huic.data hset
        exact ne_of_lt (by omega)
  | query =>
      rw [OperationType.command, QueryOperation.ufsCommand]
      split_ifs <;> trivial

/-- One run of lsufs takes the store to the next, and shows what it asks
for. -/
theorem meets_lsufsJob (ufs : UfsDevice D) (job : LsufsJob) (d : D) :
    meets ufs.device (lsufsMain job.argv) (fun ret c =>
      ShownBy job (ufs.store d) (ret, c) ∧
        ufs.store c.device = job.apply (ufs.store d)) ⟨d, [], lsufsStart⟩ := by
  have hcopied : ufs.store (job.copied ufs.device d) = ufs.store d :=
    ufs.keeps _ _ rfl
  apply meets_imp (job.meets_main d ufs.toHost)
  intro ret c hdone
  have hstatus := hdone.ends
  have hprinted := hdone.prints
  have hstore := congrArg ufs.store hdone.leaves
  rw [LsufsJob.ends, operationStatus_shown job.settable, hcopied] at hstatus
  rw [LsufsJob.prints, stdoutOf_operationNotes job.settable,
    hcopied] at hprinted
  rw [LsufsJob.leaves, store_operationCalls, hcopied] at hstore
  refine ⟨⟨?_, hprinted⟩, ?_⟩
  · rw [hstatus, LsufsJob.status, LsufsJob.command]
    split_ifs <;> rfl
  · rw [LsufsJob.apply, LsufsJob.command]
    refine hstore.trans ?_
    split_ifs <;> rfl

/-- Runs of lsufs one after another. -/
def lsufsSession (dev : Device SysCall SysReply D) (jobs : List LsufsJob)
    (Q : List (Int × LsufsRunMachine D) → D → Prop) (d : D) : Prop :=
  session dev (fun job : LsufsJob => lsufsMain job.argv) lsufsStart jobs Q d

theorem lsufsSession_follows (ufs : UfsDevice D) {jobs : List LsufsJob} {d : D}
    {Q : List (Int × LsufsRunMachine D) → D → Prop}
    (h : ∀ ends d', JobsFollow LsufsJob.apply ShownBy (ufs.store d) jobs ends
      (ufs.store d') → Q ends d') : lsufsSession ufs.device jobs Q d := by
  apply session_follows LsufsJob.apply (fun s d' => s = ufs.store d')
  · rintro job - s d' rfl
    apply meets_imp (meets_lsufsJob ufs job d')
    exact fun ret c h => ⟨h.1, h.2.symm⟩
  · rfl
  · rintro ends s' d' hfollows rfl
    exact h ends d' hfollows

/-- In every session of lsufs on a device that keeps a store, the runs do to
the store what their command lines ask for, one after the other, and each of
them returns and prints what the store holds when it starts. -/
theorem lsufs_session_refines (ufs : UfsDevice D) (jobs : List LsufsJob)
    (d : D) : lsufsSession ufs.device jobs (fun ends d' =>
      JobsFollow LsufsJob.apply ShownBy (ufs.store d) jobs ends (ufs.store d'))
      d :=
  lsufsSession_follows ufs fun _ _ h => h

/-! Some runs on one device. -/

/-- `query -o <opcode> -v <value> -i <idn> -I 0 -s 0 -d /dev/ufs-bsg0` -/
def attributeArguments (opcode idn value : String) : List Text :=
  [lit "-o", lit opcode, lit "-v", lit value, lit "-i", lit idn, lit "-I",
   lit "0", lit "-s", lit "0", lit "-d", lit "/dev/ufs-bsg0"]

/-- What the option parser makes of them. -/
def attributeJobOperation (opcode idn : Int) (value : UInt64) :
    LsufsOperation :=
  { lsufsOp with
    devicePath := lit "/dev/ufs-bsg0"
    queryOp :=
      { opcode := opcode, idn := idn, index := 0, selector := 0,
        attrValue := value } }

/-- A device fresh from the factory. -/
def emptyStore : UfsStore where
  register _ _ := 0
  attr _ := 0
  flag _ := false
  descriptor _ := ⟨[], by decide⟩

/-- The write of an attribute. -/
def writeJob : LsufsJob where
  argv := lit "lsufs" :: lit "query" :: attributeArguments "4" "0" "1"
  program := lit "lsufs"
  type := .query
  rest := attributeArguments "4" "0" "1"
  op := attributeJobOperation 4 0 1
  entries := []
  line := rfl
  accepted := by decide +kernel
  plain := by decide
  room := by decide
  dispatchable := by decide

/-- The write of another attribute. -/
def otherJob : LsufsJob where
  argv := lit "lsufs" :: lit "query" :: attributeArguments "4" "1" "5"
  program := lit "lsufs"
  type := .query
  rest := attributeArguments "4" "1" "5"
  op := attributeJobOperation 4 1 5
  entries := []
  line := rfl
  accepted := by decide +kernel
  plain := by decide
  room := by decide
  dispatchable := by decide

/-- The read of the first one. -/
def readJob : LsufsJob where
  argv := lit "lsufs" :: lit "query" :: attributeArguments "3" "0" "0"
  program := lit "lsufs"
  type := .query
  rest := attributeArguments "3" "0" "0"
  op := attributeJobOperation 3 0 0
  entries := []
  line := rfl
  accepted := by decide +kernel
  plain := by decide
  room := by decide
  dispatchable := by decide

/-- The read of a register. -/
def getJob : LsufsJob where
  argv := getLine
  program := lit "lsufs"
  type := .uic
  rest := _
  op := getOperation
  entries := getEntries
  line := rfl
  accepted := getLine_accepted
  plain := by decide
  room := by decide
  dispatchable := by decide

theorem lsufs_session_refines_jobs :
    lsufsSession storeDevice.device [writeJob, getJob, otherJob, readJob]
      (fun ends s => JobsFollow LsufsJob.apply ShownBy
        (storeDevice.store emptyStore) [writeJob, getJob, otherJob, readJob]
        ends (storeDevice.store s)) emptyStore :=
  lsufs_session_refines storeDevice _ emptyStore

/-! Reads behind a write. -/

/-- What commands read and write. -/
inductive UfsObject where
  | register (side : Side) (attrSel : UInt32)
  | attr (key : QueryKey)
  | flag (key : QueryKey)
  | descriptor (key : QueryKey)

/-- The object a command may change. -/
def UfsCommand.Writes : UfsCommand → UfsObject → Prop
  | .dmeSet side attrSel _, x => x = .register side attrSel
  | .writeAttribute key _, x => x = .attr key
  | .setFlag key, x | .clearFlag key, x | .toggleFlag key, x => x = .flag key
  | .dmeGet _ _, _ | .readDescriptor _, _ | .readAttribute _, _
  | .readFlag _, _ => False

/-- The object a command shows. -/
def UfsCommand.Reads : UfsCommand → UfsObject → Prop
  | .dmeGet side attrSel, x => x = .register side attrSel
  | .readDescriptor key, x => x = .descriptor key
  | .readAttribute key, x => x = .attr key
  | .readFlag key, x => x = .flag key
  | _, _ => False

/-- Both stores hold the same in one place. -/
def UfsStore.Agree (s s' : UfsStore) : UfsObject → Prop
  | .register side attrSel =>
      s'.register side attrSel = s.register side attrSel
  | .attr key => s'.attr key = s.attr key
  | .flag key => s'.flag key = s.flag key
  | .descriptor key => s'.descriptor key = s.descriptor key

theorem UfsStore.Agree.refl (s : UfsStore) (x : UfsObject) : s.Agree s x := by
  cases x <;> rfl

theorem UfsStore.Agree.trans {s s' s'' : UfsStore} {x : UfsObject}
    (hleft : s.Agree s' x) (hright : s'.Agree s'' x) : s.Agree s'' x := by
  cases x <;> exact Eq.trans hright hleft

theorem Registers.set_of_ne {device : Registers} {side side' : Side}
    {attrSel attrSel' value : UInt32}
    (h : ¬ (side = side' ∧ attrSel = attrSel')) :
    device.set side' attrSel' value side attrSel = device side attrSel := by
  rw [Registers.set]
  by_cases hside : side = side'
  · subst hside
    rw [Function.update_self, Function.update_of_ne]
    exact fun hsel => h ⟨rfl, hsel⟩
  · rw [Function.update_of_ne hside]

/-- A command leaves what it does not write. -/
theorem UfsCommand.apply_agree {cmd : UfsCommand} {x : UfsObject}
    (h : ¬ cmd.Writes x) (s : UfsStore) : s.Agree (cmd.apply s) x := by
  cases cmd with
  | dmeSet side attrSel value =>
      cases x with
      | register side' attrSel' =>
          apply Registers.set_of_ne
          rintro ⟨rfl, rfl⟩
          exact h rfl
      | _ => rfl
  | writeAttribute key value =>
      cases x with
      | attr key' =>
          apply Function.update_of_ne
          rintro rfl
          exact h rfl
      | _ => rfl
  | setFlag key | clearFlag key | toggleFlag key =>
      cases x with
      | flag key' =>
          apply Function.update_of_ne
          rintro rfl
          exact h rfl
      | _ => rfl
  | _ => exact .refl s x

/-- The object a run may change. -/
def LsufsJob.Writes (job : LsufsJob) (x : UfsObject) : Prop :=
  ∃ cmd, job.command = some cmd ∧ cmd.Writes x

/-- The object a run shows. -/
def LsufsJob.Reads (job : LsufsJob) (x : UfsObject) : Prop :=
  ∃ cmd, job.command = some cmd ∧ cmd.Reads x

theorem LsufsJob.apply_agree {job : LsufsJob} {x : UfsObject}
    (h : ¬ job.Writes x) (s : UfsStore) : s.Agree (job.apply s) x := by
  rw [LsufsJob.apply]
  split
  · next cmd hcmd => exact cmd.apply_agree (fun hw => h ⟨cmd, hcmd, hw⟩) s
  · exact .refl s x

theorem foldl_apply_agree {jobs : List LsufsJob} {x : UfsObject}
    (h : ∀ job ∈ jobs, ¬ job.Writes x) (s : UfsStore) :
    s.Agree (jobs.foldl (fun s job => job.apply s) s) x := by
  induction jobs generalizing s with
  | nil => exact .refl s x
  | cons job rest ih =>
      rw [List.forall_mem_cons] at h
      exact (job.apply_agree h.1 s).trans (ih h.2 (job.apply s))

theorem uicOutput_congr {uop : UicOperation} {s s' : UfsStore} {x : UfsObject}
    (hreads : uop.ufsCommand.Reads x) (hagree : s.Agree s' x) :
    uicOutput uop s' = uicOutput uop s ∧
      uop.ufsCommand.status s' = uop.ufsCommand.status s := by
  rw [UicOperation.ufsCommand] at hreads ⊢
  rw [uicOutput, uicOutput]
  split_ifs at hreads ⊢
  · obtain rfl : x = .register uop.side uop.attrSel := hreads
    have hsame : s'.register uop.side uop.attrSel =
        s.register uop.side uop.attrSel := hagree
    rw [hsame, UfsCommand.status, UfsCommand.status, hsame]
    exact ⟨rfl, rfl⟩
  · exact hreads.elim

theorem queryOutput_congr {qop : QueryOperation} {s s' : UfsStore}
    {x : UfsObject} (hreads : qop.ufsCommand.Reads x)
    (hagree : s.Agree s' x) : queryOutput qop s' = queryOutput qop s ∧
      qop.ufsCommand.status s' = qop.ufsCommand.status s := by
  rw [QueryOperation.ufsCommand] at hreads ⊢
  rw [queryOutput, queryOutput]
  split_ifs at hreads ⊢
  · obtain rfl : x = .descriptor qop.key := hreads
    have hsame : s'.descriptor qop.key = s.descriptor qop.key := hagree
    rw [hsame]
    exact ⟨rfl, rfl⟩
  · obtain rfl : x = .attr qop.key := hreads
    have hsame : s'.attr qop.key = s.attr qop.key := hagree
    rw [hsame]
    exact ⟨rfl, rfl⟩
  · exact hreads.elim
  · obtain rfl : x = .flag qop.key := hreads
    have hsame : s'.flag qop.key = s.flag qop.key := hagree
    rw [hsame]
    exact ⟨rfl, rfl⟩
  · exact hreads.elim
  · exact hreads.elim
  · exact hreads.elim

/-- What a run shows is in the one place it reads. -/
theorem ShownBy.congr {job : LsufsJob} {s s' : UfsStore} {x : UfsObject}
    {e : Int × LsufsRunMachine D} (hreads : job.Reads x)
    (hagree : s.Agree s' x) (hshown : ShownBy job s' e) : ShownBy job s e := by
  obtain ⟨cmd, hcmd, hreads⟩ := hreads
  have hsends : job.type.Sends job.op ∧ job.type.command job.op = cmd := by
    rw [LsufsJob.command] at hcmd
    split_ifs at hcmd with hsends
    exact ⟨hsends, Option.some.inj hcmd⟩
  obtain ⟨hsends, rfl⟩ := hsends
  have hsame : job.type.output job.op s' = job.type.output job.op s ∧
      (job.type.command job.op).status s' =
        (job.type.command job.op).status s := by
    cases htype : job.type with
    | uic =>
        rw [htype] at hreads
        exact uicOutput_congr hreads hagree
    | query =>
        rw [htype] at hreads
        exact queryOutput_congr hreads hagree
  constructor
  · rw [hshown.status, LsufsJob.status, LsufsJob.status, hcmd]
    exact hsame.2
  · rw [hshown.printed, LsufsJob.stdout, LsufsJob.stdout, if_pos hsends,
      if_pos hsends, hsame.1]

/-- Whatever was run before, and whatever command lines that write elsewhere
are run in between: the last run shows what it would have shown right behind
the write. -/
theorem session_reads_back (ufs : UfsDevice D) (d : D)
    (before between : List LsufsJob) (write read : LsufsJob) (x : UfsObject)
    (hreads : read.Reads x) (hbetween : ∀ job ∈ between, ¬ job.Writes x) :
    lsufsSession ufs.device (before ++ write :: (between ++ [read]))
      (fun ends _ => ∃ e, ends.getLast? = some e ∧ ShownBy read
        (write.apply (before.foldl (fun s job => job.apply s) (ufs.store d)))
        e) d := by
  apply lsufsSession_follows ufs
  intro ends d' hfollows
  generalize ufs.store d' = s' at hfollows
  obtain ⟨ends₁, ends₂, s₁, rfl, hbefore, hrest⟩ := hfollows.append
  cases hrest with
  | @cons _ _ _ _ e₁ ends₃ hwrite hrest =>
      obtain ⟨ends₄, ends₅, s₂, rfl, hmiddle, hlast⟩ := hrest.append
      cases hlast with
      | @cons _ _ _ _ e _ hread hnil =>
          cases hnil
          refine ⟨e, ?_, ?_⟩
          · rw [← List.cons_append, ← List.append_assoc]
            exact List.getLast?_concat
          rw [← hbefore.state_eq]
          apply hread.congr hreads
          rw [hmiddle.state_eq]
          exact foldl_apply_agree hbetween _

theorem getJob_writes_nothing (x : UfsObject) : ¬ getJob.Writes x := by
  rintro ⟨cmd, hcmd, hwrites⟩
  obtain rfl : cmd = .dmeGet .localSide 0xf60000 :=
    Option.some.inj (hcmd.symm.trans (by decide))
  exact hwrites

theorem otherJob_writes_other : ¬ otherJob.Writes (.attr ⟨0, 0, 0⟩) := by
  rintro ⟨cmd, hcmd, hwrites⟩
  obtain rfl : cmd = .writeAttribute ⟨1, 0, 0⟩ 5 :=
    Option.some.inj (hcmd.symm.trans (by decide))
  exact absurd (UfsObject.attr.inj hwrites) (by decide)

/-- The attribute that was set to 1 is read as 1, though a register is read and
another attribute is set in between. -/
theorem session_reads_back_attribute :
    lsufsSession storeDevice.device
      ([getJob] ++ writeJob :: ([getJob, otherJob] ++ [readJob]))
      (fun ends _ => ∃ e, ends.getLast? = some e ∧ ShownBy readJob
        (writeJob.apply ([getJob].foldl (fun s job => job.apply s)
          (storeDevice.store emptyStore))) e) emptyStore := by
  refine session_reads_back storeDevice emptyStore [getJob]
    [getJob, otherJob] writeJob readJob (.attr ⟨0, 0, 0⟩)
    ⟨.readAttribute ⟨0, 0, 0⟩, by decide, rfl⟩ ?_
  rw [List.forall_mem_cons, List.forall_mem_singleton]
  exact ⟨getJob_writes_nothing _, otherJob_writes_other⟩

end UfsTools
