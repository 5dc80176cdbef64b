/-
One call of `eom_scan`: what the program asks the two link partners, in which
order, before it logs a result.
-/
import UfsTools.UfsEom

namespace UfsTools

open CLib Process

/-! What a step leaves in the trace. -/

def exceedsPrefix : Text := lit "The count of data exceeds the maximum "

/-- Notes other than a write to the results, the message that they are full,
and the lines of the report. -/
def quiet : Note → Bool
  | .print .stderr text => !exceedsPrefix.isPrefixOf text
  | .store _ => false
  | .fprint _ => false
  | _ => true

/-- The message of `main` behind a call of `eom_scan` that failed. -/
def scanFailed : Note := prErr (lit "Fail to run EOM scan\n")

/-- Quiet notes other than that message, which `eom_scan` itself leaves to its
caller. -/
def discreet (n : Note) : Bool := quiet n && n ≠ scanFailed

theorem quiet_of_discreet {n : Note} (hn : discreet n = true) :
    quiet n = true :=
  (Bool.and_eq_true_iff.mp hn).1

theorem ne_scanFailed_of_discreet {n : Note} (hn : discreet n = true) :
    n ≠ scanFailed :=
  of_decide_eq_true (Bool.and_eq_true_iff.mp hn).2

/-- UIC commands with the replies they got. -/
abbrev History := List (UicCommand × SysReply)

def requestsOf (h : History) : List (UfsBsgRequest × SysReply) :=
  h.map fun x => (uicRequest x.1, x.2)

/-- The notes of `m'` behind those of `m` pass the test. -/
structure Leaves (test : Note → Bool) (m m' : Machine EomGlobals) : Prop where
  notes : ∃ entries, notesOf m'.trace = notesOf m.trace ++ entries ∧
    ∀ n ∈ entries, test n = true

/-- From `m` to `m'` the program sent the commands of `h` and changed none of
its variables. -/
structure Talks (m m' : Machine EomGlobals) (h : History) : Prop where
  mem : m'.mem = m.mem
  leaves : Leaves discreet m m'
  history : exchangesOf m'.trace = exchangesOf m.trace ++ requestsOf h
  replies : m'.replies.length + h.length ≤ m.replies.length

variable {m m' m'' : Machine EomGlobals} {h h' : History}

variable {test test' : Note → Bool}

theorem Leaves.refl (m : Machine EomGlobals) : Leaves test m m :=
  ⟨[], by simp, by simp⟩

/-- Notes of two steps in a row pass when both steps leave such notes. -/
theorem Leaves.trans (hleft : Leaves test m m') (hright : Leaves test m' m'') :
    Leaves test m m'' := by
  obtain ⟨left, hl, hlq⟩ := hleft.notes
  obtain ⟨right, hr, hrq⟩ := hright.notes
  refine ⟨left ++ right, by rw [hr, hl, List.append_assoc], ?_⟩
  intro n hn
  rcases List.mem_append.mp hn with hn | hn
  · exact hlq n hn
  · exact hrq n hn

theorem Leaves.mono (hleaves : Leaves test m m')
    (htest : ∀ n, test n = true → test' n = true) : Leaves test' m m' := by
  obtain ⟨entries, hnotes, hall⟩ := hleaves.notes
  exact ⟨entries, hnotes, fun n hn => htest n (hall n hn)⟩

/-- A step that writes such notes only. -/
theorem Leaves.of_notes {entries : List Note}
    (hentries : ∀ n ∈ entries, test n = true) :
    Leaves test m { m with trace := m.trace ++ entries.map .note } :=
  ⟨entries, by simp, hentries⟩

theorem Talks.refl (m : Machine EomGlobals) : Talks m m [] :=
  ⟨rfl, .refl m, by simp [requestsOf], by simp⟩

/-- Two steps in a row send the commands of the first, then those of the second.
-/
theorem Talks.trans (hleft : Talks m m' h) (hright : Talks m' m'' h') :
    Talks m m'' (h ++ h') := by
  refine ⟨hright.mem.trans hleft.mem, hleft.leaves.trans hright.leaves, ?_, ?_⟩
  · rw [hright.history, hleft.history, requestsOf, requestsOf, requestsOf,
      List.map_append, List.append_assoc]
  · have hl := hleft.replies
    have hr := hright.replies
    rw [List.length_append]
    omega

/-- Discreet notes send nothing. -/
theorem Talks.of_notes {entries : List Note}
    (hentries : ∀ n ∈ entries, discreet n = true) :
    Talks m { m with trace := m.trace ++ entries.map .note } [] :=
  ⟨rfl, .of_notes hentries, by simp [requestsOf], by simp⟩

theorem Talks.of_note {n : Note} (hn : discreet n = true) :
    Talks m { m with trace := m.trace ++ [.note n] } [] :=
  .of_notes (List.forall_mem_singleton.mpr hn)

/-- A UIC command and the notes on its reply. -/
theorem Talks.of_command (fd : Int) (cmd : UicCommand) {r : SysReply}
    {rest : List SysReply} (hreplies : m.replies = r :: rest) :
    Talks m ⟨rest, m.trace ++
      .call (uicIoctl fd cmd) r :: (uicNotes r).map .note, m.mem⟩
      [(cmd, r)] := by
  have hquiet : ∀ n ∈ uicNotes r, discreet n = true :=
    forall_mem_uicNotes (fun _ => rfl) (fun _ => rfl) (fun _ => rfl)
  refine ⟨rfl, ⟨uicNotes r, by simp, hquiet⟩, ?_, by simp [hreplies]⟩
  simp [requestsOf, uicIoctl, sgIoRequest]

/-- A system call other than the ioctl. -/
theorem Talks.of_sysCall {c : SysCall} (hc : ∀ fd sgIo, c ≠ .ioctl fd sgIo)
    {r : SysReply} {rest : List SysReply} (hreplies : m.replies = r :: rest) :
    Talks m ⟨rest, m.trace ++ [.call c r], m.mem⟩ [] := by
  refine ⟨rfl, ⟨[], by simp, by simp⟩, ?_, by simp [hreplies]⟩
  cases c with
  | ioctl fd sgIo => exact absurd rfl (hc fd sgIo)
  | _ => simp [exchangesOf, requestsOf]

/-! One rule for each of the ways to talk. -/

variable {α : Type} {Q : Int → Machine EomGlobals → Prop}
  {E : Halt → Machine EomGlobals → Prop}

/-- A set reports success or the general error, nothing else. -/
theorem uicSetStatus_eq (r : SysReply) :
    uicSetStatus r = success ∨ uicSetStatus r = error := by
  rw [uicSetStatus]
  split
  · next h => exact .inr h
  · exact .inl rfl

def RegisterSet.command (s : RegisterSet) : UicCommand :=
  uicSetCommand s.attrSel attrSetNor s.mibVal s.peer

/-- One set of a list: the command is sent whatever comes of it, and only a
reply that counts as success reaches the rest. -/
theorem wp_setRegister {s : RegisterSet} {next : Prog EomGlobals Int}
    (hmessage : discreet (prErr (lit s.failed)) = true)
    (hnext : ∀ r m', Talks m m' [(s.command, r)] →
      uicSetStatus r = success → wp next Q E m')
    (hfail : ∀ r m', Talks m m' [(s.command, r)] →
      uicSetStatus r ≠ success → Q error m')
    (hwait : E .waiting m) : wp (setRegister s next) Q E m := by
  simp only [setRegister, uicSet_eq_exchange, wp_bind, wp_get]
  refine wp_exchange _ _ (fun _ => hwait) ?_
  intro r rest hreplies
  rcases uicSetStatus_eq r with hstatus | hstatus
  · simp only [hstatus, success, ne_eq, not_true_eq_false, if_false]
    exact hnext r _ (.of_command _ _ hreplies) hstatus
  · have herror : error ≠ 0 := by decide
    simp only [hstatus, if_pos herror, wp_bind, wp_note, wp_pure]
    apply hfail r
    · exact (Talks.of_command _ _ hreplies).trans (Talks.of_note hmessage)
    · rw [hstatus]
      exact herror

/-- The sets of a list that all succeed, in its order. -/
structure AllSet (sets : List RegisterSet) (h : History) : Prop where
  commands : h.map Prod.fst = sets.map RegisterSet.command
  succeeded : ∀ x ∈ h, uicSetStatus x.2 = success

/-- The first sets of a list, of which the last was refused. -/
structure SetRefused (sets : List RegisterSet) (h : History) : Prop where
  commands : h.map Prod.fst <+: sets.map RegisterSet.command
  refused : ∃ s ∈ sets, ∃ x ∈ h, x.1 = s.command ∧ uicSetStatus x.2 ≠ success

theorem SetRefused.first {s : RegisterSet} {rest : List RegisterSet}
    {r : SysReply} (hstatus : uicSetStatus r ≠ success) :
    SetRefused (s :: rest) [(s.command, r)] :=
  ⟨⟨rest.map RegisterSet.command, rfl⟩,
    ⟨s, List.mem_cons_self, _, List.mem_cons_self, rfl, hstatus⟩⟩

/-- A refusal in the rest of a list is one in the list. -/
theorem SetRefused.cons {s : RegisterSet} {rest : List RegisterSet}
    {r : SysReply} (hrest : SetRefused rest h) :
    SetRefused (s :: rest) ((s.command, r) :: h) := by
  obtain ⟨s', hs', x, hx, hfailed⟩ := hrest.refused
  constructor
  · exact (List.prefix_cons_inj _).mpr hrest.commands
  · exact ⟨s', List.mem_cons_of_mem s hs', x, List.mem_cons_of_mem _ hx,
      hfailed⟩

/-- The first sets of a list. -/
def SetsBegun (sets : List RegisterSet) (h : History) : Prop :=
  h.map Prod.fst <+: sets.map RegisterSet.command

theorem SetsBegun.cons {s : RegisterSet} {rest : List RegisterSet}
    {r : SysReply} (hrest : SetsBegun rest h) :
    SetsBegun (s :: rest) ((s.command, r) :: h) :=
  (List.prefix_cons_inj _).mpr hrest

theorem AllSet.begun {sets : List RegisterSet} (hall : AllSet sets h) :
    SetsBegun sets h := by
  rw [SetsBegun, hall.commands]

/-- The sets of a list in their order, by induction on it: all of them, or the
first ones up to the one that was refused. -/
theorem wp_setRegisters {sets : List RegisterSet}
    {next : Prog EomGlobals Int}
    (hmessages : ∀ s ∈ sets, discreet (prErr (lit s.failed)) = true)
    (hnext : ∀ h m', Talks m m' h → AllSet sets h → wp next Q E m')
    (hfail : ∀ h m', Talks m m' h → SetRefused sets h → Q error m')
    (hwait : ∀ h m', Talks m m' h → SetsBegun sets h → E .waiting m') :
    wp (setRegisters sets next) Q E m := by
  induction sets generalizing m with
  | nil => exact hnext [] m (.refl m) ⟨rfl, by simp⟩
  | cons s rest ih =>
      have hstart : SetsBegun (s :: rest) [] := List.nil_prefix
      apply wp_setRegister (hmessages s List.mem_cons_self)
      · intro r m' ht hstatus
        apply ih
        · exact fun s hs => hmessages s (List.mem_cons_of_mem _ hs)
        · intro h m'' hrest hall
          apply hnext _ m'' (ht.trans hrest)
          constructor
          · simp [hall.commands]
          · simpa [hstatus] using hall.succeeded
        · exact fun h m'' hrest hrefused =>
            hfail _ m'' (ht.trans hrest) hrefused.cons
        · exact fun h m'' hrest hbegun =>
            hwait _ m'' (ht.trans hrest) hbegun.cons
      · exact fun r m' ht hstatus => hfail _ m' ht (.first hstatus)
      · exact hwait [] m (.refl m) hstart

/-- Commands that are reads only. -/
def Gets (h : History) : Prop :=
  ∀ x ∈ h, ∃ attrSel peer, x.1 = uicGetCommand attrSel peer

theorem gets_nil : Gets [] := by
  simp [Gets]

theorem Gets.append (hleft : Gets h) (hright : Gets h') : Gets (h ++ h') := by
  intro x hx
  rcases List.mem_append.mp hx with hx | hx
  · exact hleft x hx
  · exact hright x hx

theorem gets_singleton {x : UicCommand × SysReply} {attrSel : UInt32}
    {peer : Side} (hx : x.1 = uicGetCommand attrSel peer) : Gets [x] :=
  List.forall_mem_singleton.mpr ⟨attrSel, peer, hx⟩

/-- The register was read without an error and holds `value`. -/
structure Reads (cmd : UicCommand) (value : Int) (x : UicCommand × SysReply) :
    Prop where
  command : x.1 = cmd
  succeeded : ¬ UicFailed x.2
  value : ((registerValue x.2).toNat : Int) = value

/-- A read that goes on has a value the device really sent, below 2^31. -/
theorem wp_readRegister {attrSel : UInt32} {peer : Side}
    {failed : Int → Text} {fail : α} {use : Int → Prog EomGlobals α}
    {Q : α → Machine EomGlobals → Prop}
    (hmessage : ∀ value, discreet (prErr (failed value)) = true)
    (huse : ∀ x m' value, Talks m m' [x] →
      Reads (uicGetCommand attrSel peer) value x →
      0 ≤ value ∧ value ≤ intMax → wp (use value) Q E m')
    (hfail : ∀ x m', Talks m m' [x] → x.1 = uicGetCommand attrSel peer →
      uicStatus x.2 < 0 → Q fail m')
    (hwait : E .waiting m) :
    wp (readRegister attrSel peer failed fail use) Q E m := by
  simp only [readRegister, uicGet_eq_exchange, wp_bind, wp_get]
  refine wp_exchange _ _ (fun _ => hwait) ?_
  intro r rest hreplies
  by_cases hneg : uicStatus r < 0
  · simp only [if_pos hneg, wp_bind, wp_note, wp_pure]
    apply hfail (_, r)
    · exact (Talks.of_command _ _ hreplies).trans (Talks.of_note (hmessage _))
    · rfl
    · exact hneg
  · simp only [if_neg hneg]
    have hpos := not_lt.mp hneg
    obtain ⟨hok, hlt⟩ := (uicStatus_nonneg_iff r).mp hpos
    have hvalue := uicStatus_of_lt hok hlt
    have hmax : uicStatus r ≤ intMax := by
      simp only [hvalue, intMax]
      omega
    exact huse (_, r) _ _ (.of_command _ _ hreplies) ⟨rfl, hok, hvalue.symm⟩
      ⟨hpos, hmax⟩

/-- A system call whose result the program goes on with. -/
theorem wp_sysCall {c : SysCall} {Q : Int → Machine EomGlobals → Prop}
    (hc : ∀ fd sgIo, c ≠ .ioctl fd sgIo)
    (hdone : ∀ ret m', Talks m m' [] → Q ret m') (hwait : E .waiting m) :
    wp (sysCall c) Q E m := by
  refine wp_exchange _ _ (fun _ => hwait) ?_
  intro r rest hreplies
  exact hdone r.ret _ (.of_sysCall hc hreplies)

/-! `config_eom` -/

/-- The command that polls the UniPro state. -/
def uniproStateGet : UicCommand :=
  uicGetCommand (uicArgMibSel qcomDmeVsUniproState (selectTx 0)) .localSide

theorem wp_pollUniproState {Q : Option Int → Machine EomGlobals → Prop}
    (hdone : ∀ out r m', Talks m m' [(uniproStateGet, r)] → Q out m')
    (hwait : E .waiting m) : wp pollUniproState Q E m := by
  simp only [pollUniproState, uicGet_eq_exchange, wp_bind, wp_get]
  refine wp_exchange _ _ (fun _ => hwait) ?_
  intro r rest hreplies
  rw [wp_pure]
  exact hdone _ r _ (.of_command _ _ hreplies)

/-- Every poll takes a reply, so that the wait ends with the replies. -/
theorem consumes_pollUniproState : Consumes pollUniproState := by
  intro m
  refine wp_pollUniproState ?_ trivial
  intro out r m' ht _
  have hless := ht.replies
  simp only [List.length_singleton] at hless
  omega

/-- The polls behind the last set of `config_eom`. -/
def AllPolls (h : History) : Prop := ∀ x ∈ h, x.1 = uniproStateGet

theorem AllPolls.gets (hpolls : AllPolls h) : Gets h :=
  fun x hx => ⟨_, _, hpolls x hx⟩

/-- The wait sends polls and nothing else; the invariant of its loop is the list
of polls so far. -/
theorem wp_waitPowerModeChange
    (hdone : ∀ h m', Talks m m' h → AllPolls h → Q success m')
    (hwait : ∀ h m', Talks m m' h → AllPolls h → E .waiting m') :
    wp waitPowerModeChange Q E m := by
  rw [waitPowerModeChange, wp_bind]
  refine wp_loop consumes_pollUniproState
    (fun m' => ∃ h, Talks m m' h ∧ AllPolls h) ?_ ⟨[], .refl m, by
      simp [AllPolls]⟩
  rintro m₁ ⟨h, ht, hpolls⟩
  refine wp_pollUniproState ?_ (hwait h m₁ ht hpolls)
  intro out r m₂ hr
  have hall : AllPolls (h ++ [(uniproStateGet, r)]) := by
    intro x hx
    rcases List.mem_append.mp hx with hx | hx
    · exact hpolls x hx
    · rw [List.mem_singleton.mp hx]
  cases out with
  | none => exact ⟨_, ht.trans hr, hall⟩
  | some ret =>
      simp only [wp_bind, wp_notes, wp_pure]
      have hquiet : ∀ n ∈ (if ret < 0 then [Note.usleep 200000] else []),
          discreet n = true := by
        intro n hn
        split at hn
        · rw [List.mem_singleton.mp hn]
          rfl
        · contradiction
      have hend := (ht.trans hr).trans (Talks.of_notes hquiet)
      rw [List.append_nil] at hend
      exact hdone _ _ hend hall

/-- `config_eom` sends its sets first, polls after the last of them, and fails
at a refused set only. -/
theorem wp_configEom {peer : Side} {lane targetCount : Int}
    {timing volt : UInt32}
    (hdone : ∀ sets polls m', Talks m m' (sets ++ polls) →
      AllSet (configSets peer lane timing volt targetCount) sets →
      AllPolls polls → Q success m')
    (hfail : ∀ h m', Talks m m' h →
      SetRefused (configSets peer lane timing volt targetCount) h → Q error m')
    (hwait : ∀ sets polls m', Talks m m' (sets ++ polls) →
      SetsBegun (configSets peer lane timing volt targetCount) sets →
      Gets polls → E .waiting m') :
    wp (configEom peer lane timing volt targetCount) Q E m := by
  refine wp_setRegisters ?_ ?_ hfail ?_
  · intro s hs
    simp only [configSets, List.mem_cons, List.not_mem_nil, or_false] at hs
    rcases hs with rfl | rfl | rfl | rfl | rfl | rfl <;> dsimp only <;> rfl
  · intro sets m₁ ht hall
    apply wp_waitPowerModeChange
    · exact fun polls m₂ hp hpolls => hdone sets polls m₂ (ht.trans hp) hall hpolls
    · exact fun polls m₂ hp hpolls =>
        hwait sets polls m₂ (ht.trans hp) hall.begun hpolls.gets
  · intro sets m₁ ht hbegun
    apply hwait sets [] m₁ _ hbegun gets_nil
    rwa [List.append_nil]

/-- The file could not be written or read. -/
def IoRefused (trace : Trace) : Prop :=
  ∃ fd count r, r.ret < 0 ∧
    (.call (.pwrite fd count) r ∈ trace ∨ .call (.pread fd count) r ∈ trace)

theorem wp_ioCall {c : SysCall} {Q : Int → Machine EomGlobals → Prop}
    (hc : ∀ fd sgIo, c ≠ .ioctl fd sgIo)
    (hdone : ∀ r m', Talks m m' [] → .call c r ∈ m'.trace → Q r.ret m')
    (hwait : E .waiting m) : wp (sysCall c) Q E m := by
  apply wp_exchange
  · exact fun _ => hwait
  · intro r rest hreplies
    apply hdone r
    · exact .of_sysCall hc hreplies
    · simp

/-- The traffic between the rounds sends no UIC command. -/
theorem wp_exerciseLink {peer : Side} {Q : Bool → Machine EomGlobals → Prop}
    (hdone : ∀ m', Talks m m' [] → Q true m')
    (hfail : ∀ m', Talks m m' [] → IoRefused m'.trace → Q false m')
    (hwait : ∀ m', Talks m m' [] → E .waiting m') :
    wp (exerciseLink peer) Q E m := by
  simp only [exerciseLink, wp_bind, wp_get]
  by_cases hio : m.mem.doIo
  · simp only [hio, if_true, wp_bind]
    apply wp_ioCall (by simp) _ (hwait m (.refl m))
    intro written m₁ hw hwcall
    by_cases hwritten : written.ret < 0
    · simp only [if_pos hwritten, wp_bind, wp_note, wp_pure]
      apply hfail _ (hw.trans (Talks.of_note rfl))
      exact ⟨_, _, written, hwritten, .inl (List.mem_append_left _ hwcall)⟩
    · simp only [if_neg hwritten]
      cases peer with
      | peerSide =>
          simp only [reduceCtorEq, if_false, wp_pure]
          exact hdone m₁ hw
      | localSide =>
          simp only [if_true, wp_bind]
          apply wp_ioCall (by simp) _ (hwait m₁ hw)
          intro got m₂ hg hgcall
          by_cases hgot : got.ret < 0
          · simp only [if_pos hgot, wp_bind, wp_note, wp_pure]
            apply hfail _ ((hw.trans hg).trans (Talks.of_note rfl))
            exact ⟨_, _, got, hgot, .inr (List.mem_append_left _ hgcall)⟩
          · simp only [if_neg hgot, wp_pure]
            exact hdone m₂ (hw.trans hg)
  · simp only [hio, Bool.false_eq_true, if_false, wp_pure]
    exact hdone m (.refl m)

/-! The rounds behind `repeat_eom_scan`. -/

def eyeMonitorGet (attr : Int) (peer : Side) (lane : Int) : UicCommand :=
  uicGetCommand (uicArgMibSel attr (selectRx lane)) peer

/-- A round that asks for another: the eye monitor still runs, or neither of
its counts is high enough. -/
inductive BusyRound (peer : Side) (lane targetCount : Int) : History → Prop
  | running {x start}
      (hstart : Reads (eyeMonitorGet rxEyemonStart peer lane) start x)
      (hset : UInt32.ofInt start &&& rxEyemonStartMask ≠ 0) :
      BusyRound peer lane targetCount [x]
  | short {x y z start tested errors}
      (hstart : Reads (eyeMonitorGet rxEyemonStart peer lane) start x)
      (hclear : UInt32.ofInt start &&& rxEyemonStartMask = 0)
      (htested : Reads (eyeMonitorGet rxEyemonTestedCount peer lane) tested y)
      (herrors : Reads (eyeMonitorGet rxEyemonErrorCount peer lane) errors z)
      (hlow : tested < targetCount) (hfew : errors < 60) :
      BusyRound peer lane targetCount [x, y, z]

/-- The round that is logged, with the error count it read. -/
inductive FinalRound (peer : Side) (lane targetCount errors : Int) :
    History → Prop
  | stopped {x y z start tested}
      (hstart : Reads (eyeMonitorGet rxEyemonStart peer lane) start x)
      (hclear : UInt32.ofInt start &&& rxEyemonStartMask = 0)
      (htested : Reads (eyeMonitorGet rxEyemonTestedCount peer lane) tested y)
      (herrors : Reads (eyeMonitorGet rxEyemonErrorCount peer lane) errors z)
      (hhigh : targetCount ≤ tested ∨ 60 ≤ errors) :
      FinalRound peer lane targetCount errors [x, y, z]

/-- The reads of a round, one of which failed. -/
structure ReadRefused (peer : Side) (lane : Int) (h : History) : Prop where
  reads : ∀ x ∈ h, ∃ attr ∈ [rxEyemonStart, rxEyemonTestedCount,
    rxEyemonErrorCount], x.1 = eyeMonitorGet attr peer lane
  refused : ∃ x ∈ h, uicStatus x.2 < 0

/-- The results are allocated, and one more fits. -/
structure HasRoom (g : EomGlobals) : Prop where
  room : (g.eomData.dataCnt : Int) < g.eomResultCount
  allocated : (g.eomData.er.length : Int) = g.eomResultCount

/-- The results logged so far. -/
def EOMData.results (data : EOMData) : List EomResult :=
  data.er.take data.dataCnt

/-- The record that was just made is the last of the results. -/
theorem EOMData.results_record {data : EOMData} {result : EomResult}
    (h : data.dataCnt < data.er.length) :
    (data.record result).results = data.results ++ [result] := by
  simp only [EOMData.results, EOMData.record]
  rw [List.take_add_one, List.take_set_of_le le_rfl]
  simp [h]

theorem HasRoom.results_record {g : EomGlobals} (hroom : HasRoom g)
    (result : EomResult) :
    (g.eomData.record result).results = g.eomData.results ++ [result] := by
  apply EOMData.results_record
  have hr := hroom.room
  have ha := hroom.allocated
  omega

/-- From `m` to `m'` the program sent the commands of `h` and then wrote
`result` behind the results it had. -/
structure Logs (m m' : Machine EomGlobals) (h : History) (result : EomResult) :
    Prop where
  mem : m'.mem = { m.mem with eomData := m.mem.eomData.record result }
  notes : ∃ entries, notesOf m'.trace = notesOf m.trace ++ entries ++
    [.store m.mem.eomData.dataCnt] ∧ ∀ n ∈ entries, quiet n = true
  history : exchangesOf m'.trace = exchangesOf m.trace ++ requestsOf h

variable {result : EomResult}

/-- Commands before a step that logs belong to its history. -/
theorem Talks.logs (hleft : Talks m m' h) (hright : Logs m' m'' h' result) :
    Logs m m'' (h ++ h') result := by
  obtain ⟨left, hl, hlq⟩ := (hleft.leaves.mono fun _ => quiet_of_discreet).notes
  obtain ⟨right, hr, hrq⟩ := hright.notes
  refine ⟨by rw [hright.mem, hleft.mem], ⟨left ++ right, ?_, ?_⟩, ?_⟩
  · rw [hr, hl, hleft.mem]
    simp only [List.append_assoc]
  · intro n hn
    rcases List.mem_append.mp hn with hn | hn
    · exact hlq n hn
    · exact hrq n hn
  · rw [hright.history, hleft.history, requestsOf, requestsOf, requestsOf,
      List.map_append, List.append_assoc]

/-- What `verboseNotes` leaves. -/
def verboseEntries (g : EomGlobals) (texts : List Text) : List Note :=
  if g.verbose then texts.map printf else []

theorem discreet_verboseEntries (g : EomGlobals) (texts : List Text) :
    ∀ n ∈ verboseEntries g texts, discreet n = true := by
  intro n hn
  rw [verboseEntries] at hn
  split at hn
  · obtain ⟨text, -, rfl⟩ := List.mem_map.mp hn
    rfl
  · contradiction

/-- What is printed in verbose mode only changes the notes. -/
theorem verboseNotes_bind (g : EomGlobals) (texts : List Text)
    (p : Prog EomGlobals Int) (replies : List SysReply)
    (trace : List (Event SysCall SysReply Note)) :
    (do verboseNotes texts; p) ⟨replies, trace, g⟩ =
      p ⟨replies, trace ++ (verboseEntries g texts).map .note, g⟩ :=
  rfl

theorem wp_verboseNotes {entries : List Text}
    {Q : Unit → Machine EomGlobals → Prop}
    (hdone : ∀ m', Talks m m' [] → Q () m') :
    wp (verboseNotes entries) Q E m := by
  simp only [verboseNotes, wp_bind, wp_get, wp_notes]
  exact hdone _ (Talks.of_notes (discreet_verboseEntries m.mem entries))

/-- With room left, one record is written behind the others. -/
theorem wp_logResult (hroom : HasRoom m.mem)
    (hdone : ∀ m', Logs m m' [] result → Q success m') :
    wp (logResult result) Q E m := by
  have hlength : ¬ m.mem.eomData.er.length ≤ m.mem.eomData.dataCnt := by
    have hr := hroom.room
    have ha := hroom.allocated
    omega
  have hcount : ¬ m.mem.eomResultCount < m.mem.eomData.dataCnt + 1 := by
    have hr := hroom.room
    omega
  simp only [logResult, wp_bind, wp_get, wp_note, if_neg hlength, wp_modify,
    if_neg hcount, wp_pure]
  refine hdone _ ⟨rfl, ⟨[], ?_, by simp⟩, ?_⟩
  · simp
  · simp [exchangesOf, requestsOf]

/-- What one round comes to, before it logs a result. -/
theorem wp_readEyeMonitor {peer : Side} {lane timing volt targetCount : Int}
    {Q : Option Int → Machine EomGlobals → Prop}
    (hbusy : ∀ h m', Talks m m' h → BusyRound peer lane targetCount h →
      Q none m')
    (hlog : ∀ h m' errors, Talks m m' h →
      FinalRound peer lane targetCount errors h →
      wp (logResult ⟨lane, timing, volt, errors⟩) (fun ret => Q (some ret))
        E m')
    (hfail : ∀ h m', Talks m m' h → ReadRefused peer lane h →
      Q (some error) m')
    (hwait : ∀ h m', Talks m m' h → Gets h → E .waiting m') :
    wp (readEyeMonitor peer lane timing volt targetCount) Q E m := by
  apply wp_readRegister (fun _ => rfl)
  · intro x m₁ start hx hstart _
    by_cases hset : UInt32.ofInt start &&& rxEyemonStartMask ≠ 0
    · simp only [if_pos hset, wp_pure]
      exact hbusy _ m₁ hx (.running hstart hset)
    simp only [if_neg hset]
    have hclear := not_not.mp hset
    apply wp_readRegister (fun _ => rfl)
    · intro y m₂ tested hy htested _
      apply wp_readRegister (fun _ => rfl)
      · intro z m₃ errors hz herrors _
        have hall := (hx.trans hy).trans hz
        by_cases hhigh :
            tested ≥ targetCount ∨ errors ≥ eomPhyErrorCountThreshold
        · simp only [if_pos hhigh, wp_bind]
          apply wp_verboseNotes
          intro m₄ hv
          rw [wp_bind]
          apply wp_imp (hlog _ m₄ errors (hall.trans hv)
            (.stopped hstart hclear htested herrors hhigh))
          intro ret m₅ hQ
          rwa [wp_pure]
        · simp only [if_neg hhigh, wp_pure]
          rw [not_or, not_le, not_le] at hhigh
          exact hbusy _ m₃ hall
            (.short hstart hclear htested herrors hhigh.1 hhigh.2)
      · intro z m₃ hz hcommand hneg
        apply hfail _ m₃ ((hx.trans hy).trans hz)
        constructor
        · simp [hstart.command, htested.command, hcommand, eyeMonitorGet]
        · exact ⟨z, by simp, hneg⟩
      · exact hwait _ m₂ (hx.trans hy) ((gets_singleton hstart.command).append
          (gets_singleton htested.command))
    · intro y m₂ hy hcommand hneg
      apply hfail _ m₂ (hx.trans hy)
      constructor
      · simp [hstart.command, hcommand, eyeMonitorGet]
      · exact ⟨y, by simp, hneg⟩
    · exact hwait _ m₁ hx (gets_singleton hstart.command)
  · intro x m₁ hx hcommand hneg
    apply hfail _ m₁ hx
    constructor
    · simp [hcommand, eyeMonitorGet]
    · exact ⟨x, by simp, hneg⟩
  · exact hwait [] m (.refl m) gets_nil

/-- A round that fails, in a read or before it. -/
def RoundRefused (peer : Side) (lane : Int) (h : History) (trace : Trace) :
    Prop :=
  ReadRefused peer lane h ∨ h = [] ∧ IoRefused trace

/-- One round: the eye monitor was still busy, it was done and its result was
logged, or one of the commands failed. -/
theorem wp_eomRound {peer : Side} {lane timing volt targetCount : Int}
    {Q : Option Int → Machine EomGlobals → Prop}
    (hbusy : ∀ h m', Talks m m' h → BusyRound peer lane targetCount h →
      Q none m')
    (hlog : ∀ h m' errors, Talks m m' h →
      FinalRound peer lane targetCount errors h →
      wp (logResult ⟨lane, timing, volt, errors⟩) (fun ret => Q (some ret))
        E m')
    (hfail : ∀ h m', Talks m m' h → RoundRefused peer lane h m'.trace →
      Q (some error) m')
    (hwait : ∀ h m', Talks m m' h → Gets h → E .waiting m') :
    wp (eomRound peer lane timing volt targetCount) Q E m := by
  rw [eomRound, wp_bind]
  apply wp_exerciseLink
  · intro m₁ hio
    simp only [if_true]
    apply wp_readEyeMonitor
    · exact fun h m' ht hround => hbusy h m' (hio.trans ht) hround
    · exact fun h m' errors ht hround =>
        hlog h m' errors (hio.trans ht) hround
    · exact fun h m' ht hrefused => hfail h m' (hio.trans ht) (.inl hrefused)
    · exact fun h m' ht hgets => hwait h m' (hio.trans ht) hgets
  · intro m₁ hio hrefused
    simp only [Bool.false_eq_true, if_false, wp_pure]
    exact hfail [] m₁ hio (.inr ⟨rfl, hrefused⟩)
  · exact fun m' ht => hwait [] m' ht gets_nil

theorem BusyRound.gets {peer : Side} {lane targetCount : Int}
    (hround : BusyRound peer lane targetCount h) :
    Gets h := by
  intro x hx
  cases hround with
  | running hstart _ =>
      rw [List.mem_singleton.mp hx]
      exact ⟨_, _, hstart.command⟩
  | short hstart _ htested herrors _ _ =>
      simp only [List.mem_cons, List.not_mem_nil, or_false] at hx
      rcases hx with rfl | rfl | rfl
      · exact ⟨_, _, hstart.command⟩
      · exact ⟨_, _, htested.command⟩
      · exact ⟨_, _, herrors.command⟩

theorem FinalRound.gets {peer : Side} {lane targetCount errors : Int}
    (hround : FinalRound peer lane targetCount errors h) : Gets h := by
  intro x hx
  cases hround with
  | stopped hstart _ htested herrors _ =>
      simp only [List.mem_cons, List.not_mem_nil, or_false] at hx
      rcases hx with rfl | rfl | rfl
      · exact ⟨_, _, hstart.command⟩
      · exact ⟨_, _, htested.command⟩
      · exact ⟨_, _, herrors.command⟩

/-- Busy rounds read registers and set none. -/
theorem gets_flatten {peer : Side} {lane targetCount : Int}
    {rounds : List History}
    (hrounds : ∀ round ∈ rounds, BusyRound peer lane targetCount round) :
    Gets rounds.flatten := by
  intro x hx
  obtain ⟨round, hround, hmem⟩ := List.mem_flatten.mp hx
  exact (hrounds round hround).gets x hmem

theorem RoundRefused.gets {peer : Side} {lane : Int} {trace : Trace}
    (hrefused : RoundRefused peer lane h trace) : Gets h := by
  intro x hx
  rcases hrefused with hread | ⟨rfl, -⟩
  · obtain ⟨attr, -, hcommand⟩ := hread.reads x hx
    exact ⟨_, _, hcommand⟩
  · contradiction

/-- A busy round has sent something. -/
theorem BusyRound.length_pos {peer : Side} {lane targetCount : Int}
    (hround : BusyRound peer lane targetCount h) : 0 < h.length := by
  cases hround <;> simp

/-- Every round takes a reply, so that the rounds end with the replies. -/
theorem consumes_eomRound (peer : Side) (lane timing volt targetCount : Int) :
    Consumes (eomRound peer lane timing volt targetCount) := by
  intro m
  apply wp_eomRound
  · intro h m' ht hround _
    have hless := ht.replies
    have hpos := hround.length_pos
    omega
  · intro h m' errors _ _
    apply wp_imp (wp_trivial _)
    exact fun ret m'' _ hnone => absurd hnone (by simp)
  · exact fun h m' _ _ hnone => absurd hnone (by simp)
  · exact fun _ _ _ _ => trivial

/-- The commands of one call up to the result it logs: the sets of
`config_eom`, its polls, the rounds that asked for more and the last one. -/
structure ScanHistory (peer : Side) (lane timing volt targetCount errors : Int)
    (h : History) : Prop where
  split : ∃ (sets polls : History) (rounds : List History) (final : History),
    h = sets ++ polls ++ rounds.flatten ++ final ∧
    AllSet (configSets peer lane (eomSteps timing) (eomSteps volt)
      targetCount) sets ∧
    AllPolls polls ∧
    (∀ round ∈ rounds, BusyRound peer lane targetCount round) ∧
    FinalRound peer lane targetCount errors final

/-- The commands of a call that fails: a set was refused, or all succeeded and
a later round failed. -/
inductive ScanRefused (peer : Side) (lane timing volt targetCount : Int)
    (trace : Trace) : History → Prop
  | config {sets : History}
      (hrefused : SetRefused (configSets peer lane (eomSteps timing)
        (eomSteps volt) targetCount) sets) :
      ScanRefused peer lane timing volt targetCount trace sets
  | round {sets polls final : History} {rounds : List History}
      (hsets : AllSet (configSets peer lane (eomSteps timing) (eomSteps volt)
        targetCount) sets)
      (hpolls : AllPolls polls)
      (hrounds : ∀ round ∈ rounds, BusyRound peer lane targetCount round)
      (hrefused : RoundRefused peer lane final trace) :
      ScanRefused peer lane timing volt targetCount trace
        (sets ++ polls ++ rounds.flatten ++ final)

/-- The rounds of one call, by the invariant that all rounds so far were busy
ones. -/
theorem wp_eomScan_logs {peer : Side} {lane timing volt targetCount : Int}
    (hlog : ∀ h m' errors, Talks m m' h →
      ScanHistory peer lane timing volt targetCount errors h →
      wp (logResult ⟨lane, timing, volt, errors⟩) Q E m')
    (hfail : ∀ h m', Talks m m' h →
      ScanRefused peer lane timing volt targetCount m'.trace h → Q error m')
    (hwait : ∀ sets gets m', Talks m m' (sets ++ gets) →
      SetsBegun (configSets peer lane (eomSteps timing) (eomSteps volt)
        targetCount) sets → Gets gets → E .waiting m') :
    wp (eomScan peer lane timing volt targetCount) Q E m := by
  rw [eomScan, wp_bind]
  apply wp_configEom
  · intro sets polls m₁ hconfig hall hpolls
    simp only [success, ne_eq, not_true_eq_false, if_false]
    apply wp_loop (consumes_eomRound peer lane timing volt targetCount)
      (fun m' => ∃ rounds : List History,
        Talks m m' (sets ++ polls ++ rounds.flatten) ∧
        ∀ round ∈ rounds, BusyRound peer lane targetCount round)
    · rintro m₂ ⟨rounds, ht, hrounds⟩
      apply wp_eomRound
      · intro h m₃ hr hround
        refine ⟨rounds ++ [h], ?_, ?_⟩
        · simpa [List.append_assoc] using ht.trans hr
        · intro round hmem
          rcases List.mem_append.mp hmem with hmem | hmem
          · exact hrounds round hmem
          · rw [List.mem_singleton.mp hmem]
            exact hround
      · exact fun h m₃ errors hr hround => hlog _ m₃ errors (ht.trans hr)
          ⟨sets, polls, rounds, h, rfl, hall, hpolls, hrounds, hround⟩
      · exact fun h m₃ hr hrefused => hfail _ m₃ (ht.trans hr)
          (.round hall hpolls hrounds hrefused)
      · intro h m₃ hr hgets
        apply hwait sets (polls ++ rounds.flatten ++ h) m₃ _ hall.begun
        · exact (hpolls.gets.append (gets_flatten hrounds)).append hgets
        · simpa only [List.append_assoc] using ht.trans hr
    · exact ⟨[], by simpa using hconfig, by simp⟩
  · intro h m₁ ht hrefused
    have herror : error ≠ 0 := by decide
    simp only [if_pos herror, wp_bind, wp_note, wp_pure]
    have hend := ht.trans (Talks.of_note (m := m₁)
      (n := prErr (lit "Failed to configure EOM.\n")) rfl)
    rw [List.append_nil] at hend
    exact hfail h _ hend (.config hrefused)
  · exact hwait

/-- The whole call: `config_eom` first, then the rounds. -/
theorem wp_eomScan {peer : Side} {lane timing volt targetCount : Int}
    (hroom : HasRoom m.mem)
    (hdone : ∀ h m' errors, Logs m m' h ⟨lane, timing, volt, errors⟩ →
      ScanHistory peer lane timing volt targetCount errors h → Q success m')
    (hfail : ∀ h m', Talks m m' h → Q error m')
    (hwait : ∀ h m', Talks m m' h → E .waiting m') :
    wp (eomScan peer lane timing volt targetCount) Q E m := by
  apply wp_eomScan_logs
  · intro h m' errors ht hhistory
    apply wp_logResult (ht.mem ▸ hroom)
    intro m'' hlog
    have hlogs := ht.logs hlog
    rw [List.append_nil] at hlogs
    exact hdone h m'' errors hlogs hhistory
  · exact fun h m' ht _ => hfail h m' ht
  · exact fun sets gets m' ht _ _ => hwait _ m' ht

/-- A call of `eom_scan` in a state with room for a result logs one exactly
when it returns `SUCCESS`, and then the result is what the eye monitor of this
lane reported after it was set up for this point by this call.  Any other call
leaves the results as they were. -/
theorem eomScan_logs_measured_result (peer : Side)
    (lane timing volt targetCount : Int) (m : Machine EomGlobals)
    (hroom : HasRoom m.mem) :
    wp (eomScan peer lane timing volt targetCount) (fun ret m' =>
        (ret = success ∧ ∃ errors h,
          m'.mem = { m.mem with
            eomData := m.mem.eomData.record ⟨lane, timing, volt, errors⟩ } ∧
          m'.mem.eomData.results =
            m.mem.eomData.results ++ [⟨lane, timing, volt, errors⟩] ∧
          exchangesOf m'.trace = exchangesOf m.trace ++ requestsOf h ∧
          ScanHistory peer lane timing volt targetCount errors h) ∨
        (ret = error ∧ m'.mem = m.mem))
      (fun why m' => why = .waiting ∧ m'.mem = m.mem) m := by
  refine wp_eomScan hroom ?_ ?_ ?_
  · intro h m' errors hlogs hhistory
    refine .inl ⟨rfl, errors, h, hlogs.mem, ?_, hlogs.history, hhistory⟩
    rw [hlogs.mem]
    exact hroom.results_record _
  · exact fun h m' ht => .inr ⟨rfl, ht.mem⟩
  · exact fun h m' ht => ⟨rfl, ht.mem⟩

/-- Room for one result, and the replies to the six sets, one poll and one
round. -/
def oneMeasurement : Machine EomGlobals :=
  powerOn (List.replicate 6 (registerReply 0) ++
      [registerReply 2, registerReply 0, registerReply 0x5D, registerReply 3])
    { eomResultCount := 1, eomData := { er := [⟨0, 0, 0, 0⟩] } }

theorem eomScan_logs_first_result :
    HasRoom oneMeasurement.mem ∧
      wp (eomScan .localSide 0 1 (-2) 0x5D) (fun ret m' =>
          (ret = success ∧ ∃ errors h,
            m'.mem = { oneMeasurement.mem with
              eomData := oneMeasurement.mem.eomData.record
                ⟨0, 1, -2, errors⟩ } ∧
            m'.mem.eomData.results =
              oneMeasurement.mem.eomData.results ++ [⟨0, 1, -2, errors⟩] ∧
            exchangesOf m'.trace =
              exchangesOf oneMeasurement.trace ++ requestsOf h ∧
            ScanHistory .localSide 0 1 (-2) 0x5D errors h) ∨
          (ret = error ∧ m'.mem = oneMeasurement.mem))
        (fun why m' => why = .waiting ∧ m'.mem = oneMeasurement.mem)
        oneMeasurement := by
  have hroom : HasRoom oneMeasurement.mem := by constructor <;> decide
  refine ⟨hroom, ?_⟩
  exact eomScan_logs_measured_result .localSide 0 1 (-2) 0x5D oneMeasurement
    hroom

example : (eomScan .localSide 0 1 (-2) 0x5D
    oneMeasurement).machine.mem.eomData.results = [⟨0, 1, -2, 3⟩] := by
  decide +kernel

end UfsTools
