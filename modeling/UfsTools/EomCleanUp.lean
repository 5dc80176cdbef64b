/-
Which lanes a run of ufseom leaves with their eye monitor enabled.
-/
import UfsTools.EomMain
import UfsTools.Obligations
import UfsTools.UicRequest

namespace UfsTools

open CLib Process Obligations

/-! The requests of a run. -/

def sentOf (trace : Trace) : List UfsBsgRequest :=
  (exchangesOf trace).map Prod.fst

@[simp] theorem sentOf_append (left right : Trace) :
    sentOf (left ++ right) = sentOf left ++ sentOf right := by
  simp [sentOf]

theorem sentOf_of_history {trace trace' : Trace}
    {later : List (UfsBsgRequest × SysReply)}
    (hhistory : exchangesOf trace' = exchangesOf trace ++ later) :
    sentOf trace' = sentOf trace ++ later.map Prod.fst := by
  rw [sentOf, hhistory, List.map_append, ← sentOf]

/-- The request that writes to RX_EYEMON_ENABLE of a lane. -/
def eyeMonitorEnable (value : UInt32) (lane : Side × Int) : UfsBsgRequest :=
  uicRequest (uicSetCommand (uicArgMibSel rxEyemonEnable (selectRx lane.2))
    attrSetNor value lane.1)

/-- Every lane that was sent RX_EYEMON_ENABLE=1 was later sent
RX_EYEMON_ENABLE=0 on the same side. -/
def CleanedUp (trace : Trace) : Prop :=
  Discharged (eyeMonitorEnable 1) (eyeMonitorEnable 0) unexcused
    (sentOf trace)

/-- The bsg request of a command names all its arguments. -/
theorem uicRequest_injective {left right : UicCommand}
    (h : uicRequest left = uicRequest right) : left = right := by
  rw [← uicCommandOf_uicRequest left, h, uicCommandOf_uicRequest]

theorem eyeMonitorEnable_ne (lane lane' : Side × Int) :
    eyeMonitorEnable 1 lane ≠ eyeMonitorEnable 0 lane' := by
  intro h
  have hvalue : (1 : UInt32) = 0 :=
    congrArg UicCommand.argument3 (uicRequest_injective h)
  exact absurd hvalue (by decide)

/-- Lanes that share the request that enables them share the other. -/
theorem eyeMonitorEnable_congr {lane lane' : Side × Int}
    (h : eyeMonitorEnable 1 lane = eyeMonitorEnable 1 lane') :
    eyeMonitorEnable 0 lane = eyeMonitorEnable 0 lane' := by
  obtain ⟨hcommand, hselector, -, -⟩ :=
    UicCommand.mk.inj (uicRequest_injective h)
  simp only [eyeMonitorEnable, uicSetCommand, hcommand, hselector]

/-- A request that does not write to RX_EYEMON_ENABLE. -/
def Plain (request : UfsBsgRequest) : Prop :=
  ∀ value lane, eyeMonitorEnable value lane ≠ request

/-- A read writes to no register. -/
theorem plain_get (attrSel : UInt32) (peer : Side) :
    Plain (uicRequest (uicGetCommand attrSel peer)) := by
  intro value lane h
  have hcommand := congrArg UicCommand.command (uicRequest_injective h)
  simp only [uicSetCommand, uicGetCommand] at hcommand
  split_ifs at hcommand <;> exact absurd hcommand (by decide)

/-- Attributes are told apart by their lower 16 bits, all that the selector
keeps of them. -/
theorem plain_set {attr sel : Int} {attrSet : UInt8} {mibVal : UInt32}
    {peer : Side} (hattr : rxEyemonEnable % 65536 ≠ attr % 65536) :
    Plain (uicRequest
      (uicSetCommand (uicArgMibSel attr sel) attrSet mibVal peer)) := by
  intro value lane h
  have hselector := congrArg UicCommand.argument1 (uicRequest_injective h)
  exact uicArgMibSel_ne _ _ hattr hselector

/-- A query is no UIC command. -/
theorem plain_query (op : QueryOperation) (length : UInt16) :
    Plain (querySent op length) := by
  intro value lane h
  have hcode : upiuTransactionUicCmd = utpUpiuQueryReq :=
    congrArg UfsBsgRequest.msgcode h
  exact absurd hcode (by decide)

/-! The requests of one call of `eom_scan`: the first enables the eye monitor,
and the call never writes to that register again. -/

structure StartsEnabled (lane : Side × Int) (requests : List UfsBsgRequest) :
    Prop where
  split : ∃ rest, requests = eyeMonitorEnable 1 lane :: rest ∧
    ∀ request ∈ rest, Plain request

variable {peer : Side} {lane timing volt targetCount : Int} {h : History}

def History.requests (h : History) : List UfsBsgRequest :=
  h.map fun x => uicRequest x.1

theorem requestsOf_fst (h : History) :
    (requestsOf h).map Prod.fst = h.requests := by
  simp [requestsOf, History.requests]

/-- What is sent afterwards must leave the register alone. -/
theorem StartsEnabled.append {lane : Side × Int}
    {requests later : List UfsBsgRequest}
    (hstarts : StartsEnabled lane requests)
    (hlater : ∀ request ∈ later, Plain request) :
    StartsEnabled lane (requests ++ later) := by
  obtain ⟨rest, hsplit, hplain⟩ := hstarts.split
  refine ⟨rest ++ later, ?_, ?_⟩
  · rw [hsplit, List.cons_append]
  · intro request hmem
    rcases List.mem_append.mp hmem with hmem | hmem
    · exact hplain request hmem
    · exact hlater request hmem

/-- The sets of `config_eom` behind the first. -/
theorem plain_configSets (peer : Side) (lane : Int) (timing volt : UInt32)
    (targetCount : Int) :
    ∀ s ∈ (configSets peer lane timing volt targetCount).tail,
      Plain (uicRequest s.command) := by
  intro s hs
  simp only [configSets, List.tail_cons, List.mem_cons, List.not_mem_nil,
    or_false] at hs
  rcases hs with rfl | rfl | rfl | rfl | rfl <;> exact plain_set (by decide)

/-- The first sets of `config_eom`, at least one of them. -/
theorem startsEnabled_of_prefix {timing volt : UInt32} (hne : h ≠ [])
    (hcommands : h.map Prod.fst <+:
      (configSets peer lane timing volt targetCount).map
        RegisterSet.command) : StartsEnabled (peer, lane) h.requests := by
  cases h with
  | nil => contradiction
  | cons x rest =>
      rw [configSets, List.map_cons, List.map_cons,
        List.cons_prefix_cons] at hcommands
      obtain ⟨hfirst, hrest⟩ := hcommands
      refine ⟨History.requests rest, ?_, ?_⟩
      · rw [History.requests, List.map_cons, hfirst]
        rfl
      · intro request hmem
        obtain ⟨y, hy, rfl⟩ := List.mem_map.mp hmem
        have hcommand := hrest.subset (List.mem_map_of_mem hy)
        obtain ⟨s, hs, hcmd⟩ := List.mem_map.mp hcommand
        rw [← hcmd]
        exact plain_configSets peer lane timing volt targetCount s hs

theorem AllSet.startsEnabled {timing volt : UInt32}
    (hall : AllSet (configSets peer lane timing volt targetCount) h) :
    StartsEnabled (peer, lane) h.requests := by
  apply startsEnabled_of_prefix
  · rintro rfl
    exact absurd hall.commands (by simp [configSets])
  · rw [hall.commands]

theorem SetRefused.startsEnabled {timing volt : UInt32}
    (hrefused : SetRefused (configSets peer lane timing volt targetCount) h) :
    StartsEnabled (peer, lane) h.requests := by
  apply startsEnabled_of_prefix
  · rintro rfl
    obtain ⟨s, -, x, hx, -⟩ := hrefused.refused
    contradiction
  · exact hrefused.commands

theorem Gets.plain (hgets : Gets h) :
    ∀ request ∈ h.requests, Plain request := by
  intro request hmem
  obtain ⟨x, hx, rfl⟩ := List.mem_map.mp hmem
  obtain ⟨attrSel, peer, hcommand⟩ := hgets x hx
  rw [hcommand]
  exact plain_get attrSel peer

/-- Behind the sets a call only polls and reads. -/
theorem startsEnabled_rounds {timing volt : UInt32} {sets polls final : History}
    {rounds : List History}
    (hsets : AllSet (configSets peer lane timing volt targetCount) sets)
    (hpolls : AllPolls polls)
    (hrounds : ∀ round ∈ rounds, BusyRound peer lane targetCount round)
    (hfinal : Gets final) :
    StartsEnabled (peer, lane)
      (History.requests (sets ++ polls ++ rounds.flatten ++ final)) := by
  have hgets := (hpolls.gets.append (gets_flatten hrounds)).append hfinal
  have hstarts := hsets.startsEnabled.append hgets.plain
  simpa [History.requests, List.append_assoc] using hstarts

/-- A call of `eom_scan` that measures its point has enabled the eye monitor. -/
theorem ScanHistory.startsEnabled {errors : Int}
    (hscan : ScanHistory peer lane timing volt targetCount errors h) :
    StartsEnabled (peer, lane) h.requests := by
  obtain ⟨sets, polls, rounds, final, rfl, hsets, hpolls, hrounds, hfinal⟩ :=
    hscan.split
  exact startsEnabled_rounds hsets hpolls hrounds hfinal.gets

/-- So has a call that fails. -/
theorem ScanRefused.startsEnabled {trace : Trace}
    (hscan : ScanRefused peer lane timing volt targetCount trace h) :
    StartsEnabled (peer, lane) h.requests := by
  cases hscan with
  | config hrefused => exact hrefused.startsEnabled
  | round hsets hpolls hrounds hrefused =>
      exact startsEnabled_rounds hsets hpolls hrounds hrefused.gets

/-! Why a call of `eom_scan` fails. -/

/-- The file or the device refused what `eom_scan` asked of it. -/
inductive ScanCallRefused (trace : Trace) : Prop
  | io (hio : IoRefused trace)
  | set {peer : Side} {lane targetCount : Int} {timing volt : UInt32}
      {s : RegisterSet} {r : SysReply}
      (hs : s ∈ configSets peer lane timing volt targetCount)
      (hsent : (uicRequest s.command, r) ∈ exchangesOf trace)
      (hstatus : uicSetStatus r ≠ success)
  | read {peer : Side} {lane attr : Int} {r : SysReply}
      (hattr : attr ∈ [rxEyemonStart, rxEyemonTestedCount, rxEyemonErrorCount])
      (hsent : (uicRequest (eyeMonitorGet attr peer lane), r) ∈
        exchangesOf trace)
      (hstatus : uicStatus r < 0)

/-- The reply that stopped the call is in the trace. -/
theorem ScanRefused.callRefused {trace : Trace}
    (hscan : ScanRefused peer lane timing volt targetCount trace h)
    (hsent : ∀ x ∈ h, (uicRequest x.1, x.2) ∈ exchangesOf trace) :
    ScanCallRefused trace := by
  cases hscan with
  | config hrefused =>
      obtain ⟨s, hs, x, hx, hcommand, hstatus⟩ := hrefused.refused
      exact .set hs (hcommand ▸ hsent x hx) hstatus
  | round hsets hpolls hrounds hrefused =>
      rcases hrefused with hread | ⟨-, hio⟩
      · obtain ⟨x, hx, hstatus⟩ := hread.refused
        obtain ⟨attr, hattr, hcommand⟩ := hread.reads x hx
        have hmem := hsent x (List.mem_append_right _ hx)
        exact .read hattr (hcommand ▸ hmem) hstatus
      · exact .io hio

/-- A call fails if it is refused something, or if its result has no room. -/
def ScanFails (trace : Trace) : Prop :=
  ScanCallRefused trace ∨
    ∃ text, exceedsPrefix <+: text ∧ prErr text ∈ notesOf trace

theorem ScanCallRefused.append {trace : Trace}
    (hrefused : ScanCallRefused trace) (later : Trace) :
    ScanCallRefused (trace ++ later) := by
  cases hrefused with
  | io hio =>
      obtain ⟨fd, count, r, hret, hcall⟩ := hio
      exact .io ⟨fd, count, r, hret, hcall.imp (List.mem_append_left _)
        (List.mem_append_left _)⟩
  | set hs hsent hstatus =>
      have hmem := List.mem_append_left (exchangesOf later) hsent
      rw [← exchangesOf_append] at hmem
      exact .set hs hmem hstatus
  | read hattr hsent hstatus =>
      have hmem := List.mem_append_left (exchangesOf later) hsent
      rw [← exchangesOf_append] at hmem
      exact .read hattr hmem hstatus

/-- A failure stays one in every longer trace. -/
theorem ScanFails.append {trace : Trace} (hfails : ScanFails trace)
    (later : Trace) : ScanFails (trace ++ later) := by
  rcases hfails with hrefused | ⟨text, hpre, hmem⟩
  · exact .inl (hrefused.append later)
  · refine .inr ⟨text, hpre, ?_⟩
    rw [notesOf_append]
    exact List.mem_append_left _ hmem

/-! What the parts of a run leave behind. -/

/-- All lanes are cleaned up apart from `lane`, and no scan has failed. -/
structure Enabled (lane : Side × Int) (trace : Trace) : Prop where
  others : Discharged (eyeMonitorEnable 1) (eyeMonitorEnable 0)
    (fun lane' => eyeMonitorEnable 1 lane' = eyeMonitorEnable 1 lane)
    (sentOf trace)
  running : scanFailed ∉ notesOf trace

structure Clean (trace : Trace) : Prop where
  cleanedUp : CleanedUp trace
  running : scanFailed ∉ notesOf trace

/-- A scan has failed, and its lane stays enabled. -/
structure Abandoned (trace : Trace) : Prop where
  enabled : ¬ CleanedUp trace
  fails : ScanFails trace

/-- What holds once the loops are through or left. -/
def Verdict (trace : Trace) : Prop :=
  Clean trace ∨ Abandoned trace ∧ scanFailed ∈ notesOf trace

/-- A clean trace may be followed by a scan of any lane. -/
theorem Clean.enabled {trace : Trace} (hclean : Clean trace)
    (lane : Side × Int) : Enabled lane trace :=
  ⟨hclean.cleanedUp.mono fun _ hnone => hnone.elim, hclean.running⟩

variable {m m' : Machine EomGlobals}

/-- Talking to the link sends its history and nothing else. -/
theorem Talks.sentOf_eq (ht : Talks m m' h) :
    sentOf m'.trace = sentOf m.trace ++ h.requests := by
  rw [sentOf_of_history ht.history, requestsOf_fst]

/-- Talking to the link does not say that a scan failed. -/
theorem Talks.running (ht : Talks m m' h)
    (hrunning : scanFailed ∉ notesOf m.trace) :
    scanFailed ∉ notesOf m'.trace := by
  obtain ⟨entries, hnotes, hdiscreet⟩ := ht.leaves.notes
  rw [hnotes, List.mem_append, not_or]
  exact ⟨hrunning, fun hmem =>
    ne_scanFailed_of_discreet (hdiscreet _ hmem) rfl⟩

theorem Talks.sent (ht : Talks m m' h) :
    ∀ x ∈ h, (uicRequest x.1, x.2) ∈ exchangesOf m'.trace := by
  intro x hx
  rw [ht.history]
  exact List.mem_append_right _ (List.mem_map.mpr ⟨x, hx, rfl⟩)

/-- A call of `eom_scan` that measures its point. -/
theorem Enabled.scanned (hm : Enabled (peer, lane) m.trace)
    (ht : Talks m m' h) (hstarts : StartsEnabled (peer, lane) h.requests) :
    Enabled (peer, lane) m'.trace := by
  obtain ⟨rest, hsplit, hplain⟩ := hstarts.split
  constructor
  · rw [ht.sentOf_eq]
    apply hm.others.append
    intro lane' hmem
    rw [hsplit] at hmem
    rcases List.mem_cons.mp hmem with heq | hrest
    · exact heq
    · exact absurd rfl (hplain _ hrest 1 lane')
  · exact ht.running hm.running

/-- Behind a call that enables the eye monitor the lane is not cleaned up. -/
theorem StartsEnabled.not_cleanedUp (ht : Talks m m' h)
    (hstarts : StartsEnabled (peer, lane) h.requests) :
    ¬ CleanedUp m'.trace := by
  obtain ⟨rest, hsplit, hplain⟩ := hstarts.split
  rw [CleanedUp, ht.sentOf_eq, hsplit]
  apply not_discharged
  intro hmem
  exact hplain _ hmem 0 (peer, lane) rfl

/-- The command behind the two inner loops. -/
theorem Enabled.disabled (hm : Enabled (peer, lane) m.trace) {r : SysReply}
    (ht : Talks m m' [(uicSetCommand (uicArgMibSel rxEyemonEnable
      (selectRx lane)) attrSetNor 0 peer, r)]) : Clean m'.trace := by
  have hrequests : History.requests [(uicSetCommand (uicArgMibSel
      rxEyemonEnable (selectRx lane)) attrSetNor 0 peer, r)] =
        [eyeMonitorEnable 0 (peer, lane)] := rfl
  constructor
  · rw [CleanedUp, ht.sentOf_eq, hrequests]
    exact hm.others.close (fun lane' heq => eyeMonitorEnable_congr heq)
      fun lane' => eyeMonitorEnable_ne lane' (peer, lane)
  · exact ht.running hm.running

/-! Steps outside the scan change none of this. -/

/-- A note other than the message on a failed scan, or a call that does not
write to RX_EYEMON_ENABLE. -/
def Outside : Process.Event SysCall SysReply Note → Prop
  | .note n => n ≠ scanFailed
  | .call (.ioctl _ sgIo) _ => Plain sgIo.request
  | .call _ _ => True

variable {trace : Trace} {e : Process.Event SysCall SysReply Note}

theorem Outside.sent (he : Outside e) :
    ∀ request ∈ sentOf [e], Plain request := by
  intro request hmem
  cases e with
  | note n => simp [sentOf, exchangesOf] at hmem
  | call c r =>
      cases c with
      | ioctl fd sgIo =>
          have hrequest : request = sgIo.request := List.mem_singleton.mp hmem
          exact hrequest ▸ he
      | _ => simp [sentOf, exchangesOf] at hmem

theorem Outside.discharged_iff (he : Outside e)
    {excused : Side × Int → Prop} :
    Discharged (eyeMonitorEnable 1) (eyeMonitorEnable 0) excused
        (sentOf (trace ++ [e])) ↔
      Discharged (eyeMonitorEnable 1) (eyeMonitorEnable 0) excused
        (sentOf trace) := by
  rw [sentOf_append]
  apply discharged_append_iff
  · exact fun lane hmem => he.sent _ hmem 1 lane rfl
  · exact fun lane hmem => he.sent _ hmem 0 lane rfl

theorem Outside.running (he : Outside e) :
    scanFailed ∈ notesOf (trace ++ [e]) ↔ scanFailed ∈ notesOf trace := by
  rw [notesOf_append, List.mem_append]
  apply or_iff_left
  cases e with
  | note n =>
      intro hmem
      exact he (List.mem_singleton.mp hmem).symm
  | call c r => simp

theorem Enabled.outside {lane : Side × Int} (hm : Enabled lane trace)
    (he : Outside e) : Enabled lane (trace ++ [e]) := by
  constructor
  · exact he.discharged_iff.mpr hm.others
  · rw [he.running]
    exact hm.running

theorem Clean.outside (hm : Clean trace) (he : Outside e) :
    Clean (trace ++ [e]) := by
  constructor
  · exact he.discharged_iff.mpr hm.cleanedUp
  · rw [he.running]
    exact hm.running

theorem Abandoned.outside (hm : Abandoned trace) (he : Outside e) :
    Abandoned (trace ++ [e]) := by
  constructor
  · exact fun h => hm.enabled (he.discharged_iff.mp h)
  · exact hm.fails.append [e]

theorem Verdict.outside (hm : Verdict trace) (he : Outside e) :
    Verdict (trace ++ [e]) := by
  rcases hm with hclean | ⟨habandoned, hmem⟩
  · exact .inl (hclean.outside he)
  · exact .inr ⟨habandoned.outside he, he.running.mpr hmem⟩

/-- The message on a failed scan closes the case. -/
theorem Abandoned.verdict (hm : Abandoned trace) :
    Verdict (trace ++ [.note scanFailed]) := by
  right
  constructor
  · constructor
    · have hsent : sentOf (trace ++ [.note scanFailed]) = sentOf trace := by
        rw [sentOf_append]
        exact List.append_nil _
      rw [CleanedUp, hsent]
      exact hm.enabled
    · exact hm.fails.append _
  · rw [notesOf_append]
    exact List.mem_append_right _ List.mem_cons_self

/-! The scan. -/

variable {result : EomResult} {Q : Int → Machine EomGlobals → Prop}
  {E : Halt → Machine EomGlobals → Prop}

/-- Variables that differ in the results only. -/
def Logged (g g' : EomGlobals) : Prop :=
  ∃ er n, g' = { g with eomData := { g.eomData with er := er, dataCnt := n } }

/-- Without any assumption on the room there is. -/
theorem wp_logResult_notes
    (hdone : ∀ m', Logged m.mem m'.mem →
      m'.trace = m.trace ++ [.note (.store m.mem.eomData.dataCnt)] →
      Q success m')
    (hfull : ∀ m' text, exceedsPrefix <+: text → Logged m.mem m'.mem →
      m'.trace = m.trace ++ [.note (.store m.mem.eomData.dataCnt)] ++
        [.note (prErr text)] → Q error m')
    (hfault : ∀ m', Logged m.mem m'.mem →
      m'.trace = m.trace ++ [.note (.store m.mem.eomData.dataCnt)] →
      E .fault m') : wp (logResult result) Q E m := by
  rw [logResult, wp_bind, wp_get, wp_bind, wp_note]
  split_ifs with hlength hcount
  · rw [wp_fault]
    exact hfault _ ⟨_, _, rfl⟩ rfl
  · rw [wp_bind, wp_modify, wp_bind, wp_note, wp_pure]
    have hpre : exceedsPrefix <+: exceedsPrefix ++
        showInt m.mem.eomResultCount ++ lit " of the device\n" := by
      rw [List.append_assoc]
      exact List.prefix_append exceedsPrefix _
    exact hfull _ _ hpre ⟨_, _, rfl⟩ rfl
  · rw [wp_bind, wp_modify, wp_pure]
    exact hdone _ ⟨_, _, rfl⟩ rfl

/-- How a call of `eom_scan` ends: it returns `SUCCESS`, or its lane stays
enabled. -/
def ScanEnded (lane : Side × Int) (ret : Int) (trace : Trace) : Prop :=
  ret = success ∧ Enabled lane trace ∨ ret ≠ success ∧ Abandoned trace

/-- A call leaves its own lane enabled, and no other. -/
theorem wp_eomScan_enabled (hm : Enabled (peer, lane) m.trace) :
    wp (eomScan peer lane timing volt targetCount) (fun ret m' =>
        m'.mem.eomData.localPeer = m.mem.eomData.localPeer ∧
          ScanEnded (peer, lane) ret m'.trace) (fun _ _ => True) m := by
  have hstore : ∀ i, Outside (.note (.store i)) := by
    intro i
    simp [Outside, scanFailed, prErr]
  apply wp_eomScan_logs
  · intro h m₁ errors ht hscan
    have hm₁ := hm.scanned ht hscan.startsEnabled
    apply wp_logResult_notes
    · rintro m₂ ⟨er, n, hmem⟩ htrace
      refine ⟨by rw [hmem, ht.mem], .inl ⟨rfl, ?_⟩⟩
      rw [htrace]
      exact hm₁.outside (hstore _)
    · rintro m₂ text hpre ⟨er, n, hmem⟩ htrace
      refine ⟨by rw [hmem, ht.mem], .inr ⟨by decide, ?_⟩⟩
      have hsent : sentOf m₂.trace = sentOf m₁.trace := by
        rw [htrace, sentOf_append, sentOf_append]
        exact (List.append_nil _).trans (List.append_nil _)
      constructor
      · rw [CleanedUp, hsent]
        exact hscan.startsEnabled.not_cleanedUp ht
      · refine .inr ⟨text, hpre, ?_⟩
        rw [htrace, notesOf_append]
        exact List.mem_append_right _ List.mem_cons_self
    · exact fun _ _ _ => trivial
  · intro h m₁ ht hscan
    refine ⟨by rw [ht.mem], .inr ⟨by decide, ?_⟩⟩
    exact ⟨hscan.startsEnabled.not_cleanedUp ht,
      .inl (hscan.callRefused ht.sent)⟩
  · exact fun _ _ _ _ _ _ => trivial

/-- The end of a loop body: on with the lane enabled, or out. -/
def LaneStep (lane : Side × Int) (out : Option Int)
    (m : Machine EomGlobals) : Prop :=
  match out with
  | some _ => Verdict m.trace
  | none => m.mem.eomData.localPeer = lane.1 ∧ Enabled lane m.trace

/-- A point that fails leaves its lane abandoned. -/
theorem wp_scanPoint_enabled
    (hm : m.mem.eomData.localPeer = peer ∧ Enabled (peer, lane) m.trace) :
    wp (scanPoint lane timing volt) (LaneStep (peer, lane))
      (fun _ _ => True) m := by
  obtain ⟨hpeer, henabled⟩ := hm
  rw [scanPoint, wp_bind, wp_get, hpeer, wp_bind]
  apply wp_imp (wp_eomScan_enabled henabled)
  rintro ret m₁ ⟨hkept, hended⟩
  rcases hended with ⟨rfl, hnext⟩ | ⟨hret, habandoned⟩
  · simp only [success, ne_eq, not_true_eq_false, if_false, wp_pure]
    exact ⟨hkept.trans hpeer, hnext⟩
  · have hfailed : ret ≠ 0 := hret
    simp only [if_pos hfailed, wp_bind, wp_note, wp_pure]
    exact habandoned.verdict

/-- The voltage loop enables its lane only. -/
theorem wp_scanTiming_enabled
    (hm : m.mem.eomData.localPeer = peer ∧ Enabled (peer, lane) m.trace) :
    wp (scanTiming lane timing) (LaneStep (peer, lane)) (fun _ _ => True)
      m := by
  rw [scanTiming, wp_bind, wp_get, forUpTo]
  apply wp_forCount_invariant (fun m => m.mem.eomData.localPeer = peer ∧
    Enabled (peer, lane) m.trace)
  · intro volt m₁ hm₁
    apply wp_imp (wp_scanPoint_enabled hm₁)
    rintro (_ | ret) m₂ hstep <;> exact hstep
  · exact fun _ hm₁ => hm₁
  · exact fun _ _ => trivial
  · exact hm

/-- A lane is done when its eye monitor is disabled. -/
def LanesStep (peer : Side) (out : Option Int) (m : Machine EomGlobals) :
    Prop :=
  match out with
  | some _ => Verdict m.trace
  | none => m.mem.eomData.localPeer = peer ∧ Clean m.trace

/-- The command behind the timing loop makes the trace clean again. -/
theorem wp_disableEyeMonitor_clean
    (hm : m.mem.eomData.localPeer = peer ∧ Enabled (peer, lane) m.trace) :
    wp (disableEyeMonitor lane) (LanesStep peer) (fun _ _ => True) m := by
  obtain ⟨hpeer, henabled⟩ := hm
  simp only [disableEyeMonitor, uicSet_eq_exchange, wp_bind, wp_get, hpeer]
  apply wp_exchange
  · exact fun _ => trivial
  · intro r rest hreplies
    have ht := Talks.of_command m.mem.bsgFd (uicSetCommand (uicArgMibSel
      rxEyemonEnable (selectRx lane)) attrSetNor 0 peer) hreplies
    have hclean := henabled.disabled ht
    split_ifs
    · rw [wp_bind, wp_note, wp_pure]
      exact .inl (hclean.outside (by simp [Outside, scanFailed, prErr, lit]))
    · rw [wp_pure]
      exact ⟨hpeer, hclean⟩

/-- From a clean trace to a clean one, or to an abandoned lane. -/
theorem wp_scanLane_clean
    (hm : m.mem.eomData.localPeer = peer ∧ Clean m.trace) :
    wp (scanLane lane) (LanesStep peer) (fun _ _ => True) m := by
  rw [scanLane, wp_bind, wp_get, wp_bind, forUpTo]
  apply wp_forCount_invariant (fun m => m.mem.eomData.localPeer = peer ∧
    Enabled (peer, lane) m.trace)
  · intro timing m₁ hm₁
    apply wp_imp (wp_scanTiming_enabled hm₁)
    rintro (_ | ret) m₂ hstep
    · exact hstep
    · dsimp only
      rw [wp_pure]
      exact hstep
  · exact fun _ hm₁ => wp_disableEyeMonitor_clean hm₁
  · exact fun _ _ => trivial
  · exact ⟨hm.1, hm.2.enabled _⟩

/-- The same for the loop over the lanes. -/
theorem wp_scanLanes_clean (hm : Clean m.trace) :
    wp scanLanes (LanesStep m.mem.eomData.localPeer) (fun _ _ => True) m := by
  rw [scanLanes, wp_bind, wp_get]
  apply wp_forCount_invariant (fun m₁ =>
    m₁.mem.eomData.localPeer = m.mem.eomData.localPeer ∧ Clean m₁.trace)
  · intro lane m₁ hm₁
    apply wp_imp (wp_scanLane_clean hm₁)
    rintro (_ | ret) m₂ hstep <;> exact hstep
  · exact fun _ hm₁ => hm₁
  · exact fun _ _ => trivial
  · exact ⟨rfl, hm⟩

/-! The rest of `main`. -/

/-- Steps that write to no register and end no scan. -/
theorem Clean.later {trace trace' : Trace}
    {later : List (UfsBsgRequest × SysReply)} {entries : List Note}
    (hclean : Clean trace)
    (hhistory : exchangesOf trace' = exchangesOf trace ++ later)
    (hplain : ∀ request ∈ later.map Prod.fst, Plain request)
    (hnotes : notesOf trace' = notesOf trace ++ entries)
    (hentries : scanFailed ∉ entries) : Clean trace' := by
  constructor
  · rw [CleanedUp, sentOf_of_history hhistory]
    apply (discharged_append_iff ?_ ?_).mpr hclean.cleanedUp
    · exact fun lane hmem => hplain _ hmem 1 lane rfl
    · exact fun lane hmem => hplain _ hmem 0 lane rfl
  · rw [hnotes, List.mem_append, not_or]
    exact ⟨hclean.running, hentries⟩

/-- Reading registers enables nothing. -/
theorem Asks.clean (hasks : Asks m m' h) (hclean : Clean m.trace) :
    Clean m'.trace := by
  obtain ⟨entries, hnotes, hdiscreet⟩ := hasks.leaves.notes
  apply hclean.later hasks.history _ hnotes
  · exact fun hmem => ne_scanFailed_of_discreet (hdiscreet _ hmem) rfl
  · rw [requestsOf_fst]
    exact hasks.gets.plain

/-- Queries enable nothing. -/
theorem Queries.clean (hqueries : Queries tame m m')
    (hclean : Clean m.trace) : Clean m'.trace := by
  obtain ⟨entries, hnotes, htame⟩ := hqueries.leaves.notes
  obtain ⟨queries, hhistory, hsent⟩ := hqueries.history
  apply hclean.later hhistory _ hnotes
  · exact fun hmem => of_decide_eq_true (htame _ hmem) rfl
  · intro request hmem
    obtain ⟨x, hx, rfl⟩ := List.mem_map.mp hmem
    obtain ⟨op, length, hquery⟩ := hsent x hx
    rw [hquery]
    exact plain_query op length

theorem Clean.verdict {trace : Trace} (hclean : Clean trace) :
    Verdict trace := .inl hclean

/-- The loops decide; neither the allocation nor the report sends a UIC command.
-/
theorem wp_scanAndReport_clean {file : Text} (hclean : Clean m.trace) :
    wp (scanAndReport file) (fun _ m' => Verdict m'.trace)
      (fun _ _ => True) m := by
  apply wp_scanAndReport_swept (I := fun _ m' => Clean m'.trace) []
  · exact fun m' hasks => (hasks.clean hclean).verdict
  · exact fun _ _ => trivial
  · exact fun _ => trivial
  · intro m' hasks _ _
    apply wp_imp (wp_scanLanes_clean (hasks.clean hclean))
    rintro (_ | ret) m'' hstep
    · exact hstep.2
    · exact hstep
  · intro m' m'' hm' hqueries
    exact ⟨fun _ => (hqueries.clean hm').verdict, fun _ => trivial⟩

/-- The checks before the loops start from a clean trace and keep it. -/
theorem wp_checkLink_clean (hclean : Clean m.trace) :
    wp checkLink (fun _ m' => Verdict m'.trace) (fun _ _ => True) m := by
  apply wp_checkLink_checked
  · exact fun h m' hasks => (hasks.clean hclean).verdict
  · exact fun _ _ _ => trivial
  · intro file h m' hasks _
    apply wp_imp (wp_scanAndReport_clean (hasks.clean hclean))
    exact fun ret m'' hverdict => hverdict.outside nofun

/-- A program that has sent nothing has enabled nothing. -/
theorem Started.clean {m : Machine EomGlobals} (hm : Started m) :
    Clean m.trace := by
  constructor
  · rw [CleanedUp, sentOf, hm.silent]
    exact discharged_nil
  · intro hmem
    exact ne_scanFailed_of_discreet (hm.discreet _ hmem) rfl

/-- The verdict tells cleaned up from not by the message on a failed scan. -/
theorem Verdict.cleanedUp_iff {trace : Trace} (hverdict : Verdict trace) :
    CleanedUp trace ↔ scanFailed ∉ notesOf trace := by
  rcases hverdict with hclean | ⟨habandoned, hmem⟩
  · exact iff_of_true hclean.cleanedUp hclean.running
  · exact iff_of_false habandoned.enabled (not_not_intro hmem)

/-- The results have room, so only a refused call makes a scan fail. -/
theorem Verdict.cleanedUp {m : Machine EomGlobals}
    (hverdict : Verdict m.trace) (hsafe : SafeStores m)
    (hrefused : ¬ ScanCallRefused m.trace) : CleanedUp m.trace := by
  rcases hverdict with hclean | ⟨habandoned, -⟩
  · exact hclean.cleanedUp
  · rcases habandoned.fails with hcall | ⟨text, hpre, hmem⟩
    · exact absurd hcall hrefused
    · exact absurd hpre (hsafe.room text hmem)

/-- Every run of `main`, on any arguments and replies. -/
theorem ufseomMain_verdict (argv : List Text) (replies : List SysReply) :
    wp (ufseomMain argv) (fun _ m => Verdict m.trace ∧ SafeStores m)
      (fun _ _ => True) (powerOn replies ({} : EomGlobals)) := by
  apply wp_ufseomMain
  · intro m hm
    refine ⟨hm.clean.verdict, ?_⟩
    exact SafeStores.of_quiet fun n hn => quiet_of_discreet (hm.discreet n hn)
  · exact fun _ _ _ => trivial
  · intro m g entries hs hp _ _
    apply wp_mono (wp_and (wp_checkLink_clean hs.clean) (wp_checkLink hp))
    · rintro ret m' ⟨hverdict, hreturned⟩
      have hclosed : Outside (.note (.close m.mem.bsgFd)) := nofun
      have hsteady : Steady m' { m' with
          trace := m'.trace ++ [.note (.close m.mem.bsgFd)] } :=
        Steady.of_note rfl
      exact ⟨hverdict.outside hclosed, hreturned.safe.steady hsteady⟩
    · exact fun _ _ _ => trivial

/-- A run of ufseom that returns has disabled every eye monitor it enabled if
and only if it did not take the exit behind a failed `eom_scan`.  It does not
take that exit as long as none of the calls of `eom_scan` is refused. -/
theorem ufseom_cleans_up_iff (argv : List Text) (replies : List SysReply) :
    wp (ufseomMain argv) (fun _ m =>
        (CleanedUp m.trace ↔ scanFailed ∉ notesOf m.trace) ∧
          (¬ ScanCallRefused m.trace → CleanedUp m.trace))
      (fun _ _ => True) (powerOn replies ({} : EomGlobals)) := by
  apply wp_imp (ufseomMain_verdict argv replies)
  rintro ret m ⟨hverdict, hsafe⟩
  exact ⟨hverdict.cleanedUp_iff, hverdict.cleanedUp hsafe⟩

/-- A device that takes RX_EYEMON_ENABLE=1 and refuses the set behind it. -/
def refusedTimingReplies : List SysReply :=
  [{ ret := 3 }, registerReply 1, registerReply 4, registerReply 1,
    registerReply 1, registerReply 0, registerReply 1, registerReply 0,
    { ret := 1 }, { ret := 0 }, registerReply 0, { ret := -1 }]

def localLine : List Text :=
  [lit "ufseom", lit "-l", lit "-o", lit "/data/", lit "-d",
    lit "/dev/ufs-bsg0"]

/-- `main` returns and leaves the eye monitor of lane 0 enabled. -/
theorem refused_set_leaves_eye_monitor_enabled :
    ¬ ∀ (argv : List Text) (replies : List SysReply),
      wp (ufseomMain argv) (fun _ m => CleanedUp m.trace)
        (fun _ _ => True) (powerOn replies ({} : EomGlobals)) := by
  intro h
  have hrun : (ufseomMain localLine (powerOn refusedTimingReplies {})).value? =
      some error := by decide +kernel
  have hdone := Result.eq_done hrun
  have hcleaned := wp_done (h localLine refusedTimingReplies) hdone
  have hfailed : scanFailed ∈ notesOf (ufseomMain localLine
      (powerOn refusedTimingReplies {})).machine.trace := by decide +kernel
  have hverdict := wp_done (ufseomMain_verdict localLine refusedTimingReplies)
    hdone
  exact hverdict.1.cleanedUp_iff.mp hcleaned hfailed

end UfsTools
