/-
What a UIC command comes to: status and register value share one `int`, which
one family of callers compares with `ERROR` and the other with zero.
-/
import UfsTools.UfsEom

namespace UfsTools

open CLib Process

variable {S : Type}

/-- The line `do_uic_get` prints for a register value. -/
def uicValueNote (uop : UicOperation) (value : UInt32) : Note :=
  printf (sideName uop.localPeer ++ lit " Attribute ID 0x" ++
    uop.attrIdHex ++ lit " - " ++ uop.attrName ++ lit " = 0x" ++
    showHex value.toNat ++ lit "\n")

/-- `do_uic_get` fails when the command does, and prints what was read when it
does not. -/
def GetFaithful (op : LsufsOperation) (r : SysReply) : Prop :=
  wp (doUicGet op) (fun ret m => (ret ≠ success ↔ UicFailed r) ∧
      (ret = success →
        uicValueNote op.uicOp (registerValue r) ∈ notesOf m.trace))
    (fun _ _ => False) (powerOn [r] ())

/-- `do_uic_set` fails, and says so, when the command does. -/
def SetFaithful (op : LsufsOperation) (r : SysReply) : Prop :=
  wp (doUicSet op) (fun ret m => (ret ≠ success ↔ UicFailed r) ∧
      ((∃ text, printf (lit "Failed to" ++ text) ∈ notesOf m.trace) ↔
        UicFailed r))
    (fun _ _ => False) (powerOn [r] ())

/-- `uic_set`, which ufseom calls, fails when the command does. -/
def UicSetFaithful (fd : Int) (attrSel : UInt32) (attrSet : UInt8)
    (mibVal : UInt32) (peer : Side) (r : SysReply) : Prop :=
  wp (uicSet fd attrSel attrSet mibVal peer)
    (fun ret _ => ret ≠ success ↔ UicFailed r)
    (fun _ _ => False) (powerOn [r] ())

/-- The readers of ufseom go on with the register value unless the command
failed; the poll of the UniPro state gives up only then. -/
def ReadFaithful (attrSel : UInt32) (peer : Side) (failed : Int → Text)
    (g : EomGlobals) (r : SysReply) : Prop :=
  wp (readRegister attrSel peer failed error pure) (fun out _ =>
      out = if UicFailed r then error else (registerValue r).toNat)
    (fun _ _ => False) (powerOn [r] g) ∧
  wp pollUniproState (fun out _ =>
      (∃ ret, out = some ret ∧ ret < 0) ↔ UicFailed r)
    (fun _ _ => False) (powerOn [r] g)

theorem uicSetStatus_ne_success_iff (r : SysReply) :
    uicSetStatus r ≠ success ↔
      UicFailed r ∨ (registerValue r).toNat = 0xFFFFFFFE := by
  rw [← uicStatus_eq_error_iff, uicSetStatus]
  split
  · next h => simp [h, error, success]
  · next h => simp [h, success]

/-- A set of `value` went through.  Where the third argument comes back, it is
not mistaken for `ERROR` unless that is what was set. -/
def SetDone (value : UInt32) (r : SysReply) : Prop :=
  ¬ UicFailed r ∧
    ((registerValue r).toNat = 0xFFFFFFFE → value.toNat = 0xFFFFFFFE)

theorem SetDone.status {value : UInt32} {r : SysReply} (h : SetDone value r)
    (hvalue : value.toNat ≠ 0xFFFFFFFE) : uicSetStatus r = success := by
  refine not_not.mp (mt (uicSetStatus_ne_success_iff r).mp ?_)
  rintro (hfailed | herror)
  · exact h.1 hfailed
  · exact hvalue (h.2 herror)

/-- The callers that look for `ERROR` are right about a reply exactly when it
does not carry that very number. -/
theorem uicSetStatus_faithful_iff (r : SysReply) :
    (uicSetStatus r ≠ success ↔ UicFailed r) ↔
      (UicFailed r ∨ (registerValue r).toNat ≠ 0xFFFFFFFE) := by
  rw [uicSetStatus_ne_success_iff]
  by_cases hfailed : UicFailed r
  · simp only [hfailed, true_or]
  · simp only [hfailed, false_or, iff_false, ne_eq]

theorem getFaithful_iff (op : LsufsOperation) (r : SysReply) :
    GetFaithful op r ↔
      (UicFailed r ∨ (registerValue r).toNat ≠ 0xFFFFFFFE) := by
  rw [← uicSetStatus_faithful_iff]
  simp only [GetFaithful, wp, powerOn, doUicGet_eq_exchange, exchange_run]
  refine and_iff_left_of_imp fun hstatus hsuccess => ?_
  have hfailed : ¬ UicFailed r := fun h => hstatus.mpr h hsuccess
  have hvalue : uicStatus r = signed (registerValue r) := if_neg hfailed
  have hne : uicStatus r ≠ error := by
    intro herror
    rw [uicSetStatus, if_pos herror, herror] at hsuccess
    contradiction
  have hnote : uicGetNote op.uicOp (uicStatus r) =
      uicValueNote op.uicOp (registerValue r) := by
    rw [uicGetNote, if_neg hne, uicValueNote, hvalue, ofInt_signed]
  simp [hnote]

theorem printf_notMem_uicNotes (r : SysReply) (text : Text) :
    printf text ∉ uicNotes r := by
  intro hmem
  have hnone : ∀ n ∈ uicNotes r, n ≠ printf text :=
    forall_mem_uicNotes (fun _ => nofun) (fun _ => nofun) (fun _ => nofun)
  exact hnone _ hmem rfl

theorem failedTo_eq_uicSetNote_iff (uop : UicOperation) (ret : Int) :
    (∃ text, printf (lit "Failed to" ++ text) = uicSetNote uop ret) ↔
      ret = error := by
  constructor
  · rintro ⟨text, htext⟩
    by_contra hne
    simp only [uicSetNote, if_neg hne, printf, Note.print.injEq, true_and,
      List.append_assoc] at htext
    have hhead : some 'F' = some 'S' := congrArg List.head? htext
    contradiction
  · intro heq
    simp only [uicSetNote, if_pos heq, List.append_assoc]
    exact ⟨_, rfl⟩

theorem setFaithful_iff (op : LsufsOperation) (r : SysReply) :
    SetFaithful op r ↔
      (UicFailed r ∨ (registerValue r).toNat ≠ 0xFFFFFFFE) := by
  rw [← uicSetStatus_faithful_iff]
  simp only [SetFaithful, wp, powerOn, doUicSet_eq_exchange, exchange_run]
  refine and_iff_left_of_imp fun hstatus => ?_
  have hnotes : notesOf ([] ++ .call (uicIoctl op.fd (uicSetCommand
      op.uicOp.attrSel attrSetNor op.uicOp.data op.uicOp.side)) r ::
      (uicNotes r ++ [uicSetNote op.uicOp (uicStatus r)]).map .note) =
      uicNotes r ++ [uicSetNote op.uicOp (uicStatus r)] := by
    simp
  simp only [hnotes, List.mem_append, printf_notMem_uicNotes, false_or,
    List.mem_singleton, failedTo_eq_uicSetNote_iff]
  rw [← hstatus, uicSetStatus_ne_success_iff, uicStatus_eq_error_iff]

theorem uicSetFaithful_iff (fd : Int) (attrSel : UInt32) (attrSet : UInt8)
    (mibVal : UInt32) (peer : Side) (r : SysReply) :
    UicSetFaithful fd attrSel attrSet mibVal peer r ↔
      (UicFailed r ∨ (registerValue r).toNat ≠ 0xFFFFFFFE) := by
  rw [← uicSetStatus_faithful_iff]
  simp only [UicSetFaithful, wp, powerOn, uicSet_eq_exchange, exchange_run]

theorem readRegister_result (attrSel : UInt32) (peer : Side)
    (failed : Int → Text) (g : EomGlobals) (r : SysReply) :
    wp (readRegister attrSel peer failed error pure) (fun out _ =>
        out = if uicStatus r < 0 then error else uicStatus r)
      (fun _ _ => False) (powerOn [r] g) := by
  simp only [readRegister, uicGet_eq_exchange, wp_bind, wp_get]
  refine wp_exchange _ _ (by simp [powerOn]) ?_
  rintro r' rest hreplies
  obtain ⟨rfl, rfl⟩ := List.cons.inj hreplies
  by_cases hneg : uicStatus r < 0
  · simp [hneg, wp_bind]
  · simp [hneg]

theorem pollUniproState_result (g : EomGlobals) (r : SysReply) :
    wp pollUniproState (fun out _ =>
        (∃ ret, out = some ret ∧ ret < 0) ↔ uicStatus r < 0)
      (fun _ _ => False) (powerOn [r] g) := by
  simp only [pollUniproState, uicGet_eq_exchange, wp_bind, wp_get]
  refine wp_exchange _ _ (by simp [powerOn]) ?_
  rintro r' rest hreplies
  obtain ⟨rfl, rfl⟩ := List.cons.inj hreplies
  rw [wp_pure]
  split_ifs with hneg hup
  · simp [hneg]
  · simp
  · simp [hneg]

theorem readFaithful_iff (attrSel : UInt32) (peer : Side)
    (failed : Int → Text) (g : EomGlobals) (r : SysReply) :
    ReadFaithful attrSel peer failed g r ↔
      (UicFailed r ∨ (registerValue r).toNat < 0x80000000) := by
  have hnonneg := uicStatus_nonneg_iff r
  obtain ⟨out, m, hrun, hout⟩ :=
    wp_returns (readRegister_result attrSel peer failed g r)
  obtain ⟨out', m', hrun', hout'⟩ := wp_returns (pollUniproState_result g r)
  simp only [ReadFaithful, wp, hrun, hrun', hout, hout']
  by_cases hfailed : UicFailed r
  · have hneg : uicStatus r < 0 := by
      rw [uicStatus, if_pos hfailed]
      decide
    simp [hfailed, hneg]
  · by_cases hlt : (registerValue r).toNat < 0x80000000
    · have hpos : ¬ uicStatus r < 0 := not_lt.mpr (hnonneg.mpr ⟨hfailed, hlt⟩)
      simp only [hfailed, hlt, hpos, if_false, or_true, iff_true, iff_self,
        and_true]
      exact uicStatus_of_lt hfailed hlt
    · have hneg : uicStatus r < 0 := by
        by_contra hpos
        exact hlt (hnonneg.mp (not_lt.mp hpos)).2
      simp [hfailed, hlt, hneg]

/-- Every outcome is reported as it is when the register value is below 2^31,
or the command failed.  `lsufs uic` and `uic_set` alone are right about every
value but the number of `ERROR`. -/
theorem uic_outcome_faithful_iff (op : LsufsOperation) (fd : Int)
    (attrSel : UInt32) (attrSet : UInt8) (mibVal : UInt32) (peer : Side)
    (failed : Int → Text) (g : EomGlobals) (r : SysReply) :
    ((GetFaithful op r ∧ SetFaithful op r ∧
        UicSetFaithful fd attrSel attrSet mibVal peer r) ↔
      (UicFailed r ∨ (registerValue r).toNat ≠ 0xFFFFFFFE)) ∧
    ((GetFaithful op r ∧ SetFaithful op r ∧
        UicSetFaithful fd attrSel attrSet mibVal peer r ∧
        ReadFaithful attrSel peer failed g r) ↔
      (UicFailed r ∨ (registerValue r).toNat < 0x80000000)) := by
  rw [getFaithful_iff, setFaithful_iff, uicSetFaithful_iff, readFaithful_iff]
  refine ⟨by simp only [and_self], ?_⟩
  simp only [← or_and_left]
  apply or_congr_right
  omega

/-- Two register values that are read without an error: one `lsufs uic` calls
a failure, as `uic_set` does, the other ufseom. -/
theorem register_values_mistaken :
    (¬ UicFailed (registerReply 0xFFFFFFFE) ∧
      ¬ GetFaithful {} (registerReply 0xFFFFFFFE) ∧
      ¬ SetFaithful {} (registerReply 0xFFFFFFFE)) ∧
    (¬ UicFailed (registerReply 0x80000000) ∧
      ¬ ReadFaithful 0 .localSide (fun _ => []) {}
        (registerReply 0x80000000)) := by
  rw [getFaithful_iff, setFaithful_iff, readFaithful_iff]
  decide +kernel

end UfsTools
