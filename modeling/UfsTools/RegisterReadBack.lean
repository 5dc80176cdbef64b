/-
The read of a register through lsufs: the number the script finds in all that
lsufs prints is the one the device answered with.
-/
import UfsTools.LsufsDispatch
import UfsTools.StringDescriptors
import UfsTools.UicOutcome

namespace UfsTools

open CLib PyText Process

/-! What may stand in front of the value. -/

/-- Text that the value can follow: it holds no match, and none begins in it. -/
structure Lead (text : Text) : Prop where
  plain : '=' ∉ text
  closed : text.getLast? ≠ some ' '

instance (text : Text) : Decidable (Lead text) :=
  decidable_of_iff ('=' ∉ text ∧ text.getLast? ≠ some ' ')
    ⟨fun h => ⟨h.1, h.2⟩, fun h => ⟨h.plain, h.closed⟩⟩

theorem Lead.avoids {text : Text} (h : Lead text) :
    Avoids (lit " = 0x") text :=
  avoids_of_second_not_mem h.plain h.closed

theorem Lead.append {x y : Text} (hx : '=' ∉ x) (hy : Lead y) (hne : y ≠ []) :
    Lead (x ++ y) := by
  constructor
  · rw [List.mem_append, not_or]
    exact ⟨hx, hy.plain⟩
  · rw [List.getLast?_append_of_ne_nil _ hne]
    exact hy.closed

theorem forall_entry_lead {id : UInt32} {name : List Char}
    {rest : List UfsCharacteristics} (hname : Lead name ∧ name ≠ [])
    (hrest : ∀ attr ∈ rest, Lead attr.name ∧ attr.name ≠ []) :
    ∀ attr ∈ entry id (String.ofList name) :: rest,
      Lead attr.name ∧ attr.name ≠ [] := by
  rw [List.forall_mem_cons, entry, lit_ofList]
  exact ⟨hname, hrest⟩

theorem uniproMphyAttrs_lead :
    ∀ attr ∈ uniproMphyAttrs, Lead attr.name ∧ attr.name ≠ [] := by
  rw [uniproMphyAttrs]
  -- one step for each entry of the table
  repeat' apply forall_entry_lead (by decide +kernel)
  exact List.forall_mem_nil _

theorem characteristicsLookUp_lt {table : List UfsCharacteristics}
    {id : UInt32} (h : ¬ characteristicsLookUp table id < 0) :
    (characteristicsLookUp table id).toNat < table.length := by
  rw [characteristicsLookUp] at h ⊢
  split at h
  · exact absurd (by decide) h
  · next i hfind =>
      rw [Int.toNat_natCast]
      exact (List.findIdx?_eq_some_iff_findIdx_eq.mp hfind).1

theorem attrName_lead (uop : UicOperation) :
    Lead uop.attrName ∧ uop.attrName ≠ [] := by
  rw [UicOperation.attrName, characteristicsName]
  split_ifs with hunknown
  · decide
  · have hlt := characteristicsLookUp_lt hunknown
    rw [List.getElem?_eq_getElem hlt]
    exact uniproMphyAttrs_lead _ (List.getElem_mem hlt)

/-- The line in front of the value. -/
def valueLead (uop : UicOperation) : Text :=
  sideName uop.localPeer ++ lit " Attribute ID 0x" ++ uop.attrIdHex ++
    lit " - " ++ uop.attrName

theorem valueLead_lead (uop : UicOperation) : Lead (valueLead uop) := by
  obtain ⟨hname, hne⟩ := attrName_lead uop
  have hside : '=' ∉ sideName uop.localPeer := by
    cases uop.localPeer with
    | none => decide
    | some side => cases side <;> decide
  have hdigits : '=' ∉ uop.attrIdHex := by
    intro hmem
    exact absurd (isAlnum_of_mem_showHex hmem) (by decide)
  apply Lead.append _ hname hne
  simp [hside, hdigits, lit]

/-- The messages about defaults have no equals sign. -/
theorem uicOpSanityCheck_plain {op₀ op : LsufsOperation} {entries : List Note}
    (h : uicOpSanityCheck op₀ = .ok (op, entries)) :
    '=' ∉ stdoutOf entries := by
  simp only [uicOpSanityCheck, reject] at h
  -- each of the three messages is printed or not
  split_ifs at h
  all_goals
    obtain ⟨-, rfl⟩ := Prod.mk.inj (Except.ok.inj h)
    decide

theorem initOperation_plain {type : OperationType} {argv : List Text}
    {op₀ op : LsufsOperation} {entries : List Note}
    (h : initOperation type argv op₀ = .ok (op, entries)) :
    '=' ∉ stdoutOf entries := by
  cases type with
  | uic =>
      simp only [initOperation] at h
      split at h
      · contradiction
      · next result hinit =>
          obtain rfl := Except.ok.inj h
          simp only [initUicOperation, bind, Except.bind] at hinit
          split at hinit
          · contradiction
          · exact uicOpSanityCheck_plain hinit
  | query =>
      simp only [initOperation] at h
      split at h
      · contradiction
      · obtain ⟨-, rfl⟩ := Prod.mk.inj (Except.ok.inj h)
        simp [stdoutOf]

theorem plain_ofList {l : List Char} (h : '=' ∉ l) :
    '=' ∉ lit (String.ofList l) := by
  rw [lit_ofList]
  exact h

theorem stdoutOf_helpNote_plain {lines : List String}
    (h : ∀ line ∈ lines, '=' ∉ lit line) :
    '=' ∉ stdoutOf [helpNote lines] := by
  simp only [stdoutOf, helpNote, printf, List.flatMap_singleton,
    List.mem_flatMap, not_exists, not_and, List.mem_append, not_or]
  exact fun line hline => ⟨h line hline, by decide⟩

theorem help_plain :
    (∀ line ∈ lsufsHelp, '=' ∉ lit line) ∧
      (∀ line ∈ uicOperationHelp, '=' ∉ lit line) ∧
      ∀ line ∈ queryOperationHelp, '=' ∉ lit line := by
  simp only [lsufsHelp, uicOperationHelp, queryOperationHelp,
    List.forall_mem_cons, lit_append, List.mem_append, not_or]
  repeat' apply And.intro
  all_goals
    first
    | exact List.forall_mem_nil _
    | exact plain_ofList (by decide)

/-- The help texts and the version have none either. -/
theorem lsufsParseArgs_plain {argv : List Text} {op₀ op : LsufsOperation}
    {entries : List Note}
    (h : lsufsParseArgs argv op₀ = .ok (op, entries)) :
    '=' ∉ stdoutOf entries := by
  match argv, h with
  | program :: command :: rest, h =>
      simp only [lsufsParseArgs] at h
      split at h
      · obtain ⟨-, rfl⟩ := Prod.mk.inj (Except.ok.inj h)
        decide
      split at h
      · obtain ⟨-, rfl⟩ := Prod.mk.inj (Except.ok.inj h)
        exact stdoutOf_helpNote_plain help_plain.1
      split at h
      · contradiction
      next name type hfind =>
        split at h
        · obtain ⟨-, rfl⟩ := Prod.mk.inj (Except.ok.inj h)
          cases type with
          | uic => exact stdoutOf_helpNote_plain help_plain.2.1
          | query => exact stdoutOf_helpNote_plain help_plain.2.2
        · exact initOperation_plain h

/-! What lsufs prints behind it. -/

theorem stdoutOf_uicNotes (r : SysReply) : stdoutOf (uicNotes r) = [] := by
  rw [stdoutOf, List.flatMap_eq_nil_iff]
  exact forall_mem_uicNotes (fun _ => rfl) (fun _ => rfl) (fun _ => rfl)

theorem stdoutOf_uicGetNote {uop : UicOperation} {r : SysReply}
    (hfailed : ¬ UicFailed r) (hret : uicStatus r ≠ error) :
    stdoutOf [uicGetNote uop (uicStatus r)] =
      valueLead uop ++ (lit " = 0x" ++
        (showHex (registerValue r).toNat ++ lit "\n")) := by
  have hvalue : uicStatus r = signed (registerValue r) := if_neg hfailed
  rw [uicGetNote, if_neg hret, hvalue, ofInt_signed, stdoutOf_printf,
    valueLead]
  simp only [List.append_assoc]

/-- The value stands behind the first match. -/
theorem search_value {lead : Text} (hlead : Lead lead) (n : Nat) (rest : Text) :
    searchAfter (lit " = 0x") isAlnum
      (lead ++ (lit " = 0x" ++ (showHex n ++ '\n' :: rest))) =
        some (showHex n) := by
  rw [searchAfter_append hlead.avoids]
  apply searchAfter_prefix
  · decide
  · exact Nat.toDigits_ne_nil
  · exact fun c => isAlnum_of_mem_showHex
  · simp
    decide

/-! A whole run. -/

/-- The script gets from everything the run has printed the value that came
back for the register the operation names. -/
structure ValueShown (uop : UicOperation) (m : LsufsMachine) (r : SysReply) :
    Prop where
  sent : exchangesOf m.trace = [(uicRequest uop.sent, r)]
  transferred : ¬ UicFailed r
  found : searchAfter (lit " = 0x") isAlnum (stdoutOf (notesOf m.trace)) =
    some (showHex (registerValue r).toNat)
  returned : ∀ lane index clock rest trace g,
    wp (LsufsCli.uicGet lane index)
      (fun value _ => value = some (registerValue r).toNat) (fun _ _ => False)
      ⟨⟨success, stdoutOf (notesOf m.trace), clock⟩ :: rest, trace, g⟩

/-- What the script makes of the first match. -/
theorem uicGet_found {output : Text} {n : Nat}
    (hfound : searchAfter (lit " = 0x") isAlnum output = some (showHex n))
    (lane : Int) (index : Nat) (clock : Int) (rest : List AdbReply)
    (trace : List (Event AdbCall AdbReply ScriptNote)) (g : EomScript) :
    wp (LsufsCli.uicGet lane index) (fun value _ => value = some n)
      (fun _ _ => False) ⟨⟨success, output, clock⟩ :: rest, trace, g⟩ := by
  have hnumber : registerNumber output = some (some n) := by
    rw [registerNumber, hfound]
    simp [hexNumber_showHex]
  rw [LsufsCli.uicGet, wp_bind, wp_get]
  dsimp only
  rw [wp_bind, checkOutput, wp_bind]
  apply wp_call
  · intro hnone
    contradiction
  · intro r rest' hreplies
    obtain ⟨rfl, -⟩ := List.cons.inj hreplies
    have hstatus : (⟨success, output, clock⟩ : AdbReply).status = 0 := rfl
    rw [if_neg (not_not_intro hstatus), wp_pure]
    dsimp only
    rw [hnumber, wp_pure]

theorem ValueShown.of_text {uop : UicOperation} {m : LsufsMachine}
    {r : SysReply} (before : Text)
    (hsent : exchangesOf m.trace = [(uicRequest uop.sent, r)])
    (hfailed : ¬ UicFailed r) (hbefore : '=' ∉ before)
    (htext : stdoutOf (notesOf m.trace) = before ++ (valueLead uop ++
      (lit " = 0x" ++ (showHex (registerValue r).toNat ++ ['\n'])))) :
    ValueShown uop m r := by
  have hlead : Lead (before ++ valueLead uop) := by
    apply Lead.append hbefore (valueLead_lead uop)
    simp [valueLead, lit]
  have hfound := search_value hlead (registerValue r).toNat []
  rw [List.append_assoc, ← htext] at hfound
  exact ⟨hsent, hfailed, hfound, uicGet_found hfound⟩

/-- A successful read prints its value behind what was printed before. -/
theorem doUicGet_readBack {argv : List Text} {m : LsufsMachine}
    (hstart : Starting argv .uic m)
    (hmode : m.mem.user.op.uicOp.mode = some .get) :
    wp (doUicOperation m.mem.user.op) (fun ret m' => m'.mem = m.mem ∧
        (ret = success → ∃ r, ValueShown m.mem.user.op.uicOp m' r))
      (fun _ _ => True) m := by
  obtain ⟨entries, hargs, hprinted⟩ := hstart.printed
  rw [doUicOperation, wp_bind, sysCall]
  apply wp_exchange
  · exact fun _ => trivial
  intro o rest _
  split_ifs with hopen
  · rw [wp_bind, wp_note, wp_pure]
    exact ⟨rfl, fun hret => absurd hret (by decide)⟩
  simp only [hmode]
  rw [doUicGet_eq_exchange, wp_bind]
  apply wp_exchange
  · exact fun _ => trivial
  intro r rest' _
  rw [wp_bind, wp_note, wp_pure]
  refine ⟨rfl, fun hret => ⟨r, ?_⟩⟩
  have hok := mt (uicSetStatus_ne_success_iff r).mpr (not_not_intro hret)
  rw [not_or] at hok
  have hvalue : uicStatus r ≠ error := by
    rw [ne_eq, uicStatus_eq_error_iff, not_or]
    exact hok
  apply ValueShown.of_text (stdoutOf entries)
  · have hopened : exchangesOf [.call
        (.open m.mem.user.op.devicePath .rdonly) o] = [] := rfl
    have hclosed : exchangesOf [.note (.close o.ret)] = [] := rfl
    simp only [List.map_nil, exchangesOf_append, hstart.silent, hopened,
      uicIoctl, exchangesOf_ioctl, exchangesOf_map_note, hclosed,
      List.nil_append, List.append_nil, UicOperation.sent, hmode, if_true]
    rfl
  · exact hok.1
  · exact lsufsParseArgs_plain hargs
  · have hclose : stdoutOf [.close o.ret] = [] := rfl
    simp only [List.map_nil, notesOf_append, notesOf_call, notesOf_map_note,
      notesOf_note, notesOf_nil, stdoutOf_append, List.append_nil, hprinted,
      stdoutOf_uicNotes, stdoutOf_uicGetNote hok.1 hvalue, hclose,
      List.nil_append]
    rfl

/-- Whatever register a command line names, in full or by default: when the
read succeeds, the script gets from all that lsufs prints the value the device
answered with. -/
theorem register_read_back (argv : List Text) (replies : List SysReply) :
    wp (lsufsMain argv) (fun ret m => ∀ op,
        m.mem.user.invoked = [.uic op] → op.uicOp.mode = some .get →
          ret = success → ∃ r, ValueShown op.uicOp m r)
      (fun _ _ => True) (powerOn replies ({ user := {} } : LsufsGlobals)) := by
  apply wp_lsufsMain
  · exact fun _ _ => trivial
  · exact fun _ _ _ => trivial
  · intro ret m hnothing op hop
    rw [hnothing] at hop
    contradiction
  · intro type m hstart
    cases type with
    | query =>
        apply wp_mono (keepsMem_run .query _ m)
        · intro ret m' hmem last op hop
          have hquery : m'.mem.user.invoked = [.uic op] := hop
          rw [hmem, hstart.invoked] at hquery
          cases hquery
        · exact fun _ _ _ => trivial
    | uic =>
        by_cases hmode : m.mem.user.op.uicOp.mode = some .get
        · apply wp_imp (doUicGet_readBack hstart hmode)
          rintro ret m' ⟨hmem, hread⟩ last op hop - hret
          have huic : m'.mem.user.invoked = [.uic op] := hop
          rw [hmem, hstart.invoked] at huic
          obtain rfl := Invocation.uic.inj (List.singleton_inj.mp huic)
          obtain ⟨r, hr⟩ := hread hret
          exact ⟨r, hr.sent, hr.transferred, hr.found, hr.returned⟩
        · apply wp_mono (keepsMem_run .uic _ m)
          · intro ret m' hmem last op hop hget
            have huic : m'.mem.user.invoked = [.uic op] := hop
            rw [hmem, hstart.invoked] at huic
            obtain rfl := Invocation.uic.inj (List.singleton_inj.mp huic)
            exact absurd hget hmode
          · exact fun _ _ _ => trivial

/-- A register above the range of `int`, read with the three defaults. -/
example : registerNumber (stdoutOf (notesOf (lsufsMain getLine (powerOn
    [{ ret := 1 }, { ret := 3 }, registerReply 0x80000000]
    { user := {} })).machine.trace)) = some (some 0x80000000) := by
  decide +kernel

end UfsTools
