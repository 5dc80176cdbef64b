/-
From an accepted `lsufs uic` command line to the UIC command it sends: the
attribute ID and the selector share one word, and the Tx and Rx lanes share
one selector space.
-/
import UfsTools.QueryRequest

namespace UfsTools

open CLib Getopt ByteCodec Process

variable {S : Type}

/-! What the option parser accepts. -/

structure UicOperandsGiven (uop : UicOperation) : Prop where
  attrId : GivenOrInit uop.attrId
  lane : GivenOrInit uop.lane
  data : uop.data = UInt32.ofInt init ∨ uop.data.toNat < 0x80000000

theorem toNat_ofInt_lt {x : Int} (hlo : 0 ≤ x) (hhi : x ≤ intMax) :
    (UInt32.ofInt x).toNat < 0x80000000 := by
  have hmax : intMax = 2147483647 := rfl
  simp only [UInt32.ofInt, UInt32.toNat_ofNat']
  omega

theorem setupUicOption_given (op : LsufsOperation) (o : Occurrence)
    (op' : LsufsOperation) (hop : UicOperandsGiven op.uicOp)
    (h : setupUicOption op o = .ok op') : UicOperandsGiven op'.uicOp := by
  simp only [setupUicOption] at h
  split at h
  · obtain rfl := Except.ok.inj h
    exact { hop with }
  · obtain ⟨data, hlo, hhi, rfl⟩ := initValue_ok h
    exact { hop with data := .inr (toNat_ofInt_lt hlo hhi) }
  · obtain ⟨id, hlo, hhi, rfl⟩ := initValue_ok h
    exact { hop with attrId := .inr ⟨hlo, hhi⟩ }
  · obtain rfl := Except.ok.inj h
    exact { hop with }
  · obtain rfl := Except.ok.inj h
    exact { hop with }
  · obtain rfl := Except.ok.inj h
    exact { hop with }
  · obtain rfl := Except.ok.inj h
    exact { hop with }
  · obtain ⟨lane, hlo, hhi, rfl⟩ := initValue_ok h
    exact { hop with lane := .inr ⟨hlo, hhi⟩ }
  · obtain ⟨path, rfl⟩ := initOperationPath_ok h
    exact hop
  · contradiction

theorem setupUicOperation_given {argv : List Text} {op op' : LsufsOperation}
    (hop : UicOperandsGiven op.uicOp)
    (h : setupUicOperation argv op = .ok op') : UicOperandsGiven op'.uicOp := by
  simp only [setupUicOperation] at h
  split at h
  · contradiction
  · exact optionLoop_preserves setupUicOption_given hop h

/-- The operation of an accepted command line: every choice is made, and the
two numbers are bounded from below only. -/
structure UicAccepted (uop : UicOperation) : Prop where
  mode : uop.mode ≠ none
  side : uop.localPeer ≠ none
  dir : uop.dir ≠ none
  attrId : 0 ≤ uop.attrId
  lane : 0 ≤ uop.lane
  data : uop.mode = some .set → uop.data.toNat < 0x80000000

theorem initUicOperation_accepted {argv : List Text} {op₀ op : LsufsOperation}
    {notes : List Note} (h : initUicOperation argv op₀ = .ok (op, notes)) :
    UicAccepted op.uicOp := by
  obtain ⟨op', hsetup, hcheck⟩ : ∃ op',
      setupUicOperation argv { op₀ with uicOp := {}, devicePath := [] } =
        .ok op' ∧ uicOpSanityCheck op' = .ok (op, notes) := by
    simp only [initUicOperation, bind, Except.bind] at h
    split at h
    · contradiction
    · next op' hsetup => exact ⟨op', hsetup, h⟩
  have hgiven := setupUicOperation_given (by constructor <;> exact .inl rfl)
    hsetup
  simp only [uicOpSanityCheck, reject] at hcheck
  split at hcheck
  · contradiction
  split at hcheck
  · contradiction
  next hattr =>
  split at hcheck
  · contradiction
  next hmode =>
  split at hcheck
  · contradiction
  next hdata =>
  obtain ⟨rfl, -⟩ := Prod.mk.inj (Except.ok.inj hcheck)
  constructor
  · exact hmode
  · simp
  · simp
  · exact (hgiven.attrId.resolve_left hattr).1
  · show 0 ≤ if op'.uicOp.lane = init then 0 else op'.uicOp.lane
    split_ifs with hlane
    · exact le_rfl
    · exact (hgiven.lane.resolve_left hlane).1
  · intro hset
    exact hgiven.data.resolve_left fun hinit => hdata ⟨hset, hinit⟩

/-! What the command decodes to. -/

/-- `enum uic_cmds` by mode and side. -/
def uicCommandCode : Option UicMode → Option Side → UInt32
  | some .get, some .localSide => 0x01
  | some .set, some .localSide => 0x02
  | some .get, some .peerSide => 0x03
  | some .set, some .peerSide => 0x04
  | _, _ => 0

/-- The selector of a lane: Tx lanes from 0 on, Rx lanes from 4 on. -/
def laneSelector (uop : UicOperation) : Int :=
  if uop.dir = some .tx then uop.lane else uop.lane + 4

structure CommandFaithful (uop : UicOperation) (cmd : UicCommand) : Prop where
  attrId : ((cmd.argument1.toNat / 65536 : Nat) : Int) = uop.attrId
  selector : ((cmd.argument1.toNat % 65536 : Nat) : Int) = laneSelector uop
  command : cmd.command = uicCommandCode uop.mode uop.localPeer
  data : uop.mode = some .set → cmd.argument3 = uop.data

/-- The attribute ID and the selector fit their half of the word. -/
structure FitsHalves (uop : UicOperation) : Prop where
  attrId : uop.attrId ≤ 0xFFFF
  txLane : uop.dir = some .tx → uop.lane ≤ 0xFFFF
  rxLane : uop.dir = some .rx → uop.lane ≤ 0xFFFB

/-- A Tx lane that shares its selector with an Rx lane of the attribute. -/
def LanesCollide (left right : UicOperation) : Prop :=
  left.attrId = right.attrId ∧
    (left.dir = some .tx ∧ right.dir = some .rx ∧
        left.lane = right.lane + 4 ∨
      left.dir = some .rx ∧ right.dir = some .tx ∧
        right.lane = left.lane + 4)

theorem toNat_low16 (x : Int) :
    ((UInt32.ofInt x &&& 0xFFFF).toNat : Int) = x % 65536 := by
  have hmask : (0xFFFF : UInt32).toNat = 2 ^ 16 - 1 := rfl
  rw [UInt32.toNat_and, hmask, Nat.and_two_pow_sub_one_eq_mod]
  simp only [UInt32.ofInt, UInt32.toNat_ofNat']
  omega

theorem toNat_uicArgMibSel (attr sel : Int) :
    ((uicArgMibSel attr sel).toNat : Int) =
      attr % 65536 * 65536 + sel % 65536 := by
  have hattr := toNat_low16 attr
  have hsel := toNat_low16 sel
  have hlt : (UInt32.ofInt sel &&& 0xFFFF).toNat < 2 ^ 16 := by omega
  have hfit : (UInt32.ofInt attr &&& 0xFFFF).toNat <<< 16 < 2 ^ 32 := by
    rw [Nat.shiftLeft_eq]
    omega
  have hshift : (16 : UInt32).toNat % 32 = 16 := rfl
  rw [uicArgMibSel, UInt32.toNat_or, UInt32.toNat_shiftLeft, hshift,
    Nat.mod_eq_of_lt hfit, ← Nat.shiftLeft_add_eq_or_of_lt hlt,
    Nat.shiftLeft_eq]
  omega

theorem uicArgMibSel_ne {attr attr' : Int} (sel sel' : Int)
    (h : attr % 65536 ≠ attr' % 65536) :
    uicArgMibSel attr sel ≠ uicArgMibSel attr' sel' := by
  intro heq
  have hleft := toNat_uicArgMibSel attr sel
  rw [heq, toNat_uicArgMibSel] at hleft
  omega

/-- The command of an operation whose choices are made. -/
def UicOperation.sent (uop : UicOperation) : UicCommand :=
  if uop.mode = some .get then uicGetCommand uop.attrSel uop.side
  else uicSetCommand uop.attrSel attrSetNor uop.data uop.side

theorem sent_argument1 (uop : UicOperation) :
    uop.sent.argument1 = uicArgMibSel uop.attrId (laneSelector uop) := by
  have hselector : uop.selector = laneSelector uop := rfl
  rw [UicOperation.sent, ← hselector]
  split_ifs <;> rfl

theorem sent_command {uop : UicOperation} (h : UicAccepted uop) :
    uop.sent.command = uicCommandCode uop.mode uop.localPeer := by
  obtain ⟨mode, hmode⟩ := Option.ne_none_iff_exists'.mp h.mode
  obtain ⟨side, hside⟩ := Option.ne_none_iff_exists'.mp h.side
  simp only [UicOperation.sent, UicOperation.side, hmode, hside]
  cases mode <;> cases side <;> rfl

theorem laneSelector_nonneg {uop : UicOperation} (h : UicAccepted uop) :
    0 ≤ laneSelector uop := by
  have hlane := h.lane
  rw [laneSelector]
  split_ifs <;> omega

theorem laneSelector_le_iff {uop : UicOperation} (h : UicAccepted uop) :
    laneSelector uop ≤ 0xFFFF ↔
      (uop.dir = some .tx → uop.lane ≤ 0xFFFF) ∧
        (uop.dir = some .rx → uop.lane ≤ 0xFFFB) := by
  obtain ⟨dir, hdir⟩ := Option.ne_none_iff_exists'.mp h.dir
  rw [laneSelector, hdir]
  cases dir with
  | tx => simp
  | rx =>
      simp
      omega

/-- The command says what was asked for when neither half loses a bit. -/
theorem sent_faithful_iff {uop : UicOperation} (h : UicAccepted uop) :
    CommandFaithful uop uop.sent ↔ FitsHalves uop := by
  have hword := toNat_uicArgMibSel uop.attrId (laneSelector uop)
  rw [← sent_argument1] at hword
  have hattr := h.attrId
  have hselector := laneSelector_nonneg h
  constructor
  · intro hfaithful
    have hhigh := hfaithful.attrId
    have hlow := hfaithful.selector
    have hle : laneSelector uop ≤ 0xFFFF := by omega
    obtain ⟨htx, hrx⟩ := (laneSelector_le_iff h).mp hle
    exact ⟨by omega, htx, hrx⟩
  · rintro ⟨hfit, htx, hrx⟩
    have hle := (laneSelector_le_iff h).mpr ⟨htx, hrx⟩
    refine ⟨by omega, by omega, sent_command h, ?_⟩
    intro hset
    simp [UicOperation.sent, hset, uicSetCommand]

/-! The run: which command a command line leads to. -/

/-- The requests `lsufs uic` hands to `ufs_bsg_io`. -/
def uicRequestsSent (op : LsufsOperation) (replies : List SysReply) :
    List UfsBsgRequest :=
  (exchangesOf (doUicOperation op
    (powerOn replies ())).machine.trace).map Prod.fst

theorem uicRequestsSent_eq {op : LsufsOperation} (hmode : op.uicOp.mode ≠ none)
    (e : Answering) :
    uicRequestsSent op e.replies = [uicRequest op.uicOp.sent] := by
  obtain ⟨mode, hmode⟩ := Option.ne_none_iff_exists'.mp hmode
  have hfd : ¬ e.opened.ret < 0 := not_lt.mpr e.opens
  rw [uicRequestsSent, Answering.replies, powerOn, doUicOperation, sysCall,
    bind_done (exchange_run ..)]
  simp only [if_neg hfd, hmode]
  cases mode with
  | get =>
      simp only [doUicGet_eq_exchange]
      rw [bind_done (exchange_run ..)]
      simp [bind, note, notes, pure, Result.machine, exchangesOf, uicIoctl,
        sgIoRequest, UicOperation.sent, hmode]
  | set =>
      simp only [doUicSet_eq_exchange]
      rw [bind_done (exchange_run ..)]
      simp [bind, note, notes, pure, Result.machine, exchangesOf, uicIoctl,
        sgIoRequest, UicOperation.sent, hmode]

/-- An answered operation sends one command, and it is faithful. -/
def UicSendsFaithfully (op : LsufsOperation) : Prop :=
  ∀ e : Answering, ∃ request, uicRequestsSent op e.replies = [request] ∧
    CommandFaithful op.uicOp (uicCommandOf request.upiuReq)

theorem uicSendsFaithfully_iff {op : LsufsOperation}
    (hop : UicAccepted op.uicOp) :
    UicSendsFaithfully op ↔ FitsHalves op.uicOp := by
  rw [← sent_faithful_iff hop]
  constructor
  · intro hsends
    obtain ⟨request, hrequest, hfaithful⟩ :=
      hsends ⟨{ ret := 3 }, {}, [], by decide⟩
    rw [uicRequestsSent_eq hop.mode] at hrequest
    obtain rfl := List.singleton_inj.mp hrequest
    rwa [uicCommandOf_uicRequest] at hfaithful
  · intro hfaithful e
    refine ⟨_, uicRequestsSent_eq hop.mode e, ?_⟩
    rwa [uicCommandOf_uicRequest]

/-- Attribute ID, direction and lane. -/
def UicOperation.target (uop : UicOperation) : Int × Option UicDir × Int :=
  (uop.attrId, uop.dir, uop.lane)

/-- What `argument1` of the commands an operation sends is. -/
def argument1Sent (op : LsufsOperation) (e : Answering) : List UInt32 :=
  (uicRequestsSent op e.replies).map fun request =>
    (uicCommandOf request.upiuReq).argument1

theorem argument1Sent_eq {op : LsufsOperation} (hop : UicAccepted op.uicOp)
    (e : Answering) : argument1Sent op e = [op.uicOp.sent.argument1] := by
  rw [argument1Sent, uicRequestsSent_eq hop.mode]
  simp

theorem laneSelector_eq_iff {left right : UicOperation}
    (hl : UicAccepted left) (hr : UicAccepted right) :
    left.attrId = right.attrId ∧ laneSelector left = laneSelector right ↔
      left.target = right.target ∨ LanesCollide left right := by
  obtain ⟨dl, hdl⟩ := Option.ne_none_iff_exists'.mp hl.dir
  obtain ⟨dr, hdr⟩ := Option.ne_none_iff_exists'.mp hr.dir
  simp only [laneSelector, LanesCollide, UicOperation.target, Prod.mk.injEq,
    hdl, hdr]
  cases dl <;> cases dr <;> simp
  all_goals omega

theorem LanesCollide.target_ne {left right : UicOperation}
    (h : LanesCollide left right) : left.target ≠ right.target := by
  intro htarget
  simp only [UicOperation.target, Prod.mk.injEq] at htarget
  rcases h.2 with ⟨htx, hrx, -⟩ | ⟨hrx, htx, -⟩ <;> simp_all

/-- Among faithful commands only colliding lanes share `argument1`. -/
theorem argument1_eq_iff {left right : UicOperation} (hl : UicAccepted left)
    (hr : UicAccepted right) (hfl : CommandFaithful left left.sent)
    (hfr : CommandFaithful right right.sent) :
    left.sent.argument1 = right.sent.argument1 ↔
      left.target = right.target ∨ LanesCollide left right := by
  rw [← laneSelector_eq_iff hl hr, ← hfl.attrId, ← hfr.attrId,
    ← hfl.selector, ← hfr.selector]
  constructor
  · intro heq
    rw [heq]
    exact ⟨rfl, rfl⟩
  · rintro ⟨hhigh, hlow⟩
    apply UInt32.toNat_inj.mp
    omega

/-- Two accepted command lines reach the registers they name, and different
ones, when attribute ID and lane fit their half of `argument1` and no Tx lane
runs into the Rx lanes.  The parser checks neither. -/
theorem uic_command_faithful_iff {argv₁ argv₂ : List Text}
    {op₀ op₁ op₂ : LsufsOperation} {notes₁ notes₂ : List Note}
    (h₁ : initUicOperation argv₁ op₀ = .ok (op₁, notes₁))
    (h₂ : initUicOperation argv₂ op₀ = .ok (op₂, notes₂)) :
    (UicSendsFaithfully op₁ ∧ UicSendsFaithfully op₂ ∧
      (op₁.uicOp.target ≠ op₂.uicOp.target →
        ∀ e₁ e₂, argument1Sent op₁ e₁ ≠ argument1Sent op₂ e₂)) ↔
      FitsHalves op₁.uicOp ∧ FitsHalves op₂.uicOp ∧
        ¬ LanesCollide op₁.uicOp op₂.uicOp := by
  have hacc₁ := initUicOperation_accepted h₁
  have hacc₂ := initUicOperation_accepted h₂
  rw [uicSendsFaithfully_iff hacc₁, uicSendsFaithfully_iff hacc₂]
  refine and_congr_right fun hfits₁ => and_congr_right fun hfits₂ => ?_
  have hshared := argument1_eq_iff hacc₁ hacc₂
    ((sent_faithful_iff hacc₁).mpr hfits₁)
    ((sent_faithful_iff hacc₂).mpr hfits₂)
  simp only [argument1Sent_eq hacc₁, argument1Sent_eq hacc₂, ne_eq,
    List.cons.injEq, and_true, hshared, not_or]
  constructor
  · intro hapart hcollide
    have e : Answering := ⟨{ ret := 3 }, {}, [], by decide⟩
    exact (hapart hcollide.target_ne e e).2 hcollide
  · exact fun hclear hne _ _ => ⟨hne, hclear⟩

def eyeMonitorLine (attr dir lane : String) : List Text :=
  [lit "lsufs", lit "uic", lit "--get", lit "-i", lit attr, lit "--peer",
   lit dir, lit "--lane", lit lane, lit "-d", lit "/dev/ufs-bsg0"]

def eyeMonitorOperation (attr : Int) (dir : UicDir) (lane : Int) :
    LsufsOperation :=
  { devicePath := lit "/dev/ufs-bsg0"
    uicOp := { mode := some .get, dir := some dir, localPeer := some .peerSide,
               lane := lane, attrId := attr } }

theorem uic_command_faithful_lanes :
    UicSendsFaithfully (eyeMonitorOperation 0xF6 .rx 0) ∧
      UicSendsFaithfully (eyeMonitorOperation 0xF6 .rx 1) ∧
      ∀ e₁ e₂, argument1Sent (eyeMonitorOperation 0xF6 .rx 0) e₁ ≠
        argument1Sent (eyeMonitorOperation 0xF6 .rx 1) e₂ := by
  have h₁ : initUicOperation (eyeMonitorLine "0x00f6" "--RX" "0") {} =
    .ok (eyeMonitorOperation 0xF6 .rx 0, []) := by decide +kernel
  have h₂ : initUicOperation (eyeMonitorLine "0x00f6" "--RX" "1") {} =
    .ok (eyeMonitorOperation 0xF6 .rx 1, []) := by decide +kernel
  obtain ⟨hsends₁, hsends₂, hapart⟩ := (uic_command_faithful_iff h₁ h₂).mpr
    ⟨by constructor <;> decide, by constructor <;> decide, by
      simp [LanesCollide, eyeMonitorOperation]⟩
  exact ⟨hsends₁, hsends₂, hapart (by decide)⟩

/-- Tx lane 4 is read for Rx lane 0, and attribute 0x100F6 for 0xF6. -/
theorem uic_operands_share_command :
    initUicOperation (eyeMonitorLine "0x00f6" "--RX" "0") {} =
        .ok (eyeMonitorOperation 0xF6 .rx 0, []) ∧
      initUicOperation (eyeMonitorLine "0x00f6" "--TX" "4") {} =
        .ok (eyeMonitorOperation 0xF6 .tx 4, []) ∧
      initUicOperation (eyeMonitorLine "0x100f6" "--RX" "0") {} =
        .ok (eyeMonitorOperation 0x100F6 .rx 0, []) ∧
      ∀ e, argument1Sent (eyeMonitorOperation 0xF6 .tx 4) e =
          argument1Sent (eyeMonitorOperation 0xF6 .rx 0) e ∧
        argument1Sent (eyeMonitorOperation 0x100F6 .rx 0) e =
          argument1Sent (eyeMonitorOperation 0xF6 .rx 0) e := by
  refine ⟨by decide +kernel, by decide +kernel, by decide +kernel, ?_⟩
  intro e
  have hmode : ∀ attr dir lane,
      (eyeMonitorOperation attr dir lane).uicOp.mode ≠ none := by
    simp [eyeMonitorOperation]
  simp only [argument1Sent, uicRequestsSent_eq (hmode _ _ _)]
  decide +kernel

end UfsTools
