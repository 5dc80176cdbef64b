/-
The option loops of the two programs do not depend on the order of the options,
as long as no two of them set the same field.
-/
import UfsTools.Query
import UfsTools.UfsEom

namespace UfsTools

open CLib Getopt

/-! `setup_uic_operation` -/

/-- What an option is about; `-s` brings the data together with the mode. -/
inductive UicField where
  | mode
  | attrId
  | localPeer
  | dir
  | lane
  | devicePath
deriving DecidableEq

/-- The fields `setup_uic_operation` fills, by the option. -/
def uicField (o : Occurrence) : Option UicField :=
  match o.option with
  | 'g' | 's' => some .mode
  | 'i' => some .attrId
  | 'p' | 'l' => some .localPeer
  | 't' | 'r' => some .dir
  | 'L' => some .lane
  | 'd' => some .devicePath
  | _ => none

/-- What one option of `setup_uic_operation` writes. -/
inductive UicSetting where
  | get
  | set (data : UInt32)
  | attrId (id : Int)
  | localPeer (side : Side)
  | dir (d : UicDir)
  | lane (l : Int)
  | devicePath (path : Text)

/-- What a setting is about. -/
def UicSetting.kind : UicSetting → UicField
  | .get | .set _ => .mode
  | .attrId _ => .attrId
  | .localPeer _ => .localPeer
  | .dir _ => .dir
  | .lane _ => .lane
  | .devicePath _ => .devicePath

/-- The writes of the option's handler. -/
def UicSetting.put (v : UicSetting) (op : LsufsOperation) : LsufsOperation :=
  let uop := op.uicOp
  match v with
  | .get => { op with uicOp := { uop with mode := some .get } }
  | .set data => { op with uicOp := { uop with
      data := data, mode := some .set } }
  | .attrId id => { op with uicOp := { uop with attrId := id } }
  | .localPeer side => { op with uicOp := { uop with localPeer := some side } }
  | .dir d => { op with uicOp := { uop with dir := some d } }
  | .lane l => { op with uicOp := { uop with lane := l } }
  | .devicePath path => { op with devicePath := path }

/-- The setting of an option whose argument is accepted. -/
def uicSetting (o : Occurrence) : Option UicSetting :=
  match o.option with
  | 'g' => some .get
  | 's' => (getValueFromCli o.optarg).map fun data => .set (UInt32.ofInt data)
  | 'i' => (getValueFromCli o.optarg).map .attrId
  | 'p' => some (.localPeer .peerSide)
  | 'l' => some (.localPeer .localSide)
  | 't' => some (.dir .tx)
  | 'r' => some (.dir .rx)
  | 'L' => (getValueFromCli o.optarg).map .lane
  | 'd' => (initDevicePath o.optarg).toOption.map .devicePath
  | _ => none

/-- The setting of a number is made from it alone. -/
theorem toOption_initValue {V : Type} (message : String) (optarg : Text)
    (setting : Int → V) (put : V → LsufsOperation) :
    (initValue message optarg fun x => put (setting x)).toOption =
      ((getValueFromCli optarg).map setting).map put := by
  rw [initValue]
  cases getValueFromCli optarg <;> rfl

/-- A number that must not be outside some range. -/
theorem toOption_inRange {S V E : Type} {unread outside : E}
    {refused : Int → Prop} [DecidablePred refused] {accepted : Int → Bool}
    (haccepted : ∀ x, accepted x = true ↔ ¬ refused x) (value : Option Int)
    (setting : Int → V) (put : V → S) :
    Except.toOption (match value with
      | none => .error unread
      | some x =>
          if refused x then .error outside else .ok (put (setting x))) =
      ((value.filter accepted).map setting).map put := by
  cases value with
  | none => rfl
  | some x =>
      dsimp only
      split_ifs with hrefused
      · have hnot : accepted x = false :=
          Bool.eq_false_iff.mpr fun h => (haccepted x).mp h hrefused
        rw [Option.filter_some_neg hnot]
        rfl
      · rw [Option.filter_some_pos ((haccepted x).mpr hrefused)]
        rfl

theorem toOption_initOperationPath {V : Type} (optarg : Text)
    (op : LsufsOperation) (setting : Text → V) (put : V → LsufsOperation)
    (hput : ∀ path, put (setting path) = { op with devicePath := path }) :
    (initOperationPath optarg op).toOption =
      ((initDevicePath optarg).toOption.map setting).map put := by
  rw [initOperationPath]
  cases initDevicePath optarg with
  | error message => rfl
  | ok path => exact congrArg some (hput path).symm

theorem setupUicOption_independent :
    Independent setupUicOption uicField uicSetting UicSetting.kind
      UicSetting.put := by
  constructor
  · rintro op ⟨c, optarg⟩
    simp only [setupUicOption]
    split
    · rfl
    · exact toOption_initValue _ optarg
        (fun x => UicSetting.set (UInt32.ofInt x)) fun v => v.put op
    · exact toOption_initValue _ optarg UicSetting.attrId fun v => v.put op
    · rfl
    · rfl
    · rfl
    · rfl
    · exact toOption_initValue _ optarg UicSetting.lane fun v => v.put op
    · exact toOption_initOperationPath optarg op UicSetting.devicePath
        (fun v => v.put op) fun _ => rfl
    · simp only [uicSetting]
      rfl
  · rintro ⟨c, optarg⟩ v h
    simp only [uicSetting] at h
    split at h
    all_goals
      first
      | contradiction
      | cases h; rfl
      | obtain ⟨_, _, rfl⟩ := Option.map_eq_some_iff.mp h; rfl
  · intro v v' hapart op
    cases v <;> cases v' <;> first | rfl | exact absurd rfl hapart

/-! `setup_query_operation` -/

/-- What an option is about. -/
inductive QueryField where
  | opcode
  | idn
  | index
  | selector
  | attrValue
  | devicePath
deriving DecidableEq

/-- The fields `setup_query_operation` fills, by the option. -/
def queryField (o : Occurrence) : Option QueryField :=
  match o.option with
  | 'o' => some .opcode
  | 'i' => some .idn
  | 'I' => some .index
  | 's' => some .selector
  | 'v' => some .attrValue
  | 'd' => some .devicePath
  | _ => none

/-- What one option of `setup_query_operation` writes. -/
inductive QuerySetting where
  | opcode (x : Int)
  | idn (x : Int)
  | index (x : Int)
  | selector (x : Int)
  | attrValue (x : UInt64)
  | devicePath (path : Text)

/-- What a setting is about. -/
def QuerySetting.kind : QuerySetting → QueryField
  | .opcode _ => .opcode
  | .idn _ => .idn
  | .index _ => .index
  | .selector _ => .selector
  | .attrValue _ => .attrValue
  | .devicePath _ => .devicePath

/-- The write of the option's handler. -/
def QuerySetting.put (v : QuerySetting) (op : LsufsOperation) :
    LsufsOperation :=
  let qop := op.queryOp
  match v with
  | .opcode x => { op with queryOp := { qop with opcode := x } }
  | .idn x => { op with queryOp := { qop with idn := x } }
  | .index x => { op with queryOp := { qop with index := x } }
  | .selector x => { op with queryOp := { qop with selector := x } }
  | .attrValue x => { op with queryOp := { qop with attrValue := x } }
  | .devicePath path => { op with devicePath := path }

/-- The setting of an option whose argument is accepted; an opcode is below
`QUERY_REQ_OP_MAX`. -/
def querySetting (o : Occurrence) : Option QuerySetting :=
  match o.option with
  | 'o' => ((getValueFromCli o.optarg).filter (· < queryReqOpMax)).map .opcode
  | 'i' => (getValueFromCli o.optarg).map .idn
  | 'I' => (getValueFromCli o.optarg).map .index
  | 's' => (getValueFromCli o.optarg).map .selector
  | 'v' => (getUllFromCli o.optarg).map .attrValue
  | 'd' => (initDevicePath o.optarg).toOption.map .devicePath
  | _ => none

theorem toOption_initOpcode (optarg : Text) (op : LsufsOperation) :
    (initOpcode optarg op).toOption =
      (((getValueFromCli optarg).filter (· < queryReqOpMax)).map
        QuerySetting.opcode).map fun v => v.put op := by
  rw [initOpcode]
  exact toOption_inRange (fun x => by simp) (getValueFromCli optarg)
    QuerySetting.opcode fun v => v.put op

theorem toOption_initAttrValue (optarg : Text) (op : LsufsOperation) :
    (initAttrValue optarg op).toOption =
      ((getUllFromCli optarg).map QuerySetting.attrValue).map
        fun v => v.put op := by
  rw [initAttrValue]
  cases getUllFromCli optarg <;> rfl

theorem setupQueryOption_independent :
    Independent setupQueryOption queryField querySetting QuerySetting.kind
      QuerySetting.put := by
  constructor
  · rintro op ⟨c, optarg⟩
    simp only [setupQueryOption]
    split
    · exact toOption_initOpcode optarg op
    · exact toOption_initValue _ optarg QuerySetting.idn fun v => v.put op
    · exact toOption_initValue _ optarg QuerySetting.index fun v => v.put op
    · exact toOption_initValue _ optarg QuerySetting.selector
        fun v => v.put op
    · exact toOption_initAttrValue optarg op
    · exact toOption_initOperationPath optarg op QuerySetting.devicePath
        (fun v => v.put op) fun _ => rfl
    · simp only [querySetting]
      rfl
  · rintro ⟨c, optarg⟩ v h
    simp only [querySetting] at h
    split at h
    all_goals
      first
      | contradiction
      | obtain ⟨_, _, rfl⟩ := Option.map_eq_some_iff.mp h; rfl
  · intro v v' hapart op
    cases v <;> cases v' <;> first | rfl | exact absurd rfl hapart

/-! `parse_args` of ufseom -/

/-- What an option is about; `-L` brings the number of lanes with it. -/
inductive EomField where
  | localPeer
  | doIo
  | verbose
  | lane
  | outputPath
  | devicePath
  | targetTestCount
  | voltageLow
  | voltageHigh
  | timingLeft
  | timingRight
deriving DecidableEq

/-- The variables the option loop of ufseom fills, by the option. -/
def eomField (o : Occurrence) : Option EomField :=
  match o.option with
  | 'p' | 'l' => some .localPeer
  | 'D' => some .doIo
  | 'V' => some .verbose
  | 'L' => some .lane
  | 'o' => some .outputPath
  | 'd' => some .devicePath
  | 't' => some .targetTestCount
  | '1' => some .voltageLow
  | '2' => some .voltageHigh
  | '3' => some .timingLeft
  | '4' => some .timingRight
  | _ => none

/-- What one option of ufseom writes; a lane comes with the number of lanes. -/
inductive EomSetting where
  | localPeer (side : Side)
  | doIo
  | verbose
  | lane (l : Int)
  | outputPath (path : Text)
  | devicePath (path : Text)
  | targetTestCount (t : Int)
  | voltageLow (x : Int)
  | voltageHigh (x : Int)
  | timingLeft (x : Int)
  | timingRight (x : Int)

/-- What a setting is about. -/
def EomSetting.kind : EomSetting → EomField
  | .localPeer _ => .localPeer
  | .doIo => .doIo
  | .verbose => .verbose
  | .lane _ => .lane
  | .outputPath _ => .outputPath
  | .devicePath _ => .devicePath
  | .targetTestCount _ => .targetTestCount
  | .voltageLow _ => .voltageLow
  | .voltageHigh _ => .voltageHigh
  | .timingLeft _ => .timingLeft
  | .timingRight _ => .timingRight

/-- The writes of the option's handler. -/
def EomSetting.put (v : EomSetting) (g : EomGlobals) : EomGlobals :=
  match v with
  | .localPeer side => { g with eomData := { g.eomData with localPeer := side } }
  | .doIo => { g with doIo := true }
  | .verbose => { g with verbose := true }
  | .lane l => { g with lane := l, eomData := { g.eomData with numLanes := 1 } }
  | .outputPath path => { g with outputPath := path }
  | .devicePath path => { g with devicePath := path }
  | .targetTestCount t => { g with targetTestCount := t }
  | .voltageLow x => { g with voltageLow := x }
  | .voltageHigh x => { g with voltageHigh := x }
  | .timingLeft x => { g with timingLeft := x }
  | .timingRight x => { g with timingRight := x }

/-- The setting of an option whose argument is accepted. -/
def eomSetting (o : Occurrence) : Option EomSetting :=
  match o.option with
  | 'p' => some (.localPeer .peerSide)
  | 'l' => some (.localPeer .localSide)
  | 'D' => some .doIo
  | 'V' => some .verbose
  | 'L' => ((getValueFromCli o.optarg).filter fun l => 0 ≤ l ∧ l ≤ 1).map .lane
  | 'o' => (initDevicePath o.optarg).toOption.map .outputPath
  | 'd' => (initDevicePath o.optarg).toOption.map .devicePath
  | 't' => ((getValueFromCli o.optarg).filter fun t =>
      0 < t ∧ t ≤ eomTargetTestCountMax).map .targetTestCount
  | '1' => (getVoltageTimingValueFromCli o.optarg).map .voltageLow
  | '2' => (getVoltageTimingValueFromCli o.optarg).map .voltageHigh
  | '3' => (getVoltageTimingValueFromCli o.optarg).map .timingLeft
  | '4' => (getVoltageTimingValueFromCli o.optarg).map .timingRight
  | _ => none

theorem toOption_initEomLane (optarg : Text) (g : EomGlobals) :
    (initEomLane optarg g).toOption =
      (((getValueFromCli optarg).filter fun l => 0 ≤ l ∧ l ≤ 1).map
        EomSetting.lane).map fun v => v.put g := by
  rw [initEomLane]
  exact toOption_inRange (fun x => by simp)
    (getValueFromCli optarg) EomSetting.lane fun v => v.put g

theorem toOption_initTargetTestCount (optarg : Text) (g : EomGlobals) :
    (initTargetTestCount optarg g).toOption =
      (((getValueFromCli optarg).filter fun t =>
        0 < t ∧ t ≤ eomTargetTestCountMax).map
          EomSetting.targetTestCount).map fun v => v.put g := by
  rw [initTargetTestCount]
  exact toOption_inRange (fun x => by simp)
    (getValueFromCli optarg) EomSetting.targetTestCount fun v => v.put g

theorem toOption_initEomPath (optarg : Text) (setting : Text → EomSetting)
    (put : EomSetting → EomGlobals) :
    (initEomPath optarg fun path => put (setting path)).toOption =
      ((initDevicePath optarg).toOption.map setting).map put := by
  rw [initEomPath]
  cases initDevicePath optarg <;> rfl

theorem toOption_initRange (optarg : Text) (setting : Int → EomSetting)
    (put : EomSetting → EomGlobals) :
    (initRange optarg fun x => put (setting x)).toOption =
      ((getVoltageTimingValueFromCli optarg).map setting).map put := by
  rw [initRange]
  cases getVoltageTimingValueFromCli optarg <;> rfl

theorem parseOption_independent :
    Independent parseOption eomField eomSetting EomSetting.kind
      EomSetting.put := by
  constructor
  · rintro g ⟨c, optarg⟩
    simp only [parseOption]
    split
    · rfl
    · rfl
    · rfl
    · rfl
    · exact toOption_initEomLane optarg g
    · exact toOption_initEomPath optarg .outputPath fun v => v.put g
    · exact toOption_initEomPath optarg .devicePath fun v => v.put g
    · exact toOption_initTargetTestCount optarg g
    · exact toOption_initRange optarg .voltageLow fun v => v.put g
    · exact toOption_initRange optarg .voltageHigh fun v => v.put g
    · exact toOption_initRange optarg .timingLeft fun v => v.put g
    · exact toOption_initRange optarg .timingRight fun v => v.put g
    · simp only [eomSetting]
      rfl
  · rintro ⟨c, optarg⟩ v h
    simp only [eomSetting] at h
    split at h
    all_goals
      first
      | contradiction
      | cases h; rfl
      | obtain ⟨_, _, rfl⟩ := Option.map_eq_some_iff.mp h; rfl
  · intro v v' hapart g
    cases v <;> cases v' <;> first | rfl | exact absurd rfl hapart

/-- The option a setting comes from. -/
def EomSetting.option : EomSetting → Char
  | .localPeer .peerSide => 'p'
  | .localPeer .localSide => 'l'
  | .doIo => 'D'
  | .verbose => 'V'
  | .lane _ => 'L'
  | .outputPath _ => 'o'
  | .devicePath _ => 'd'
  | .targetTestCount _ => 't'
  | .voltageLow _ => '1'
  | .voltageHigh _ => '2'
  | .timingLeft _ => '3'
  | .timingRight _ => '4'

/-- What the number of a setting has to do with the argument. -/
def EomSetting.ReadFrom (optarg : Text) : EomSetting → Prop
  | .lane l => 0 ≤ l ∧ l ≤ 1
  | .targetTestCount t => 0 < t ∧ t ≤ eomTargetTestCountMax
  | .voltageLow x | .voltageHigh x | .timingLeft x | .timingRight x =>
      getVoltageTimingValueFromCli optarg = some x
  | _ => True

/-- A setting comes from its own option, and its number is in the range that
the handler checks. -/
theorem eomSetting_read {o : Occurrence} {v : EomSetting}
    (h : eomSetting o = some v) :
    o.option = v.option ∧ v.ReadFrom o.optarg := by
  simp only [eomSetting] at h
  split at h
  all_goals
    next hoption =>
      first
      | contradiction
      | cases h
        exact ⟨hoption, trivial⟩
      | obtain ⟨x, hx, rfl⟩ := Option.map_eq_some_iff.mp h
        first
        | exact ⟨hoption, hx⟩
        | exact ⟨hoption, trivial⟩
        | have hrange := (Option.filter_eq_some_iff.mp hx).2
          exact ⟨hoption, by simpa [EomSetting.ReadFrom] using hrange⟩

/-- What an accepted option leaves. -/
theorem parseOption_ok {g g' : EomGlobals} {o : Occurrence}
    (h : parseOption g o = .ok g') :
    ∃ v : EomSetting, o.option = v.option ∧ v.ReadFrom o.optarg ∧
      g' = v.put g := by
  have hhandled := parseOption_independent.handled g o
  rw [h] at hhandled
  obtain ⟨v, hv, hput⟩ := Option.map_eq_some_iff.mp hhandled.symm
  obtain ⟨hoption, hread⟩ := eomSetting_read hv
  exact ⟨v, hoption, hread, hput.symm⟩

/-! The three programs. -/

/-- An option loop with the return code it starts from, which is an error. -/
def runOptions {σ : Type} (handle : σ → Occurrence → Parsed σ)
    (occurrences : List Occurrence) (s : σ) : Parsed σ :=
  match occurrences with
  | [] => .error []
  | o :: rest => (o :: rest).foldlM handle s

/-- The options come to the same when they are reordered: both orders are
accepted or none is, and the records are equal, behind the loop as well as
behind the checks and defaults. -/
structure OrderFree {σ τ : Type} (handle : σ → Occurrence → Parsed σ)
    (check : σ → Parsed τ) (occurrences reordered : List Occurrence)
    (s : σ) : Prop where
  loop : (runOptions handle occurrences s).toOption =
    (runOptions handle reordered s).toOption
  checked : (runOptions handle occurrences s >>= check).toOption =
    (runOptions handle reordered s >>= check).toOption

theorem toOption_bind {α β ε : Type} (p : Except ε α) (f : α → Except ε β) :
    (p >>= f).toOption = p.toOption.bind fun a => (f a).toOption := by
  cases p <;> rfl

theorem orderFree_of_independent {σ τ F V : Type}
    {handle : σ → Occurrence → Parsed σ} {field : Occurrence → Option F}
    {setting : Occurrence → Option V} {kind : V → F} {put : V → σ → σ}
    (h : Independent handle field setting kind put) (check : σ → Parsed τ)
    {occurrences reordered : List Occurrence}
    (hperm : occurrences.Perm reordered)
    (hnodup : (occurrences.filterMap field).Nodup) (s : σ) :
    OrderFree handle check occurrences reordered s := by
  have hloop : (runOptions handle occurrences s).toOption =
      (runOptions handle reordered s).toOption := by
    cases occurrences with
    | nil =>
        obtain rfl := hperm.nil_eq
        rfl
    | cons o rest =>
        cases reordered with
        | nil => exact absurd hperm.eq_nil (List.cons_ne_nil o rest)
        | cons o' rest' => exact h.loop_perm hperm hnodup s
  constructor
  · exact hloop
  · rw [toOption_bind, toOption_bind, hloop]

theorem setupUicOperation_eq (argv : List Text) (op : LsufsOperation) :
    setupUicOperation argv op = runOptions setupUicOption
      (getoptLong uicShortOptions uicLongOptions argv.tail) op := by
  rw [setupUicOperation]
  cases getoptLong uicShortOptions uicLongOptions argv.tail <;> rfl

theorem setupQueryOperation_eq (argv : List Text) (op : LsufsOperation) :
    setupQueryOperation argv op = runOptions setupQueryOption
      (getoptLong queryShortOptions queryLongOptions argv.tail) op := by
  rw [setupQueryOperation]
  cases getoptLong queryShortOptions queryLongOptions argv.tail <;> rfl

theorem parseArgs_eq (program : Text) {word : Text} (rest : List Text)
    (g : EomGlobals) (hversion : word ≠ lit "--version")
    (hhelp : word ≠ lit "-h") :
    parseArgs (program :: word :: rest) g = runOptions parseOption
      (getoptLong ufseomShortOptions ufseomLongOptions (word :: rest)) g >>=
        parseDefaults := by
  rw [parseArgs, if_neg hversion, if_neg hhelp]
  cases getoptLong ufseomShortOptions ufseomLongOptions (word :: rest) <;> rfl

/-- Options that set different fields may be given in any order, and what
`getopt_long` delivers is all that the loops look at. -/
theorem option_order_free :
    (∀ occurrences reordered : List Occurrence, occurrences.Perm reordered →
      ((occurrences.filterMap uicField).Nodup → ∀ op,
        OrderFree setupUicOption uicOpSanityCheck occurrences reordered op) ∧
      ((occurrences.filterMap queryField).Nodup → ∀ op,
        OrderFree setupQueryOption queryOpSanityCheck occurrences reordered
          op) ∧
      ((occurrences.filterMap eomField).Nodup → ∀ g,
        OrderFree parseOption parseDefaults occurrences reordered g)) ∧
    (∀ argv op, setupUicOperation argv op = runOptions setupUicOption
      (getoptLong uicShortOptions uicLongOptions argv.tail) op) ∧
    (∀ argv op, setupQueryOperation argv op = runOptions setupQueryOption
      (getoptLong queryShortOptions queryLongOptions argv.tail) op) ∧
    ∀ program word rest g, word ≠ lit "--version" → word ≠ lit "-h" →
      parseArgs (program :: word :: rest) g = runOptions parseOption
        (getoptLong ufseomShortOptions ufseomLongOptions (word :: rest)) g >>=
          parseDefaults := by
  refine ⟨?_, setupUicOperation_eq, setupQueryOperation_eq, ?_⟩
  · intro occurrences reordered hperm
    refine ⟨?_, ?_, ?_⟩
    · exact fun hnodup => orderFree_of_independent setupUicOption_independent
        uicOpSanityCheck hperm hnodup
    · exact fun hnodup => orderFree_of_independent
        setupQueryOption_independent queryOpSanityCheck hperm hnodup
    · exact fun hnodup => orderFree_of_independent parseOption_independent
        parseDefaults hperm hnodup
  · intro program word rest g hversion hhelp
    exact parseArgs_eq program rest g hversion hhelp

/-- The set of a local attribute. -/
def setAttributeOptions : List Occurrence :=
  [⟨'s', lit "0x1"⟩, ⟨'i', lit "0x1571"⟩, ⟨'l', []⟩,
    ⟨'d', lit "/dev/ufs-bsg0"⟩]

/-- The write of an attribute. -/
def writeAttributeOptions : List Occurrence :=
  [⟨'o', lit "4"⟩, ⟨'i', lit "2"⟩, ⟨'I', lit "0"⟩, ⟨'s', lit "0"⟩,
    ⟨'v', lit "7"⟩, ⟨'d', lit "/dev/ufs-bsg0"⟩]

/-- The scan of one local lane. -/
def scanLaneOptions : List Occurrence :=
  [⟨'l', []⟩, ⟨'L', lit "0"⟩, ⟨'t', lit "50"⟩, ⟨'o', lit "/data/"⟩,
    ⟨'d', lit "/dev/ufs-bsg0"⟩]

theorem option_order_free_reversed :
    OrderFree setupUicOption uicOpSanityCheck setAttributeOptions
        setAttributeOptions.reverse {} ∧
      OrderFree setupQueryOption queryOpSanityCheck writeAttributeOptions
        writeAttributeOptions.reverse {} ∧
      OrderFree parseOption parseDefaults scanLaneOptions
        scanLaneOptions.reverse (initEomOperation {}) ∧
      parseArgs [lit "ufseom", lit "-l", lit "-V"] {} =
        (runOptions parseOption (getoptLong ufseomShortOptions
          ufseomLongOptions [lit "-l", lit "-V"]) {} >>= parseDefaults) ∧
      (runOptions setupUicOption setAttributeOptions {} >>=
        uicOpSanityCheck).toOption.isSome ∧
      (runOptions setupQueryOption writeAttributeOptions {} >>=
        queryOpSanityCheck).toOption.isSome ∧
      (runOptions parseOption scanLaneOptions (initEomOperation {}) >>=
        parseDefaults).toOption.isSome := by
  refine ⟨?_, ?_, ?_, ?_, by decide, by decide, by decide⟩
  · exact (option_order_free.1 _ _ (List.reverse_perm _).symm).1 (by decide) {}
  · exact (option_order_free.1 _ _ (List.reverse_perm _).symm).2.1
      (by decide) {}
  · exact (option_order_free.1 _ _ (List.reverse_perm _).symm).2.2
      (by decide) _
  · exact option_order_free.2.2.2 (lit "ufseom") (lit "-l") [lit "-V"] {}
      (by decide) (by decide)

end UfsTools
