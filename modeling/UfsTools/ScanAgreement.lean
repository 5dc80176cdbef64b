/-
What ufseom and `ufs-eom.py` record for a point when the eye monitor answers
both of them alike.
-/
import UfsTools.ScriptRegisters
import UfsTools.ScriptRun

namespace UfsTools

open CLib Getopt PyText Process

/-! The registers a scan waits for, with the values that were read. -/

abbrev RegisterRead := UicCommand × Nat

/-- A GET of `RX_EYEMON_TESTED_COUNT`, `RX_EYEMON_ERROR_COUNT` or
`RX_EYEMON_START`. -/
def isScanRead (cmd : UicCommand) : Bool :=
  !isSetCommand cmd &&
    [rxEyemonTestedCount, rxEyemonErrorCount, rxEyemonStart].contains
      ((cmd.argument1 >>> 16).toNat : Int)

def readsOf (h : History) : List RegisterRead :=
  h.map fun x => (x.1, (registerValue x.2).toNat)

/-- The reads of a run of ufseom, in order. -/
def scanReadsOf (trace : Trace) : List RegisterRead :=
  ((exchangesOf trace).map fun x =>
    (uicCommandOf x.1.upiuReq, (registerValue x.2).toNat)).filter
    fun read => isScanRead read.1

/-- What `do_uic_get` sends for a record. -/
def doUicGetCommands (op : LsufsOperation) : List UicCommand :=
  (exchangesOf (doUicGet op (powerOn [registerReply 0] ())).machine.trace).map
    fun x => uicCommandOf x.1.upiuReq

/-- What becomes of the words behind `adb shell`. -/
def uicLineReads (words : List Text) : List UicCommand :=
  match initUicOperation words lsufsOp with
  | .error _ => []
  | .ok (op, _) =>
      if op.uicOp.mode = some .get then doUicGetCommands op else []

/-- A command that prints no value reads none. -/
def adbReads (request : AdbCall) (reply : AdbReply) : List RegisterRead :=
  match request, registerNumber reply.output with
  | .checkOutput words, some (some value) =>
      (uicLineReads (words.drop 2)).map fun cmd => (cmd, value)
  | _, _ => []

/-- The reads of a run of the script, in order. -/
def scriptReadsOf (m : ScriptMachine) : List RegisterRead :=
  m.trace.flatMap fun
    | .call request reply => adbReads request reply
    | .note _ => []

/-! ufseom. -/

variable {side : Side} {lane timing volt targetCount errors : Int}

theorem isScanRead_eyeMonitorGet (side : Side) (hlane : lane = 0 ∨ lane = 1) :
    isScanRead (eyeMonitorGet rxEyemonStart side lane) = true ∧
      isScanRead (eyeMonitorGet rxEyemonTestedCount side lane) = true ∧
      isScanRead (eyeMonitorGet rxEyemonErrorCount side lane) = true := by
  rcases hlane with rfl | rfl <;> cases side <;> decide

theorem Talks.scanReadsOf {m m' : Machine EomGlobals} {h : History}
    (ht : Talks m m' h) : scanReadsOf m'.trace = scanReadsOf m.trace ++
      (readsOf h).filter fun read => isScanRead read.1 := by
  have hreads : (requestsOf h).map (fun x =>
      (uicCommandOf x.1.upiuReq, (registerValue x.2).toNat)) = readsOf h := by
    simp [requestsOf, readsOf, Function.comp_def]
  rw [UfsTools.scanReadsOf, ht.history, List.map_append, hreads,
    List.filter_append, UfsTools.scanReadsOf]

theorem readsOf_append (h h' : History) :
    readsOf (h ++ h') = readsOf h ++ readsOf h' := List.map_append

theorem AllSet.scanReads {sets : List RegisterSet} {h : History}
    (hall : AllSet sets h) :
    (readsOf h).filter (fun read => isScanRead read.1) = [] := by
  rw [List.filter_eq_nil_iff]
  intro read hread
  obtain ⟨x, hx, rfl⟩ := List.mem_map.mp hread
  have hset : x.1 ∈ sets.map RegisterSet.command :=
    hall.commands ▸ List.mem_map_of_mem hx
  obtain ⟨s, -, hs⟩ := List.mem_map.mp hset
  have hcommand : isSetCommand s.command = true := by
    rw [RegisterSet.command]
    cases s.peer <;> rfl
  simp [isScanRead, ← hs, hcommand]

theorem AllPolls.scanReads {h : History} (hpolls : AllPolls h) :
    (readsOf h).filter (fun read => isScanRead read.1) = [] := by
  rw [List.filter_eq_nil_iff]
  intro read hread
  obtain ⟨x, hx, rfl⟩ := List.mem_map.mp hread
  rw [hpolls x hx]
  decide

theorem BusyRound.scanReads (hlane : lane = 0 ∨ lane = 1) {h : History}
    (hround : BusyRound side lane targetCount h) :
    (readsOf h).filter (fun read => isScanRead read.1) = readsOf h := by
  obtain ⟨hs, ht, he⟩ := isScanRead_eyeMonitorGet side hlane
  cases hround with
  | running hstart _ => simp [readsOf, hstart.command, hs]
  | short hstart _ htested herrors _ _ =>
      simp [readsOf, hstart.command, htested.command, herrors.command, hs, ht,
        he]

theorem FinalRound.scanReads (hlane : lane = 0 ∨ lane = 1) {h : History}
    (hround : FinalRound side lane targetCount errors h) :
    (readsOf h).filter (fun read => isScanRead read.1) = readsOf h := by
  obtain ⟨hs, ht, he⟩ := isScanRead_eyeMonitorGet side hlane
  cases hround with
  | stopped hstart _ htested herrors _ =>
      simp [readsOf, hstart.command, htested.command, herrors.command, hs, ht,
        he]

theorem FinalRound.reads_ne_nil {h : History}
    (hround : FinalRound side lane targetCount errors h) : readsOf h ≠ [] := by
  cases hround
  exact List.cons_ne_nil _ _

/-- A call that returns `SUCCESS` has recorded its point. -/
theorem wp_logResult_success {m : Machine EomGlobals} {result : EomResult} :
    wp (logResult result) (fun ret m' => ret = success →
        m'.mem.eomData = m.mem.eomData.record result ∧
        scanReadsOf m'.trace = scanReadsOf m.trace)
      (fun _ _ => True) m := by
  rw [logResult, wp_bind, wp_get, wp_bind, wp_note]
  split_ifs
  · rw [wp_fault]
    trivial
  · rw [wp_bind, wp_modify, wp_bind, wp_note, wp_pure]
    intro hsuccess
    exact absurd hsuccess (by decide)
  · rw [wp_bind, wp_modify, wp_pure]
    intro _
    exact ⟨rfl, by simp [scanReadsOf, exchangesOf]⟩

theorem wp_eomScan_reads {m : Machine EomGlobals}
    (hlane : lane = 0 ∨ lane = 1) :
    wp (eomScan side lane timing volt targetCount) (fun ret m' =>
        ret = success → ∃ (errors : Int) (rounds : List History)
          (final : History),
          m'.mem.eomData =
            m.mem.eomData.record ⟨lane, timing, volt, errors⟩ ∧
          scanReadsOf m'.trace =
            scanReadsOf m.trace ++ readsOf (rounds.flatten ++ final) ∧
          (∀ round ∈ rounds, BusyRound side lane targetCount round) ∧
          FinalRound side lane targetCount errors final)
      (fun _ _ => True) m := by
  apply wp_eomScan_logs
  · intro h m₁ errors ht hhistory
    obtain ⟨sets, polls, rounds, final, rfl, hsets, hpolls, hrounds, hfinal⟩ :=
      hhistory.split
    have hkept : ∀ rounds : List History,
        (∀ round ∈ rounds, BusyRound side lane targetCount round) →
        (readsOf rounds.flatten).filter (fun read => isScanRead read.1) =
          readsOf rounds.flatten := by
      intro rounds hrounds
      induction rounds with
      | nil => rfl
      | cons round rest ih =>
          rw [List.forall_mem_cons] at hrounds
          rw [List.flatten_cons, readsOf_append, List.filter_append,
            hrounds.1.scanReads hlane, ih hrounds.2]
    apply wp_imp wp_logResult_success
    intro ret m₂ hlogged hsuccess
    obtain ⟨hdata, hreads⟩ := hlogged hsuccess
    refine ⟨errors, rounds, final, ?_, ?_, hrounds, hfinal⟩
    · rw [hdata, ht.mem]
    · rw [hreads, ht.scanReadsOf, readsOf_append, readsOf_append,
        readsOf_append, List.filter_append, List.filter_append,
        List.filter_append, hsets.scanReads, hpolls.scanReads,
        hkept rounds hrounds, hfinal.scanReads hlane, readsOf_append]
      rfl
  · intro h m₁ _ _ hsuccess
    exact absurd hsuccess (by decide)
  · exact fun _ _ _ _ _ _ => trivial

/-! The command line of a `uic_get`. -/

/-- The words `lsufs` gets for a call of `uic_get`. -/
def uicGetWords (g : EomScript) (side : Side) (lane : Int) (index : Nat) :
    List Text :=
  [g.lsufsPath, lit "uic", lit "-g", lit "--" ++ side.option, lit "--lane",
    showInt lane, lit "-i", lit "0x" ++ showHex index, lit "--RX", lit "-d",
    g.devicePath]

theorem split_uicGetLine {g : EomScript} (side : Side) (lane : Int)
    (index : Nat) (hlsufs : IsWord g.lsufsPath) (hdevice : IsWord g.devicePath) :
    split (g.lsufsPath ++ lit " uic -g " ++ (lit "--" ++ side.option) ++
        lit " " ++ laneOpt lane ++ lit " -i 0x" ++ showHex index ++
        lit " --RX -d " ++ g.devicePath) =
      uicGetWords g side lane index := by
  have hblank : isWhitespace ' ' = true := by decide
  have huic : IsWord (lit "uic") := by decide +kernel
  have hg : IsWord (lit "-g") := by decide +kernel
  have hi : IsWord (lit "-i") := by decide +kernel
  have hd : IsWord (lit "-d") := by decide +kernel
  have hdir : IsWord (lit "--RX") := by decide +kernel
  have hside : IsWord (lit "--" ++ side.option) := by
    cases side <;> decide +kernel
  have htext : g.lsufsPath ++ lit " uic -g " ++ (lit "--" ++ side.option) ++
      lit " " ++ laneOpt lane ++ lit " -i 0x" ++ showHex index ++
      lit " --RX -d " ++ g.devicePath =
    g.lsufsPath ++ ' ' :: (lit "uic" ++ ' ' :: (lit "-g" ++
      ' ' :: ((lit "--" ++ side.option) ++ ' ' :: (laneOpt lane ++
      ' ' :: (lit "-i" ++ ' ' :: ((lit "0x" ++ showHex index) ++
      ' ' :: (lit "--RX" ++ ' ' :: (lit "-d" ++
      ' ' :: g.devicePath)))))))) := by
    simp [lit]
  rw [htext]
  simp only [split_append_cons hblank, split_word, split_laneOpt, huic, hg, hi,
    hd, hdir, hside, hlsufs, hdevice, isWord_hex]
  simp [uicGetWords, laneWords]

theorem initUicOperation_uicGetWords {g : EomScript} {index : Nat} (side : Side)
    (hlane : lane = 0 ∨ lane = 1) (hindex : (index : Int) ≤ intMax)
    (hdevice : g.devicePath ≠ [])
    (hshort : g.devicePath.length < devicePathNameSizeMax) :
    ∃ entries, initUicOperation (uicGetWords g side lane index) lsufsOp =
      .ok ({ lsufsOp with
        devicePath := g.devicePath
        uicOp := { mode := some .get, dir := some .rx, localPeer := some side,
                   lane := lane, attrId := index } }, entries) := by
  have hget : lookupShort uicShortOptions 'g' = some false := by
    decide +kernel
  have hside : longWord uicLongOptions side.option =
      (⟨if side = .localSide then 'l' else 'p', []⟩, false) := by
    cases side <;> decide +kernel
  have hne : side.option ≠ [] := by
    cases side <;> decide +kernel
  have hlong : longWord uicLongOptions (lit "lane") = (⟨'L', []⟩, true) := by
    decide +kernel
  have hwords : getoptLong uicShortOptions uicLongOptions
      (uicGetWords g side lane index).tail =
        [⟨'g', []⟩, ⟨if side = .localSide then 'l' else 'p', []⟩,
          ⟨'L', showInt lane⟩, ⟨'i', lit "0x" ++ showHex index⟩, ⟨'r', []⟩,
          ⟨'d', g.devicePath⟩] := by
    have htail := getoptLong_uicTail index .rx g.devicePath
    change getoptLong _ _ (('u' :: ['i', 'c']) :: ['-', 'g'] ::
      ('-' :: '-' :: side.option) :: ('-' :: '-' :: lit "lane") ::
        showInt lane :: _) = _
    rw [getoptLong_operand (by decide), getoptLong_flag (by decide) hget,
      getoptLong_long hne hside, getoptLong_longArg (by decide +kernel) hlong]
    erw [htail]
    rfl
  have hset : setupUicOperation (uicGetWords g side lane index)
      { lsufsOp with uicOp := {}, devicePath := [] } =
        .ok { lsufsOp with
          devicePath := g.devicePath
          uicOp := { mode := some .get, dir := some .rx,
                     localPeer := some side, lane := lane,
                     attrId := index } } := by
    rw [setupUicOperation, hwords]
    dsimp only
    rw [optionLoop_cons rfl, optionLoop_cons (setupUicOption_side _ side),
      optionLoop_cons (setupUicOption_lane _ hlane),
      optionLoop_cons (setupUicOption_id _ hindex),
      optionLoop_cons rfl,
      optionLoop_cons (setupUicOption_device _ hdevice hshort)]
    rfl
  simp only [initUicOperation, hset, bind, Except.bind]
  apply uicOpSanityCheck_given (some lane) hdevice
  · rintro l ⟨⟩
    exact hlane
  · intro hmode
    contradiction

theorem doUicGetCommands_eq (op : LsufsOperation) :
    doUicGetCommands op = [uicGetCommand op.uicOp.attrSel op.uicOp.side] := by
  rw [doUicGetCommands, doUicGet_eq_exchange, powerOn, exchange_run]
  simp [Result.machine, exchangesOf, uicIoctl, sgIoRequest]

theorem uicLineReads_uicGetWords {g : EomScript} {index : Nat}
    (hlane : lane = 0 ∨ lane = 1) (hindex : (index : Int) ≤ intMax)
    (hpaths : PathsGiven g) :
    uicLineReads (uicGetWords g side lane index) =
      [eyeMonitorGet index side lane] := by
  obtain ⟨entries, hinit⟩ := initUicOperation_uicGetWords side hlane hindex
    hpaths.device.nonempty hpaths.short
  rw [uicLineReads, hinit]
  dsimp only
  rw [if_pos rfl, doUicGetCommands_eq]
  cases side <;> rfl

/-! The script on the same stream. -/

/-- Output from which the script reads `value`. -/
structure Shows (r : AdbReply) (value : Nat) : Prop where
  status : r.status = 0
  output : registerNumber r.output = some (some value)

/-- The replies hold the values of the reads and then `later`. -/
inductive ReadStream (later : List AdbReply) :
    List AdbReply → List RegisterRead → Prop
  | nil : ReadStream later later []
  | cons {r : AdbReply} {rest : List AdbReply} {cmd : UicCommand} {value : Nat}
      {reads : List RegisterRead} (hshows : Shows r value)
      (hrest : ReadStream later rest reads) :
      ReadStream later (r :: rest) ((cmd, value) :: reads)

/-- A script set up to measure on a side. -/
structure ScriptReady (g : EomScript) (side : Side) : Prop where
  side : g.sideOpt = lit "--" ++ side.option
  paths : PathsGiven g

/-- From `m` to `m'` the script made the reads and reported nothing. -/
structure Took (m m' : ScriptMachine) (reads : List RegisterRead) : Prop where
  mem : m'.mem = m.mem
  entries : entriesOf m' = entriesOf m
  reads : scriptReadsOf m' = scriptReadsOf m ++ reads

variable {m m' m'' : ScriptMachine} {reads reads' : List RegisterRead}
  {later : List AdbReply}

theorem Took.refl (m : ScriptMachine) : Took m m [] :=
  ⟨rfl, rfl, by simp⟩

theorem Took.trans (hleft : Took m m' reads) (hright : Took m' m'' reads') :
    Took m m'' (reads ++ reads') := by
  constructor
  · exact hright.mem.trans hleft.mem
  · exact hright.entries.trans hleft.entries
  · rw [hright.reads, hleft.reads, List.append_assoc]

theorem adbReads_checkOutput {r : AdbReply} {value : Nat}
    (hshows : Shows r value) (words : List Text) :
    adbReads (.checkOutput (lit "adb" :: lit "shell" :: words)) r =
      (uicLineReads words).map fun cmd => (cmd, value) := by
  simp only [adbReads, hshows.output, List.drop_succ_cons, List.drop_zero]

theorem scriptReadsOf_call (c : AdbCall) (r : AdbReply)
    (rest : List AdbReply) :
    scriptReadsOf ⟨rest, m.trace ++ [.call c r], m.mem⟩ =
      scriptReadsOf m ++ adbReads c r := by
  simp [scriptReadsOf]

theorem scriptReadsOf_note (n : ScriptNote) :
    scriptReadsOf { m with trace := m.trace ++ [.note n] } =
      scriptReadsOf m := by
  simp [scriptReadsOf]

theorem ReadStream.replies {replies : List AdbReply}
    (h : ReadStream later replies []) : replies = later := by
  cases h
  rfl

theorem ReadStream.reads_nil (h : ReadStream later [] reads) : reads = [] := by
  cases h
  rfl

theorem wp_uicGet_takes {index value : Nat} {cmd : UicCommand}
    {Q : Option Nat → ScriptMachine → Prop} {E : Halt → ScriptMachine → Prop}
    (hready : ScriptReady m.mem side) (hlane : lane = 0 ∨ lane = 1)
    (hindex : (index : Int) ≤ intMax)
    (hcmd : eyeMonitorGet index side lane = cmd)
    (hstream : ReadStream later m.replies ((cmd, value) :: reads))
    (hdone : ∀ m', Took m m' [(cmd, value)] →
      ReadStream later m'.replies reads → Q (some value) m') :
    wp (LsufsCli.uicGet lane index) Q E m := by
  generalize hreplies : m.replies = replies at hstream
  cases hstream with
  | cons hshows hrest =>
      rw [LsufsCli.uicGet, wp_bind, wp_get, wp_bind, checkOutput, wp_bind]
      apply wp_call
      · intro hnone
        rw [hreplies] at hnone
        contradiction
      · intro r rest hr
        obtain ⟨rfl, rfl⟩ := List.cons.inj (hr.symm.trans hreplies)
        rw [if_neg (not_not.mpr hshows.status), wp_pure]
        simp only [hshows.output, wp_pure]
        apply hdone
        · constructor
          · rfl
          · exact entriesOf_call _ _ _
          · have hwords := split_uicGetLine side lane index
              hready.paths.lsufs hready.paths.device
            rw [← hready.side] at hwords
            rw [scriptReadsOf_call, adbReads_checkOutput hshows, hwords,
              uicLineReads_uicGetWords hlane hindex hready.paths, hcmd]
            rfl
        · exact hrest

/-- Every value of `RX_EYEMON_START` that was read is 0 or 1. -/
def StartsKnown (side : Side) (lane : Int) (reads : List RegisterRead) : Prop :=
  ∀ read ∈ reads, read.1 = eyeMonitorGet rxEyemonStart side lane →
    read.2 = 0 ∨ read.2 = 1

section

variable {E : Halt → ScriptMachine → Prop}
  {Q : Option Unit → ScriptMachine → Prop}

/-- The eye monitor runs. -/
theorem wp_scanRound_one (hready : ScriptReady m.mem side)
    (hlane : lane = 0 ∨ lane = 1)
    (hstream : ReadStream later m.replies
      ((eyeMonitorGet rxEyemonStart side lane, 1) :: reads))
    (hdone : ∀ m', Took m m' [(eyeMonitorGet rxEyemonStart side lane, 1)] →
      ReadStream later m'.replies reads → Q none m') :
    wp (UFSEOM.scanRound lane timing volt targetCount) Q E m := by
  rw [UFSEOM.scanRound, wp_bind]
  apply wp_uicGet_takes hready hlane (by decide) rfl hstream
  intro m₁ h₁ hrest
  rw [if_pos rfl, wp_pure]
  exact hdone m₁ h₁ hrest

/-- Its start register holds neither 0 nor 1. -/
theorem wp_scanRound_unknown {value : Nat} (hready : ScriptReady m.mem side)
    (hlane : lane = 0 ∨ lane = 1) (hzero : value ≠ 0) (hone : value ≠ 1)
    (hstream : ReadStream later m.replies
      ((eyeMonitorGet rxEyemonStart side lane, value) :: reads))
    (hdone : ∀ m', entriesOf m' = entriesOf m → Q (some ()) m') :
    wp (UFSEOM.scanRound lane timing volt targetCount) Q E m := by
  rw [UFSEOM.scanRound, wp_bind]
  apply wp_uicGet_takes hready hlane (by decide) rfl hstream
  intro m₁ h₁ hrest
  have hnone : ¬ some value = some 1 := fun h => hone (Option.some.inj h)
  have hnull : ¬ some value = some 0 := fun h => hzero (Option.some.inj h)
  rw [if_neg hnone, if_neg hnull, wp_bind, wp_note, wp_pure]
  apply hdone
  rw [entriesOf_console, h₁.entries]

/-- It has stopped. -/
theorem wp_scanRound_zero {tested count : Nat} (hready : ScriptReady m.mem side)
    (hlane : lane = 0 ∨ lane = 1)
    (hstream : ReadStream later m.replies
      ((eyeMonitorGet rxEyemonStart side lane, 0) ::
        (eyeMonitorGet rxEyemonTestedCount side lane, tested) ::
        (eyeMonitorGet rxEyemonErrorCount side lane, count) :: reads))
    (hdone : ∀ m', Took m m' [(eyeMonitorGet rxEyemonStart side lane, 0),
        (eyeMonitorGet rxEyemonTestedCount side lane, tested),
        (eyeMonitorGet rxEyemonErrorCount side lane, count)] →
      ReadStream later m'.replies reads →
      if (tested : Int) ≥ targetCount ∨ count ≥ 60 then
        Q (some ()) { m' with
          trace := m'.trace ++ [.note (.record ⟨lane, timing, volt, count⟩)] }
      else Q none m') :
    wp (UFSEOM.scanRound lane timing volt targetCount) Q E m := by
  rw [UFSEOM.scanRound, wp_bind]
  apply wp_uicGet_takes hready hlane (by decide) rfl hstream
  intro m₁ h₁ hrest₁
  rw [if_neg (by decide), if_pos rfl, wp_bind]
  apply wp_uicGet_takes (h₁.mem ▸ hready) hlane (by decide) rfl hrest₁
  intro m₂ h₂ hrest₂
  have h₁₂ := h₁.trans h₂
  rw [wp_bind]
  apply wp_uicGet_takes (h₁₂.mem ▸ hready) hlane (by decide) rfl hrest₂
  intro m₃ h₃ hrest₃
  have hgoal := hdone m₃ (h₁₂.trans h₃) hrest₃
  dsimp only
  split_ifs at hgoal ⊢
  · rw [wp_bind, wp_note, wp_pure]
    exact hgoal
  · rw [wp_pure]
    exact hgoal

/-- Where a loop over the rounds of a scan ends: with the record exactly if
every start register was known. -/
structure Ends (m m' : ScriptMachine) (side : Side) (lane : Int)
    (reads : List RegisterRead) (later : List AdbReply) (result : EomResult) :
    Prop where
  known : StartsKnown side lane reads → m'.replies = later ∧
    scriptReadsOf m' = scriptReadsOf m ++ reads ∧
    entriesOf m' = entriesOf m ++ [.record result]
  unknown : ¬ StartsKnown side lane reads → entriesOf m' = entriesOf m

end

theorem Reads.read {cmd : UicCommand} {value : Int} {x : UicCommand × SysReply}
    (h : Reads cmd value x) : ∃ n : Nat, (n : Int) = value ∧
      (x.1, (registerValue x.2).toNat) = (cmd, n) :=
  ⟨_, h.value, by rw [h.command]⟩

theorem ne_zero_of_running {start : Nat}
    (h : UInt32.ofInt start &&& rxEyemonStartMask ≠ 0) : start ≠ 0 := by
  rintro rfl
  exact h (by decide)

theorem ne_one_of_stopped {start : Nat}
    (h : UInt32.ofInt start &&& rxEyemonStartMask = 0) : start ≠ 1 := by
  rintro rfl
  exact absurd h (by decide)

theorem eyeMonitorGet_ne_start (side : Side) (hlane : lane = 0 ∨ lane = 1) :
    eyeMonitorGet rxEyemonTestedCount side lane ≠
        eyeMonitorGet rxEyemonStart side lane ∧
      eyeMonitorGet rxEyemonErrorCount side lane ≠
        eyeMonitorGet rxEyemonStart side lane := by
  rcases hlane with rfl | rfl <;> cases side <;> decide

/-- Only the start register of a round can be unknown. -/
theorem startsKnown_round {start tested count : Nat}
    (hlane : lane = 0 ∨ lane = 1) :
    StartsKnown side lane ((eyeMonitorGet rxEyemonStart side lane, start) ::
        (eyeMonitorGet rxEyemonTestedCount side lane, tested) ::
        (eyeMonitorGet rxEyemonErrorCount side lane, count) :: reads) ↔
      (start = 0 ∨ start = 1) ∧ StartsKnown side lane reads := by
  obtain ⟨htested, herrors⟩ := eyeMonitorGet_ne_start side hlane
  simp [StartsKnown, htested, herrors]

theorem startsKnown_cons {start : Nat} :
    StartsKnown side lane
        ((eyeMonitorGet rxEyemonStart side lane, start) :: reads) ↔
      (start = 0 ∨ start = 1) ∧ StartsKnown side lane reads := by
  simp [StartsKnown]

variable {result : EomResult}

theorem Ends.of_unknown (hentries : entriesOf m' = entriesOf m)
    (hunknown : ¬ StartsKnown side lane reads) :
    Ends m m' side lane reads later result :=
  ⟨fun h => absurd h hunknown, fun _ => hentries⟩

/-- Reads in front of a loop. -/
theorem Ends.after {m₁ : ScriptMachine} (htook : Took m m₁ reads)
    (hiff : StartsKnown side lane (reads ++ reads') ↔
      StartsKnown side lane reads')
    (hends : Ends m₁ m' side lane reads' later result) :
    Ends m m' side lane (reads ++ reads') later result := by
  constructor
  · intro hknown
    obtain ⟨hlater, hreads, hentries⟩ := hends.known (hiff.mp hknown)
    refine ⟨hlater, ?_, ?_⟩
    · rw [hreads, htook.reads, List.append_assoc]
    · rw [hentries, htook.entries]
  · intro hunknown
    rw [hends.unknown (mt hiff.mpr hunknown), htook.entries]

/-- The loop of the script on the rounds of ufseom. -/
theorem wp_loop_scanRound {rounds : List History} {final : History}
    (hready : ScriptReady m.mem side) (hlane : lane = 0 ∨ lane = 1)
    (hrounds : ∀ round ∈ rounds, BusyRound side lane targetCount round)
    (hfinal : FinalRound side lane targetCount errors final)
    (hstream : ReadStream later m.replies
      (readsOf (rounds.flatten ++ final))) :
    wp (loop (UFSEOM.scanRound lane timing volt targetCount))
      (fun _ m' => Ends m m' side lane (readsOf (rounds.flatten ++ final))
        later ⟨lane, timing, volt, errors⟩)
      (fun _ _ => False) m := by
  induction rounds generalizing m with
  | nil =>
      rw [loop_unfold (UFSEOM.consumes_scanRound _ _ _ _), wp_bind]
      cases hfinal with
      | stopped hstart hclear htested herrors hhigh =>
          obtain ⟨start, rfl, hx⟩ := hstart.read
          obtain ⟨tested, rfl, hy⟩ := htested.read
          obtain ⟨count, rfl, hz⟩ := herrors.read
          simp only [readsOf, List.flatten_nil, List.nil_append, List.map_cons,
            List.map_nil, hx, hy, hz] at hstream ⊢
          by_cases hzero : start = 0
          · subst hzero
            apply wp_scanRound_zero hready hlane hstream
            intro m₁ h₁ hrest
            have hcount : (tested : Int) ≥ targetCount ∨ count ≥ 60 := by
              omega
            rw [if_pos hcount, wp_pure]
            refine ⟨fun _ => ⟨hrest.replies, ?_, ?_⟩, fun hunknown => ?_⟩
            · rw [scriptReadsOf_note, h₁.reads]
            · rw [entriesOf_note, h₁.entries]
              rfl
            · refine absurd ?_ hunknown
              rw [startsKnown_round hlane]
              exact ⟨.inl rfl, by simp [StartsKnown]⟩
          · apply wp_scanRound_unknown hready hlane hzero
              (ne_one_of_stopped hclear) hstream
            intro m₁ h₁
            rw [wp_pure]
            apply Ends.of_unknown h₁
            rw [startsKnown_round hlane]
            have hone := ne_one_of_stopped hclear
            omega
  | cons round rest ih =>
      rw [List.forall_mem_cons] at hrounds
      rw [loop_unfold (UFSEOM.consumes_scanRound _ _ _ _), wp_bind]
      rw [List.flatten_cons, List.append_assoc, readsOf_append] at hstream ⊢
      cases hrounds.1 with
      | running hstart hset =>
          obtain ⟨start, rfl, hx⟩ := hstart.read
          have hread : readsOf [_] = [_] := congrArg (fun read => [read]) hx
          rw [hread] at hstream ⊢
          by_cases hone : start = 1
          · subst hone
            apply wp_scanRound_one hready hlane hstream
            intro m₁ h₁ hrest
            apply wp_imp (ih (h₁.mem ▸ hready) hrounds.2 hrest)
            intro _ m₂ h₂
            apply h₂.after h₁
            rw [List.singleton_append, startsKnown_cons]
            exact and_iff_right (.inr rfl)
          · apply wp_scanRound_unknown hready hlane (ne_zero_of_running hset)
              hone hstream
            intro m₁ h₁
            rw [wp_pure]
            apply Ends.of_unknown h₁
            rw [List.singleton_append, startsKnown_cons]
            have hzero := ne_zero_of_running hset
            omega
      | short hstart hclear htested herrors hlow hfew =>
          obtain ⟨start, rfl, hx⟩ := hstart.read
          obtain ⟨tested, rfl, hy⟩ := htested.read
          obtain ⟨count, rfl, hz⟩ := herrors.read
          simp only [readsOf, List.map_cons, List.map_nil, hx, hy, hz]
            at hstream ⊢
          by_cases hzero : start = 0
          · subst hzero
            apply wp_scanRound_zero hready hlane hstream
            intro m₁ h₁ hrest
            have hcount : ¬ ((tested : Int) ≥ targetCount ∨ count ≥ 60) := by
              omega
            rw [if_neg hcount]
            apply wp_imp (ih (h₁.mem ▸ hready) hrounds.2 hrest)
            intro _ m₂ h₂
            apply h₂.after h₁
            simp only [List.cons_append, List.nil_append]
            rw [startsKnown_round hlane]
            exact and_iff_right (.inl rfl)
          · apply wp_scanRound_unknown hready hlane hzero
              (ne_one_of_stopped hclear) hstream
            intro m₁ h₁
            rw [wp_pure]
            apply Ends.of_unknown h₁
            simp only [List.cons_append, List.nil_append]
            rw [startsKnown_round hlane]
            have hone := ne_one_of_stopped hclear
            omega

theorem wp_uicSet_takes {lane : Option Int} {index value : Nat}
    {selecDirec : String} {sideOverride : Bool}
    {Q : Unit → ScriptMachine → Prop} {E : Halt → ScriptMachine → Prop}
    (hreplies : m.replies ≠ [])
    (hdone : ∀ m', Took m m' [] → m'.replies = m.replies.tail → Q () m') :
    wp (LsufsCli.uicSet lane index value selecDirec sideOverride) Q E m := by
  rw [LsufsCli.uicSet, wp_bind, wp_get, wp_bind]
  apply wp_call
  · exact fun hnone => absurd hnone hreplies
  · intro r rest hr
    rw [wp_pure]
    apply hdone
    · exact ⟨rfl, entriesOf_call _ _ _, scriptReadsOf_call _ _ _⟩
    · rw [hr]
      rfl

/-- The six sets take six replies, which the script does not look at. -/
theorem wp_configEom_takes {timingConfig voltageConfig : Nat}
    {Q : Unit → ScriptMachine → Prop} {E : Halt → ScriptMachine → Prop}
    (hreplies : 6 ≤ m.replies.length)
    (hdone : ∀ m', Took m m' [] → m'.replies = m.replies.drop 6 → Q () m') :
    wp (UFSEOM.configEom lane timingConfig voltageConfig targetCount) Q E
      m := by
  have hset {lane : Option Int} {index value : Nat} {dir : String}
      {local? : Bool} {m₁ : ScriptMachine} {Q : Unit → ScriptMachine → Prop}
      (k : Nat) (hk : k < 6) (h : Took m m₁ [])
      (hdrop : m₁.replies = m.replies.drop k)
      (hnext : ∀ m₂, Took m m₂ [] → m₂.replies = m.replies.drop (k + 1) →
        Q () m₂) :
      wp (LsufsCli.uicSet lane index value dir local?) Q E m₁ := by
    apply wp_uicSet_takes
    · apply List.ne_nil_of_length_pos
      rw [hdrop, List.length_drop]
      omega
    · intro m₂ h₂ htail
      apply hnext m₂ (h.trans h₂)
      rw [htail, hdrop, List.tail_drop]
  rw [UFSEOM.configEom, wp_bind]
  apply hset 0 (by omega) (.refl m) rfl
  intro m₁ h₁ hdrop₁
  rw [wp_bind]
  apply hset 1 (by omega) h₁ hdrop₁
  intro m₂ h₂ hdrop₂
  rw [wp_bind]
  apply hset 2 (by omega) h₂ hdrop₂
  intro m₃ h₃ hdrop₃
  rw [wp_bind]
  apply hset 3 (by omega) h₃ hdrop₃
  intro m₄ h₄ hdrop₄
  rw [wp_bind]
  apply hset 4 (by omega) h₄ hdrop₄
  intro m₅ h₅ hdrop₅
  exact hset 5 (by omega) h₅ hdrop₅ hdone

/-- For every point, side and target count: on the reads of a call of
`eom_scan` of ufseom that returns `SUCCESS`, the script takes the same reads
and records the same result exactly if every `RX_EYEMON_START` among them was
0 or 1.  Any other value, of which ufseom looks at bit 0 only, makes the script
give up the point without a record. -/
theorem scans_record_same_iff (side : Side) {lane : Int}
    (hlane : lane = 0 ∨ lane = 1) (timing volt targetCount : Int)
    (m : Machine EomGlobals) :
    wp (eomScan side lane timing volt targetCount) (fun ret m' =>
        ret = success → ∃ (errors : Int) (reads : List RegisterRead),
          m'.mem.eomData =
            m.mem.eomData.record ⟨lane, timing, volt, errors⟩ ∧
          scanReadsOf m'.trace = scanReadsOf m.trace ++ reads ∧
          ∀ (s : ScriptMachine) (later : List AdbReply),
            ScriptReady s.mem side → s.mem.targetTestCount = targetCount →
            ReadStream later (s.replies.drop 6) reads →
            (wp (UFSEOM.eomScan lane timing volt) (fun _ s' =>
                s'.replies = later ∧
                scriptReadsOf s' = scriptReadsOf s ++ reads ∧
                entriesOf s' =
                  entriesOf s ++ [.record ⟨lane, timing, volt, errors⟩])
              (fun _ _ => False) s ↔ StartsKnown side lane reads))
      (fun _ _ => True) m := by
  apply wp_imp (wp_eomScan_reads hlane)
  intro ret m₁ h hsuccess
  obtain ⟨errors, rounds, final, hdata, hreads, hrounds, hfinal⟩ := h hsuccess
  refine ⟨errors, _, hdata, hreads, ?_⟩
  rintro s later hready rfl hstream
  apply wp_iff
  rw [UFSEOM.eomScan, wp_bind, wp_get, wp_bind]
  apply wp_configEom_takes
  · by_contra hfew
    have hnone : s.replies.drop 6 = [] := by
      rw [List.drop_eq_nil_iff]
      omega
    rw [hnone] at hstream
    have hempty := hstream.reads_nil
    rw [readsOf_append, List.append_eq_nil_iff] at hempty
    exact hfinal.reads_ne_nil hempty.2
  · intro s₁ h₁ hdrop
    rw [← hdrop] at hstream
    apply wp_imp (wp_loop_scanRound (h₁.mem ▸ hready) hlane hrounds hfinal
      hstream)
    intro _ s₂ h₂
    constructor
    · rintro ⟨-, -, hentries⟩
      by_contra hunknown
      have hsame := h₂.unknown hunknown
      rw [hentries, h₁.entries] at hsame
      simp at hsame
    · intro hknown
      obtain ⟨hlater, htaken, hentries⟩ := h₂.known hknown
      refine ⟨hlater, ?_, ?_⟩
      · rw [htaken, h₁.reads, List.append_nil]
      · rw [hentries, h₁.entries]

/-- What `lsufs` prints for a register of the local side. -/
def registerOutput (name : String) (value : Nat) : AdbReply :=
  { output := lit "local Attribute ID 0x00fc - " ++ lit name ++ lit " = 0x" ++
      showHex value ++ lit "\n" }

def localScript : EomScript :=
  { sideOpt := lit "--local", lsufsPath := lit "/data/lsufs",
    devicePath := lit "/dev/ufs-bsg0", targetTestCount := 0x5D }

/-- The script on the replies of one measurement. -/
def measuringScript (start : Nat) : ScriptMachine :=
  ⟨List.replicate 6 ({} : AdbReply) ++ [registerOutput "RX_EYEMON_Start" start,
    registerOutput "RX_EYEMON_Tested_Count" 0x5D,
    registerOutput "RX_EYEMON_Error_Count" 3], [], localScript⟩

/-- The reads of one measurement. -/
def measuredReads (start : Nat) : List RegisterRead :=
  [(eyeMonitorGet rxEyemonStart .localSide 0, start),
    (eyeMonitorGet rxEyemonTestedCount .localSide 0, 0x5D),
    (eyeMonitorGet rxEyemonErrorCount .localSide 0, 3)]

theorem measuringScript_stream {start : Nat}
    (hshows : Shows (registerOutput "RX_EYEMON_Start" start) start) :
    ReadStream [] ((measuringScript start).replies.drop 6)
      (measuredReads start) := by
  apply ReadStream.cons hshows
  apply ReadStream.cons ⟨rfl, by decide +kernel⟩
  exact ReadStream.cons ⟨rfl, by decide +kernel⟩ .nil

theorem localScript_ready : ScriptReady localScript .localSide :=
  ⟨rfl, by constructor <;> decide +kernel⟩

theorem scans_record_same_first :
    wp (UFSEOM.eomScan 0 1 (-2)) (fun _ s' =>
        s'.replies = [] ∧
        scriptReadsOf s' = scriptReadsOf (measuringScript 0) ++
          measuredReads 0 ∧
        entriesOf s' =
          entriesOf (measuringScript 0) ++ [.record ⟨0, 1, -2, 3⟩])
      (fun _ _ => False) (measuringScript 0) := by
  have hrun := Result.eq_done (r := eomScan .localSide 0 1 (-2) 0x5D
    oneMeasurement) (a := success) (by decide +kernel)
  obtain ⟨errors, reads, hdata, hreads, hsame⟩ := wp_done
    (scans_record_same_iff .localSide (.inl rfl) 1 (-2) 0x5D oneMeasurement)
    hrun rfl
  have herrors : errors = 3 := by
    have hthree : (eomScan .localSide 0 1 (-2) 0x5D
        oneMeasurement).machine.mem.eomData.er = [⟨0, 1, -2, 3⟩] := by
      decide +kernel
    have hrecord (result : EomResult) :
        (oneMeasurement.mem.eomData.record result).er = [result] := rfl
    have her := congrArg EOMData.er hdata
    rw [hthree, hrecord] at her
    exact (congrArg EomResult.errorCnt (List.cons.inj her).1).symm
  have hmeasured : reads = measuredReads 0 := by
    have hall : scanReadsOf (eomScan .localSide 0 1 (-2) 0x5D
        oneMeasurement).machine.trace = measuredReads 0 := by
      decide +kernel
    rw [hall] at hreads
    exact hreads.symm
  subst herrors hmeasured
  apply (hsame (measuringScript 0) [] localScript_ready rfl
    (measuringScript_stream ⟨rfl, by decide +kernel⟩)).mpr
  rw [measuredReads, startsKnown_round (.inl rfl)]
  exact ⟨.inl rfl, by simp [StartsKnown]⟩

/-- A start register with a reserved bit set and bit 0 clear: ufseom logs the
point. -/
def reservedMeasurement : Machine EomGlobals :=
  powerOn (List.replicate 6 (registerReply 0) ++
      [registerReply 2, registerReply 2, registerReply 0x5D, registerReply 3])
    { eomResultCount := 1, eomData := { er := [⟨0, 0, 0, 0⟩] } }

/-- On the same reads the script writes no record. -/
theorem reserved_start_bit_loses_record :
    (eomScan .localSide 0 1 (-2) 0x5D reservedMeasurement).value? =
        some success ∧
      scanReadsOf (eomScan .localSide 0 1 (-2) 0x5D
        reservedMeasurement).machine.trace = measuredReads 2 ∧
      (eomScan .localSide 0 1 (-2) 0x5D
        reservedMeasurement).machine.mem.eomData.results =
          [⟨0, 1, -2, 3⟩] ∧
      ReadStream [] ((measuringScript 2).replies.drop 6) (measuredReads 2) ∧
      ScriptReady (measuringScript 2).mem .localSide ∧
      (measuringScript 2).mem.targetTestCount = 0x5D ∧
      entriesOf (UFSEOM.eomScan 0 1 (-2) (measuringScript 2)).machine = [] := by
  refine ⟨by decide +kernel, by decide +kernel, by decide +kernel, ?_,
    localScript_ready, rfl, by decide +kernel⟩
  exact measuringScript_stream ⟨rfl, by decide +kernel⟩

end UfsTools
