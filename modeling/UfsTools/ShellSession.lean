/-
A session with the shell: what each line runs, told without the buffer, and the
condition on the lines under which the shell does that.
-/
import UfsTools.LsufsDispatch
import UfsTools.ShellLoop

namespace UfsTools

open CLib Process

variable {H X : Type}

/-! What the lines ask for. -/

/-- The line `targs` prints about an argument. -/
def argLine : ArgValue → Text
  | .int val => lit "int : [" ++ showInt val ++ lit "] [hex=" ++
      showHex (UInt32.ofInt val).toNat ++ lit "]\n"
  | .char val => lit "char : [" ++ [val] ++ lit "]\n"
  | .string text => lit "str : [" ++ text ++ lit "]\n"

/-- The handler that ran last with the arguments of its last run, and the
arguments of the last line that was not empty. -/
structure Session (H : Type) where
  last : Option (ShellHandler H × List ArgValue) := none
  lineArgs : List ArgValue := []

section Session

variable (act : H → List ArgValue → Prog X Int) (cmds : List (ShellCmd H))
  (prompt : Text)

/-- A run of a handler. -/
def runChosen : ShellHandler H → List ArgValue → Prog X Int
  | .help, _ => do
      notes (cmds.map fun c =>
        printf (List.replicate (16 - c.cmd.length) ' ' ++ c.cmd ++
          lit " -> " ++ c.helpStr ++ lit "\n"))
      pure 0
  | .exit, _ => pure (-1)
  | .testArgs, values => do
      note (printf (lit "sizeof(struct shell_cmd_args) = [248]\n"))
      note (printf (lit "sizeof(enum variant_type) = [4]\n"))
      note (printf (lit "args count : [" ++ showInt values.length ++
        lit "]\n"))
      notes (values.map fun v => printf (argLine v))
      pure 0
  | .user h, values => act h values

/-- The handler a line asks for, and its arguments. -/
def Session.chosen (s : Session H) (line : Text) :
    Option (ShellHandler H × List ArgValue) :=
  if line = [] then s.last
  else
    match lineWords line with
    | [] => none
    | word :: words => (lookupCmd cmds word).map fun c =>
        (c.cmdHandler, words.map wordValue)

def Session.next (s : Session H) (line : Text) : Session H where
  last := (s.chosen cmds line).or s.last
  lineArgs :=
    if line = [] then s.lineArgs else (lineWords line).tail.map wordValue

def Session.process (s : Session H) (line : Text) : Prog X Int :=
  match s.chosen cmds line with
  | none => pure 0
  | some (handler, values) => runChosen act cmds handler values

def printPrompt : Prog X Unit := note (printf (lit "\n" ++ prompt ++ lit ">"))

def Session.round (s : Session H) (line : Text) : Prog X (Option Int) := do
  printPrompt prompt
  let result ← s.process act cmds line
  if result ≠ 0 then pure (some result) else pure none

/-- The lines are taken one by one until a handler answers: its answer, and the
lines it left.  Behind the last line the session waits for the next. -/
def Session.run : Session H → List Text → Prog X (Int × List Text)
  | _, [] => do
      printPrompt prompt
      wait
  | s, line :: rest => do
      let out ← s.round act cmds prompt line
      match out with
      | some result => pure (result, rest)
      | none => (s.next cmds line).run rest

end Session

/-- With commands to choose from, the line has a word, or it repeats a run whose
arguments are still those of the last line that was not empty, and none of them
is a string. -/
def LineUnharmed (cmds : List (ShellCmd H)) (s : Session H) (line : Text) :
    Prop :=
  cmds = [] ∨ lineWords line ≠ [] ∨
    line = [] ∧ ∃ handler, s.last = some (handler, s.lineArgs) ∧
      ∀ text, ArgValue.string text ∉ s.lineArgs

/-- So are all lines that are taken. -/
def Unharmed (act : H → List ArgValue → Prog X Int) (cmds : List (ShellCmd H))
    (prompt : Text) : Session H → List Text → Machine X → Prop
  | _, [], _ => True
  | s, line :: rest, m =>
      LineUnharmed cmds s line ∧
        wp (s.round act cmds prompt line) (fun out m' => out = none →
          Unharmed act cmds prompt (s.next cmds line) rest m')
          (fun _ _ => True) m

/-! The state between the lines. -/

abbrev ShellMachine (H X : Type) := Machine (ShellGlobals H (Typed X))

/-- The machine as the handlers see it. -/
def own (m : ShellMachine H X) : Machine X := m.part fun g => g.user.user

/-- What the session and the statics have in common at any time. -/
structure Follows (cmds : List (ShellCmd H)) (prompt : Text) (s : Session H)
    (more : Text) (g : ShellGlobals H (Typed X)) : Prop where
  table : g.cmds = cmds
  prompted : g.cmdPrompt = prompt
  last : g.lastCmdHandler = s.last.map Prod.fst
  idle : cmds = [] → s.last = none
  input : g.user.input = more

/-- Between two lines. -/
structure Between (cmds : List (ShellCmd H)) (prompt : Text) (s : Session H)
    (more : Text) (g : ShellGlobals H (Typed X)) : Prop
    extends Follows cmds prompt s more g where
  args : cmds ≠ [] → g.args.values g.cmdBuff = s.lineArgs

/-- The line has been read, and nothing has been run for it yet. -/
structure LineRead (cmds : List (ShellCmd H)) (prompt : Text) (s : Session H)
    (line more : Text) (g : ShellGlobals H (Typed X)) : Prop
    extends Follows cmds prompt s more g where
  apart : line ≠ [] → TakenApart line g.cmdBuff g.cmd g.args
  cleared : line = [] → g.cmdBuff = emptyBuff

/-- The arguments of a line to repeat have their values still. -/
structure LineReady (cmds : List (ShellCmd H)) (prompt : Text) (s : Session H)
    (line more : Text) (g : ShellGlobals H (Typed X)) : Prop
    extends LineRead cmds prompt s line more g where
  kept : line = [] → cmds ≠ [] → g.args.values g.cmdBuff = s.lineArgs

variable {act : H → List ArgValue → Prog X Int} {cmds : List (ShellCmd H)}
  {prompt line more : Text} {s : Session H} {m : ShellMachine H X}

theorem testArgLine_eq (buff : Text) (v : ShellVariant) :
    testArgLine buff v = argLine (argValue buff v) := by
  cases v <;> rfl

/-- A handler runs on the values of its arguments, and leaves the statics of
the shell alone. -/
theorem alike_runHandler (act : H → List ArgValue → Prog X Int)
    (handler : ShellHandler H) (args : ShellCmdArgs) (m : ShellMachine H X) :
    Alike (fun result result' n n' => result = result' ∧ n' = own n ∧
        n.mem = { m.mem with user := { m.mem.user with user := n'.mem } })
      (fun n n' => n' = own n)
      (runHandler (handleOf act) handler args m)
      (runChosen act m.mem.cmds handler (args.values m.mem.cmdBuff)
        (own m)) := by
  cases handler with
  | help => exact ⟨rfl, rfl, rfl⟩
  | exit => exact ⟨rfl, rfl, rfl⟩
  | testArgs =>
      have hlines :
          args.argVal.map (fun v => printf (testArgLine m.mem.cmdBuff v)) =
            (args.values m.mem.cmdBuff).map fun v => printf (argLine v) := by
        simp [ShellCmdArgs.values, testArgLine_eq]
      have hcount :
          args.argVal.length = (args.values m.mem.cmdBuff).length := by
        simp [ShellCmdArgs.values]
      rw [runChosen, ← hlines, ← hcount]
      exact ⟨rfl, rfl, rfl⟩
  | user h =>
      have hwithin := alike_within
        (fun g : ShellGlobals H (Typed X) => g.user.user)
        (fun g x => { g with user := { g.user with user := x } })
        (act h (args.values m.mem.cmdBuff)) m
      apply hwithin.mono
      · rintro result result' n n' ⟨rfl, rfl⟩
        exact ⟨rfl, rfl, rfl⟩
      · rintro n n' rfl
        rfl

/-- Reading characters leaves the rest of the statics alone. -/
theorem Follows.afterRead {input buff : Text}
    (h : Follows cmds prompt s input m.mem) :
    Follows cmds prompt s more (afterRead m buff more).mem where
  table := h.table
  prompted := h.prompted
  last := h.last
  idle := h.idle
  input := rfl

theorem ShellLine.wp_shellReadCmd (hline : ShellLine line)
    (hfollows : Follows cmds prompt s (line ++ '\n' :: more) m.mem) :
    wp shellReadCmd (fun result m' => result = 0 ∧ own m' = own m ∧
        LineRead cmds prompt s line more m'.mem ∧
        (line = [] → m'.mem.args = m.mem.args)) (fun _ _ => False) m := by
  rw [shellReadCmd, wp_bind]
  apply wp_imp (hline.wp_shellReadCmdLine more hfollows.input)
  rintro idx m' ⟨rfl, rfl⟩
  by_cases hempty : line = []
  · subst hempty
    rw [List.length_nil, if_pos rfl, wp_pure]
    refine ⟨rfl, rfl, ⟨hfollows.afterRead, ?_, fun _ => rfl⟩, fun _ => rfl⟩
    exact fun h => absurd rfl h
  · have hcount : line.length ≠ 0 := by simpa using hempty
    have hnul : '\x00' ∈ (afterRead m (line ++
        nulEnd (shellMaxCmdLen - line.length - 1)) more).mem.cmdBuff := by
      simp [afterRead, nulEnd]
    rw [if_neg hcount, shellInterpretCmdLine, wp_bind, wp_get,
      if_neg (not_not_intro hnul)]
    simp only [wp_bind, wp_modify, wp_pure]
    obtain ⟨hret, hapart⟩ := hline.interpretLine hempty
      (List.replicate (shellMaxCmdLen - line.length - 1) '\x00')
    refine ⟨hret, rfl, ⟨⟨hfollows.table, hfollows.prompted, hfollows.last,
      hfollows.idle, rfl⟩, fun _ => hapart, ?_⟩, ?_⟩
    · exact fun h => absurd h hempty
    · exact fun h => absurd h hempty

/-- Without strings the arguments outlive the buffer. -/
theorem Between.values_eq {g : ShellGlobals H (Typed X)}
    (hbetween : Between cmds prompt s more g) (hcmds : cmds ≠ [])
    (hstrings : ∀ text, ArgValue.string text ∉ s.lineArgs) (buff : Text) :
    g.args.values buff = s.lineArgs := by
  rw [← hbetween.args hcmds] at hstrings ⊢
  exact values_congr hstrings

theorem ShellLine.wp_ready (hline : ShellLine line)
    (hbetween : Between cmds prompt s (line ++ '\n' :: more) m.mem)
    (hunharmed : LineUnharmed cmds s line) :
    wp shellReadCmd (fun result m' => result = 0 ∧ own m' = own m ∧
        LineReady cmds prompt s line more m'.mem) (fun _ _ => False) m := by
  apply wp_imp (hline.wp_shellReadCmd hbetween.toFollows)
  rintro result m' ⟨hresult, hown, hread, hargs⟩
  refine ⟨hresult, hown, hread, ?_⟩
  intro hempty hcmds
  rcases hunharmed with hnone | hword | ⟨-, handler, -, hstrings⟩
  · exact absurd hnone hcmds
  · exact absurd (hempty ▸ lineWords_nil) hword
  · rw [hargs hempty]
    exact hbetween.values_eq hcmds hstrings _

/-! What is run for a line. -/

theorem shellDispatch_nothing (handle : H → ShellCmdArgs → ShellProg H X Int)
    (hcmds : m.mem.cmds = []) : shellDispatch handle m = .done 0 m := by
  rw [shellDispatch, get_bind, hcmds]
  cases m.mem.cmd with
  | none => exact congrFun (if_pos rfl) m
  | some ptr => rfl

theorem Session.chosen_nil (hidle : s.last = none) (line : Text) :
    s.chosen [] line = none := by
  rw [Session.chosen]
  split_ifs
  · exact hidle
  · cases lineWords line <;> rfl

theorem TakenApart.not_repeats (hline : ShellLine line) (hnonempty : line ≠ [])
    {g : ShellGlobals H (Typed X)}
    (h : TakenApart line g.cmdBuff g.cmd g.args) : ¬ Repeats g := by
  obtain ⟨c, line, rfl⟩ := List.exists_cons_of_ne_nil hnonempty
  rintro ⟨hhead, -⟩
  rw [h.head, List.head?_cons] at hhead
  exact hline.text (by simp [Option.some.inj hhead])

/-- Where the commands are compared with `shell_cmd`, it leads to the first word
of the line. -/
def CmdFresh (line : Text) (g : ShellGlobals H X) : Prop :=
  g.cmds ≠ [] → ¬ Repeats g → ∃ ptr, g.cmd = some ptr ∧
    (lineWords line).head? = some (cString g.cmdBuff ptr)

theorem LineRead.fresh {g : ShellGlobals H (Typed X)}
    (hread : LineRead cmds prompt s line more g)
    (hunharmed : LineUnharmed cmds s line) : CmdFresh line g := by
  intro hcmds hcompared
  rcases hunharmed with hnone | hword | ⟨hempty, handler, hlast, -⟩
  · exact absurd (hread.table.trans hnone) hcmds
  · have hnonempty : line ≠ [] := by
      rintro rfl
      exact hword lineWords_nil
    obtain ⟨word, words, hwords⟩ := List.exists_cons_of_ne_nil hword
    have hcmd := (hread.apart hnonempty).cmd
    rw [hwords, List.head?_cons, Option.map_eq_some_iff] at hcmd
    obtain ⟨ptr, hptr, hstring⟩ := hcmd
    exact ⟨ptr, hptr, by rw [hwords, hstring, List.head?_cons]⟩
  · have hhandler : g.lastCmdHandler ≠ none := by simp [hread.last, hlast]
    exact absurd ⟨by rw [hread.cleared hempty]; rfl, hhandler⟩ hcompared

/-- What the shell runs for a line is what the session chooses. -/
theorem LineReady.process_cases
    (handle : H → ShellCmdArgs → ShellProg H X Int) (hline : ShellLine line)
    (hread : LineReady cmds prompt s line more m.mem)
    (hunharmed : LineUnharmed cmds s line) :
    s.chosen cmds line = none ∧ shellProcessCmd handle m = .done 0 m ∨
      ∃ handler, s.chosen cmds line =
          some (handler, m.mem.args.values m.mem.cmdBuff) ∧
        (m.mem.lastCmdHandler = some handler ∧
            shellProcessCmd handle m =
              runHandler handle handler m.mem.args m ∨
          shellProcessCmd handle m = (do
            let result ← runHandler handle handler m.mem.args
            modify fun g => { g with lastCmdHandler := some handler }
            pure result) m) := by
  have htable := hread.table
  by_cases hcmds : cmds = []
  · subst hcmds
    have hlast := hread.last
    rw [hread.idle rfl] at hlast
    refine .inl ⟨Session.chosen_nil (hread.idle rfl) line, ?_⟩
    rw [shellProcessCmd_compare handle fun h => h.2 hlast]
    exact shellDispatch_nothing handle htable
  by_cases hempty : line = []
  · rcases hunharmed with hnone | hword | ⟨-, handler, hlast, -⟩
    · exact absurd hnone hcmds
    · exact absurd (hempty ▸ lineWords_nil) hword
    have hhandler := hread.last
    rw [hlast, Option.map_some] at hhandler
    refine .inr ⟨handler, ?_, .inl ⟨hhandler, ?_⟩⟩
    · rw [Session.chosen, if_pos hempty, hlast, hread.kept hempty hcmds]
    · have hhead : m.mem.cmdBuff.head? = some '\x00' := by
        rw [hread.cleared hempty]
        rfl
      exact shellProcessCmd_repeat handle hhead hhandler
  · have hapart := hread.apart hempty
    rw [shellProcessCmd_compare handle (hapart.not_repeats hline hempty),
      Session.chosen, if_neg hempty]
    obtain ⟨ptr, hcmd, hhead⟩ := hread.fresh hunharmed (htable ▸ hcmds)
      (hapart.not_repeats hline hempty)
    obtain ⟨words, hwords⟩ := List.head?_eq_some_iff.mp hhead
    rw [shellDispatch, get_bind, hcmd, hwords]
    simp only [htable]
    cases hlookup : lookupCmd cmds (cString m.mem.cmdBuff ptr) with
    | none => exact .inl ⟨rfl, rfl⟩
    | some c =>
        refine .inr ⟨c.cmdHandler, ?_, .inr rfl⟩
        rw [hapart.args, hwords]
        rfl

/-- Behind the run for a line the shell waits for the next. -/
theorem LineReady.between {g : ShellGlobals H (Typed X)}
    (hread : LineReady cmds prompt s line more g)
    {handler : Option (ShellHandler H)} {x : X}
    (hlast : handler = (s.next cmds line).last.map Prod.fst) :
    Between cmds prompt (s.next cmds line) more { g with
      lastCmdHandler := handler, user := { g.user with user := x } } := by
  refine ⟨⟨hread.table, hread.prompted, hlast, ?_, hread.input⟩, ?_⟩
  · rintro rfl
    rw [Session.next, Session.chosen_nil (hread.idle rfl)]
    exact hread.idle rfl
  · intro hcmds
    rw [Session.next]
    split_ifs with hempty
    · exact hread.kept hempty hcmds
    · exact (hread.apart hempty).args

/-- A line is processed as the session says. -/
theorem LineReady.alike_process (hline : ShellLine line)
    (hread : LineReady cmds prompt s line more m.mem)
    (hunharmed : LineUnharmed cmds s line) :
    Alike (fun result result' n n' => result = result' ∧ n' = own n ∧
        Between cmds prompt (s.next cmds line) more n.mem)
      (fun n n' => n' = own n)
      (shellProcessCmd (handleOf act) m) (s.process act cmds line (own m)) := by
  rw [Session.process]
  rcases hread.process_cases (handleOf act) hline hunharmed with
    ⟨hchosen, hrun⟩ | ⟨handler, hchosen, hrun⟩
  · rw [hchosen, hrun]
    refine ⟨rfl, rfl, hread.between ?_⟩
    rw [Session.next, hchosen]
    exact hread.last
  · have hnext : some handler = (s.next cmds line).last.map Prod.fst := by
      rw [Session.next, hchosen]
      rfl
    have halike := alike_runHandler act handler m.mem.args m
    rw [hread.table] at halike
    rw [hchosen]
    rcases hrun with ⟨hlast, hrun⟩ | hrun
    · rw [hrun]
      apply halike.mono
      · rintro result result' n n' ⟨rfl, rfl, hmem⟩
        refine ⟨rfl, rfl, ?_⟩
        rw [hmem]
        exact hread.between (hlast.trans hnext)
      · exact fun n n' h => h
    · rw [hrun]
      apply halike.bind_left
      rintro result result' n n' ⟨rfl, rfl, hmem⟩
      refine ⟨rfl, rfl, ?_⟩
      rw [hmem]
      exact hread.between hnext

theorem alike_prompt (hprompted : m.mem.cmdPrompt = prompt) :
    Alike (fun _ _ n n' => n' = own n ∧ n.mem = m.mem)
      (fun n n' => n' = own n) (shellPrintPrompt m)
      (printPrompt prompt (own m)) := by
  rw [shellPrintPrompt, get_bind, hprompted]
  exact ⟨rfl, rfl⟩

/-- A round takes the next line off, and does for it what the session says. -/
theorem ShellLine.alike_round (hline : ShellLine line)
    (hbetween : Between cmds prompt s (line ++ '\n' :: more) m.mem)
    (hunharmed : LineUnharmed cmds s line) :
    Alike (fun out out' n n' => out = out' ∧ n' = own n ∧
        Between cmds prompt (s.next cmds line) more n.mem)
      (fun n n' => n' = own n)
      (shellRound (handleOf act) m) (s.round act cmds prompt line (own m)) := by
  rw [shellRound, Session.round]
  apply (alike_prompt hbetween.prompted).bind
  rintro - - n - ⟨rfl, hmem⟩
  rw [← hmem] at hbetween
  obtain ⟨result, n', hrun, rfl, hown, hread⟩ :=
    wp_returns (hline.wp_ready hbetween hunharmed)
  rw [bind_done hrun, ← hown]
  apply (hread.alike_process hline hunharmed).bind
  rintro result - n - ⟨rfl, rfl, hnext⟩
  by_cases hresult : result ≠ 0
  · simp only [if_pos hresult]
    exact ⟨rfl, rfl, hnext⟩
  · simp only [if_neg hresult]
    exact ⟨rfl, rfl, hnext⟩

theorem typed_cons (line : Text) (rest : List Text) :
    typed (line :: rest) = line ++ '\n' :: typed rest := by
  simp [typed]

theorem shellReadCmd_wait (hinput : m.mem.user.input = []) :
    shellReadCmd m = .halt .waiting
      { m with mem := { m.mem with cmdBuff := emptyBuff } } := by
  have hchar : ∀ n : ShellMachine H X, n.mem.user.input = [] →
      getchar n = .halt .waiting n := by
    intro n hn
    rw [getchar, get_bind, hn]
    rfl
  rw [shellReadCmd]
  apply bind_halt
  rw [shellReadCmdLine, modify_bind]
  exact bind_halt (hchar _ hinput)

/-- Behind the last line the shell waits as the session does. -/
theorem Between.alike_wait (hbetween : Between cmds prompt s [] m.mem) :
    Alike (fun (_ : Option Int) (_ : Int × List Text) _ _ => False)
      (fun n n' => n' = own n) (shellRound (handleOf act) m)
      (s.run act cmds prompt [] (own m)) := by
  rw [shellRound, Session.run]
  apply (alike_prompt hbetween.prompted).bind
  rintro - - n - ⟨rfl, hmem⟩
  have hinput : n.mem.user.input = [] := by rw [hmem, hbetween.input]
  rw [bind_halt (shellReadCmd_wait hinput)]
  exact ⟨rfl, rfl⟩

/-- A line is taken, and the lines behind it are left. -/
theorem ShellLine.alike_next {rest : List Text} (hline : ShellLine line)
    (hbetween : Between cmds prompt s (typed (line :: rest)) m.mem)
    (hunharmed : Unharmed act cmds prompt s (line :: rest) (own m)) :
    Alike (fun out out' n n' => out = out' ∧ n' = own n ∧
        Between cmds prompt (s.next cmds line) (typed rest) n.mem ∧
        (out = none →
          Unharmed act cmds prompt (s.next cmds line) rest (own n)))
      (fun n n' => n' = own n)
      (shellRound (handleOf act) m) (s.round act cmds prompt line (own m)) := by
  rw [typed_cons] at hbetween
  apply ((hline.alike_round hbetween hunharmed.1).and_wp hunharmed.2).mono
  · rintro out out' n n' ⟨⟨rfl, rfl, hnext⟩, hrest⟩
    exact ⟨rfl, rfl, hnext, hrest⟩
  · exact fun n n' h => h

/-- The loop runs the handlers that the session runs. -/
theorem Between.alike_run {lines : List Text}
    (hlines : ∀ line ∈ lines, ShellLine line)
    (hbetween : Between cmds prompt s (typed lines) m.mem)
    (hunharmed : Unharmed act cmds prompt s lines (own m)) {n : Nat}
    (hn : lines.length < n) :
    Alike (fun result out n n' => n' = own n ∧ result = out.1 ∧
        n.mem.user.input = typed out.2)
      (fun n n' => n' = own n) (iterate (shellRound (handleOf act)) n m)
      (s.run act cmds prompt lines (own m)) := by
  induction lines generalizing s n m with
  | nil =>
      obtain ⟨n, rfl⟩ := Nat.exists_eq_succ_of_ne_zero (Nat.ne_zero_of_lt hn)
      rw [Nat.succ_eq_add_one, iterate_succ]
      apply hbetween.alike_wait.bind_left
      exact fun _ _ _ _ h => h.elim
  | cons line rest ih =>
      obtain ⟨n, rfl⟩ := Nat.exists_eq_succ_of_ne_zero (Nat.ne_zero_of_lt hn)
      rw [List.forall_mem_cons] at hlines
      rw [Nat.succ_eq_add_one, iterate_succ, Session.run]
      apply (hlines.1.alike_next hbetween hunharmed).bind
      rintro out out' m' n' ⟨rfl, rfl, hnext, hrest⟩
      cases out with
      | some result => exact ⟨rfl, rfl, hnext.input⟩
      | none =>
          exact ih hlines.2 hnext (hrest rfl) (Nat.lt_of_succ_lt_succ hn)

/-- After its first rounds the shell is where the session is. -/
theorem Between.wp_rounds {taken rest : List Text}
    (hlines : ∀ line ∈ taken, ShellLine line)
    (hbetween : Between cmds prompt s (typed (taken ++ rest)) m.mem)
    (hunharmed : Unharmed act cmds prompt s (taken ++ rest) (own m)) :
    wp (rounds (shellRound (handleOf act)) taken.length) (fun out m' =>
        out = none → ∃ s, Between cmds prompt s (typed rest) m'.mem ∧
          Unharmed act cmds prompt s rest (own m'))
      (fun _ _ => True) m := by
  induction taken generalizing s m with
  | nil =>
      rw [List.length_nil, rounds, wp_pure]
      exact fun _ => ⟨s, hbetween, hunharmed⟩
  | cons line taken ih =>
      rw [List.forall_mem_cons] at hlines
      rw [List.length_cons, rounds, wp_bind]
      apply wp_imp (hlines.1.alike_next hbetween hunharmed).wp
      rintro out n ⟨out', n', -, rfl, -, hnext, hrest⟩
      cases out with
      | some result =>
          simp only [wp_pure]
          exact fun h => absurd h (Option.some_ne_none result)
      | none => exact ih hlines.2 hnext (hrest rfl)

/-! What goes wrong with the other lines. -/

/-- No argument is the empty string. -/
def Session.Worded (s : Session H) : Prop :=
  .string [] ∉ s.lineArgs ∧ ∀ last ∈ s.last, .string [] ∉ last.2

theorem string_nil_not_mem (line : Text) :
    .string [] ∉ (lineWords line).tail.map wordValue := by
  rw [List.mem_map]
  rintro ⟨word, hword, hvalue⟩
  have hnonempty : word ≠ [] := by
    have hmem := List.mem_of_mem_tail hword
    rw [lineWords, List.mem_filter] at hmem
    simpa using hmem.2
  rw [wordValue] at hvalue
  split_ifs at hvalue
  exact hnonempty (ArgValue.string.inj hvalue)

theorem Session.Worded.next (h : s.Worded) (line : Text) :
    (s.next cmds line).Worded := by
  have hwords := string_nil_not_mem line
  constructor
  · rw [Session.next]
    split_ifs
    · exact h.1
    · exact hwords
  · have hchosen : ∀ last ∈ s.chosen cmds line, .string [] ∉ last.2 := by
      rw [Session.chosen]
      split_ifs with hempty
      · exact h.2
      · cases hline : lineWords line with
        | nil => simp
        | cons word words =>
            rw [hline, List.tail_cons] at hwords
            intro last hlast
            obtain ⟨c, -, rfl⟩ := Option.map_eq_some_iff.mp hlast
            exact hwords
    intro last hlast
    rcases Option.or_eq_some_iff.mp hlast with hnow | ⟨-, hbefore⟩
    · exact hchosen last hnow
    · exact h.2 last hbefore

/-- A string has become empty once the buffer has been cleared. -/
theorem string_nil_mem {args : ShellCmdArgs} {buff text : Text}
    (h : .string text ∈ args.values buff) :
    .string [] ∈ args.values emptyBuff := by
  rw [ShellCmdArgs.values, List.mem_map] at h ⊢
  obtain ⟨val, hval, hvalue⟩ := h
  refine ⟨val, hval, ?_⟩
  cases val with
  | int | char => cases hvalue
  | string ptr =>
      have hcleared : cString emptyBuff ptr = [] := by
        rw [cString, emptyBuff, List.drop_replicate]
        cases shellMaxCmdLen - ptr <;> rfl
      rw [argValue, hcleared]

/-- A line that is not unharmed is compared with a NULL or an earlier word, or
it repeats a run with other arguments. -/
theorem ShellLine.harmed (hline : ShellLine line) (hworded : s.Worded)
    (hbetween : Between cmds prompt s (line ++ '\n' :: more) m.mem)
    (hharmed : ¬ LineUnharmed cmds s line) :
    wp shellReadCmd (fun _ m' => ¬ CmdFresh line m'.mem ∨
        ∃ handler values, Repeats m'.mem ∧ s.last = some (handler, values) ∧
          m'.mem.args.values m'.mem.cmdBuff ≠ values)
      (fun _ _ => False) m := by
  simp only [LineUnharmed, not_or, not_and, not_exists] at hharmed
  obtain ⟨hcmds, hword, hrepeat⟩ := hharmed
  rw [not_not] at hword
  apply wp_imp (hline.wp_shellReadCmd hbetween.toFollows)
  rintro result m' ⟨-, -, hread, hargs⟩
  have htable : m'.mem.cmds ≠ [] := fun h => hcmds (hread.table.symm.trans h)
  by_cases hempty : line = []
  · cases hlast : s.last with
    | none =>
        left
        intro hfresh
        have hhandler : ¬ Repeats m'.mem :=
          fun h => h.2 (by simp [hread.last, hlast])
        obtain ⟨ptr, -, hhead⟩ := hfresh htable hhandler
        simp [hword] at hhead
    | some last =>
        right
        obtain ⟨handler, values⟩ := last
        refine ⟨handler, values, ⟨?_, ?_⟩, rfl, ?_⟩
        · rw [hread.cleared hempty]
          rfl
        · simp [hread.last, hlast]
        · rw [hread.cleared hempty, hargs hempty]
          rintro rfl
          have hstrings : ∀ text, ArgValue.string text ∉ s.lineArgs := by
            intro text htext
            rw [← hbetween.args hcmds] at htext
            exact hworded.2 _ hlast (string_nil_mem htext)
          rw [hbetween.values_eq hcmds hstrings] at hlast
          exact hrepeat hempty handler hlast hstrings
  · left
    intro hfresh
    have hapart := hread.apart hempty
    obtain ⟨ptr, -, hhead⟩ := hfresh htable (hapart.not_repeats hline hempty)
    simp [hword] at hhead

/-! A whole session. -/

/-- The shell as it is started, with some lines typed into it. -/
def shellStart (cmds : List (ShellCmd H)) (prompt : Text) (lines : List Text)
    (replies : List SysReply) (x : X) : ShellMachine H X :=
  powerOn replies
    { cmds := cmds, cmdPrompt := prompt, user := ⟨typed lines, x⟩ }

/-- The lines run the handlers the session runs for them, with its arguments,
and up to its end; `shell_cmd` is the line's own first word wherever it is
compared. -/
structure RunsSession (act : H → List ArgValue → Prog X Int)
    (cmds : List (ShellCmd H)) (prompt : Text) (lines : List Text)
    (m : ShellMachine H X) : Prop where
  run : Alike (fun result out n n' => n' = own n ∧ result = out.1 ∧
      n.mem.user.input = typed out.2)
    (fun n n' => n' = own n) (shellRun (handleOf act) m)
    (Session.run act cmds prompt {} lines (own m))
  fresh : ∀ taken line rest, lines = taken ++ line :: rest →
    wp (rounds (shellRound (handleOf act)) taken.length) (fun out m' =>
        out = none → wp (do shellPrintPrompt; shellReadCmd)
          (fun _ m'' => CmdFresh line m''.mem) (fun _ _ => False) m')
      (fun _ _ => True) m

theorem length_lt_typed (lines : List Text) :
    lines.length < (typed lines).length + 1 := by
  induction lines with
  | nil => simp [typed]
  | cons line rest ih =>
      rw [typed_cons, List.length_append, List.length_cons, List.length_cons]
      omega

theorem between_start (cmds : List (ShellCmd H)) (prompt : Text)
    (lines : List Text) (replies : List SysReply) (x : X) :
    Between cmds prompt {} (typed lines)
      (shellStart cmds prompt lines replies x).mem :=
  ⟨⟨rfl, rfl, rfl, fun _ => rfl, rfl⟩, fun _ => rfl⟩

/-- A session whose lines all have a word in them, or repeat a run with the
arguments it had, goes as it is meant to. -/
theorem shell_run_runsSession (act : H → List ArgValue → Prog X Int)
    (cmds : List (ShellCmd H)) (prompt : Text) {lines : List Text}
    (hlines : ∀ line ∈ lines, ShellLine line) (replies : List SysReply) (x : X)
    (hunharmed : Unharmed act cmds prompt {} lines (powerOn replies x)) :
    RunsSession act cmds prompt lines
      (shellStart cmds prompt lines replies x) := by
  have hstart := between_start cmds prompt lines replies x
  constructor
  · exact hstart.alike_run hlines hunharmed (length_lt_typed lines)
  · rintro taken line rest rfl
    rw [List.forall_mem_append, List.forall_mem_cons] at hlines
    apply wp_imp (hstart.wp_rounds hlines.1 hunharmed)
    intro out m' hreached hout
    obtain ⟨s, hbetween, hline, -⟩ := hreached hout
    rw [typed_cons] at hbetween
    rw [wp_bind, shellPrintPrompt, wp_bind, wp_get, wp_note]
    have hprinted := fun trace => hlines.2.1.wp_ready
      (m := { m' with trace := trace }) hbetween hline
    apply wp_imp (hprinted _)
    rintro result m'' ⟨-, -, hread⟩
    exact hread.fresh hline

/-- Handlers that do nothing. -/
def idleAct : OperationType → List ArgValue → Prog Unit Int :=
  fun _ _ => pure 0

def repeatedTest : List Text := [lit "targs 5", [], lit "exit"]

theorem shell_run_runsSession_repeated : RunsSession idleAct lsufsCmds
    (lit "rshell") repeatedTest
    (shellStart lsufsCmds (lit "rshell") repeatedTest [] ()) := by
  have hargs : (Session.next lsufsCmds {} (lit "targs 5")).lineArgs =
      [.int 5] := by decide +kernel
  apply shell_run_runsSession
  · decide +kernel
  · refine ⟨.inr (.inl (by decide +kernel)), wp_imp (wp_trivial _) ?_⟩
    rintro _ _ - -
    refine ⟨.inr (.inr ⟨rfl, .testArgs, by decide +kernel, ?_⟩),
      wp_imp (wp_trivial _) ?_⟩
    · simp [hargs]
    rintro _ _ - -
    exact ⟨.inr (.inl (by decide +kernel)), wp_imp (wp_trivial _)
      fun _ _ _ _ => trivial⟩

/-- The first line is empty, and the commands are compared with NULL. -/
theorem empty_first_line_faults :
    ¬ ∀ (act : OperationType → List ArgValue → Prog Unit Int)
        (cmds : List (ShellCmd OperationType)) (prompt : Text)
        (lines : List Text), (∀ line ∈ lines, ShellLine line) →
      ∀ replies x, RunsSession act cmds prompt lines
        (shellStart cmds prompt lines replies x) := by
  intro h
  have hrun := (h idleAct lsufsCmds (lit "rshell") [[]] (by decide +kernel) []
    ()).run
  have hwhy : Halt.fault = Halt.waiting := hrun.1
  contradiction

end UfsTools
