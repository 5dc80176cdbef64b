/-
The loop of the interactive shell: the reading of a line, the statics a line
leaves behind for the next, and the handlers, which are given their arguments.
-/
import UfsTools.ShellWords
import UfsTools.Simulation

namespace UfsTools

open CLib Process

/-! Reading lines. -/

/-- What has been typed and not yet been read, beside the variables of the
program. -/
structure Typed (X : Type) where
  input : Text
  user : X

variable {H X : Type}

abbrev ShellProg (H X α : Type) := Prog (ShellGlobals H (Typed X)) α

def getchar : ShellProg H X Char := do
  let g ← get
  match g.user.input with
  | [] => wait
  | ch :: rest => do
      modify fun g => { g with user := { g.user with input := rest } }
      pure ch

/-- The loop of `shell_read_cmd_line`, with the room left in the buffer. -/
def readChars : Nat → Nat → ShellProg H X Nat
  | 0, idx => pure idx
  | room + 1, idx => do
      let ch ← getchar
      if ch = '\x0d' ∨ ch = '\n' then pure idx
      else
        modify fun g => { g with cmdBuff := g.cmdBuff.set idx ch }
        readChars room (idx + 1)

def shellReadCmdLine : ShellProg H X Nat := do
  modify fun g => { g with cmdBuff := emptyBuff }
  readChars shellMaxCmdLen 0

def shellReadCmd : ShellProg H X Int := do
  let result ← shellReadCmdLine
  if result = 0 then pure 0 else shellInterpretCmdLine

def shellPrintPrompt : ShellProg H X Unit := do
  let g ← get
  note (printf (lit "\n" ++ g.cmdPrompt ++ lit ">"))

variable (handle : H → ShellCmdArgs → ShellProg H X Int)

/-- One round of the loop of `shell_run`. -/
def shellRound : ShellProg H X (Option Int) := do
  shellPrintPrompt
  let result ← shellReadCmd
  if result ≠ 0 then pure (some result)
  else
    let result ← shellProcessCmd handle
    if result ≠ 0 then pure (some result) else pure none

/-- `shell_run`.  A round takes at least one character. -/
def shellRun : ShellProg H X Int := fun m =>
  iterate (shellRound handle) (m.mem.user.input.length + 1) m

/-! Arguments by their values. -/

/-- The value of an argument, whatever is in the buffer now. -/
inductive ArgValue where
  | int (val : Int)
  | char (val : Char)
  | string (text : Text)
deriving DecidableEq

def argValue (buff : Text) : ShellVariant → ArgValue
  | .int val => .int val
  | .char val => .char val
  | .string ptr => .string (cString buff ptr)

def ShellCmdArgs.values (args : ShellCmdArgs) (buff : Text) : List ArgValue :=
  args.argVal.map (argValue buff)

/-- What the shell makes of a word. -/
def wordValue (word : Text) : ArgValue :=
  if isCharacter word then .char (word.headD '\x00')
  else if isNumber word then .int (shellNumber word)
  else .string word

theorem argValue_of_stems {buff word : Text} {val : ShellVariant}
    (h : Stems buff val word) : argValue buff val = wordValue word := by
  obtain ⟨ptr, hword, rfl⟩ := h
  simp only [shellVariant, wordValue, hword]
  split_ifs
  · rfl
  · rfl
  · rw [argValue, hword]

theorem values_of_stems {buff : Text} {vals : List ShellVariant}
    {words : List Text} (h : List.Forall₂ (Stems buff) vals words) :
    (ShellCmdArgs.mk vals).values buff = words.map wordValue := by
  induction h with
  | nil => rfl
  | cons hstems _ ih =>
      simp only [ShellCmdArgs.values, List.map_cons] at ih ⊢
      rw [argValue_of_stems hstems, ih]

/-- Only strings depend on what is in the buffer. -/
theorem values_congr {args : ShellCmdArgs} {buff buff' : Text}
    (h : ∀ text, ArgValue.string text ∉ args.values buff) :
    args.values buff' = args.values buff := by
  rw [ShellCmdArgs.values, ShellCmdArgs.values, List.map_inj_left]
  intro val hval
  cases val with
  | int | char => rfl
  | string ptr =>
      exact absurd (List.mem_map_of_mem hval) (h (cString buff ptr))

/-- A handler of the program's own works on memory of its own; it is given the
values its arguments have when it runs. -/
def onUser {α : Type} (p : Prog X α) : ShellProg H X α :=
  within (fun g => g.user.user)
    (fun g x => { g with user := { g.user with user := x } }) p

def handleOf (act : H → List ArgValue → Prog X Int) :
    H → ShellCmdArgs → ShellProg H X Int := fun h args => do
  let g ← get
  onUser (act h (args.values g.cmdBuff))

/-! The reading of a line. -/

section Reading

variable {Q : Char → Machine (ShellGlobals H (Typed X)) → Prop}
  {E : Halt → Machine (ShellGlobals H (Typed X)) → Prop}
  {m : Machine (ShellGlobals H (Typed X))}

/-- Characters have been read: what is in the buffer and what is left of the
input. -/
def afterRead (m : Machine (ShellGlobals H (Typed X))) (buff more : Text) :
    Machine (ShellGlobals H (Typed X)) :=
  { m with mem := { m.mem with
      cmdBuff := buff
      user := { m.mem.user with input := more } } }

theorem wp_getchar {ch : Char} {rest : Text}
    (hinput : m.mem.user.input = ch :: rest)
    (h : Q ch (afterRead m m.mem.cmdBuff rest)) :
    wp getchar Q E m := by
  rw [getchar, wp_bind, wp_get]
  simp only [hinput, wp_bind, wp_modify, wp_pure]
  exact h

/-- The characters up to the end of the line go into the buffer. -/
theorem readChars_line {line : Text} (hplain : '\x0d' ∉ line ∧ '\n' ∉ line)
    (more : Text) {room : Nat} (hroom : line.length < room) (front : Text)
    (hinput : m.mem.user.input = line ++ '\n' :: more)
    (hbuff : m.mem.cmdBuff = front ++ List.replicate room '\x00') :
    wp (readChars room front.length) (fun idx m' =>
        idx = front.length + line.length ∧
          m' = afterRead m (front ++
            (line ++ List.replicate (room - line.length) '\x00')) more)
      (fun _ _ => False) m := by
  induction line generalizing room front m with
  | nil =>
      obtain ⟨room, rfl⟩ := Nat.exists_eq_succ_of_ne_zero hroom.ne'
      rw [readChars, wp_bind]
      apply wp_getchar hinput
      simp [hbuff, afterRead]
  | cons c line ih =>
      obtain ⟨room, rfl⟩ := Nat.exists_eq_succ_of_ne_zero
        (Nat.ne_zero_of_lt hroom)
      simp only [List.mem_cons, not_or] at hplain
      have hc : ¬ (c = '\x0d' ∨ c = '\n') := by
        rintro (rfl | rfl)
        · exact hplain.1.1 rfl
        · exact hplain.2.1 rfl
      have hset : m.mem.cmdBuff.set front.length c =
          front ++ [c] ++ List.replicate room '\x00' := by
        simp [hbuff, List.replicate_succ]
      rw [readChars, wp_bind]
      apply wp_getchar hinput
      simp only [if_neg hc, wp_bind, wp_modify]
      have hidx : front.length + 1 = (front ++ [c]).length := by simp
      rw [hidx]
      apply wp_imp (ih ⟨hplain.1.2, hplain.2.2⟩ (Nat.lt_of_succ_lt_succ hroom)
        (front ++ [c]) rfl hset)
      rintro idx m' ⟨rfl, rfl⟩
      constructor
      · rw [List.length_cons, ← hidx]
        omega
      · simp [afterRead]

/-- A line that can be typed into the shell: it fits the buffer with a NUL
behind it, and there are no more arguments than the shell accepts. -/
structure ShellLine (line : Text) : Prop where
  plain : '\x0d' ∉ line ∧ '\n' ∉ line
  text : '\x00' ∉ line
  short : line.length < shellMaxCmdLen
  arguments : (lineWords line).tail.length < shellMaxArgs

instance (line : Text) : Decidable (ShellLine line) :=
  decidable_of_iff (('\x0d' ∉ line ∧ '\n' ∉ line) ∧ '\x00' ∉ line ∧
      line.length < shellMaxCmdLen ∧
      (lineWords line).tail.length < shellMaxArgs)
    ⟨fun h => ⟨h.1, h.2.1, h.2.2.1, h.2.2.2⟩,
      fun h => ⟨h.plain, h.text, h.short, h.arguments⟩⟩

/-- What is typed for some lines. -/
def typed (lines : List Text) : Text := lines.flatMap fun line => line ++ ['\n']

theorem ShellLine.wp_shellReadCmdLine {line : Text} (hline : ShellLine line)
    (more : Text) (hinput : m.mem.user.input = line ++ '\n' :: more) :
    wp shellReadCmdLine (fun idx m' => idx = line.length ∧
        m' = afterRead m
          (line ++ nulEnd (shellMaxCmdLen - line.length - 1)) more)
      (fun _ _ => False) m := by
  have hnul : nulEnd (shellMaxCmdLen - line.length - 1) =
      List.replicate (shellMaxCmdLen - line.length) '\x00' := by
    have hshort := hline.short
    rw [nulEnd]
    congr 1
    omega
  have hread := readChars_line hline.plain more hline.short []
    (m := afterRead m emptyBuff m.mem.user.input) hinput rfl
  rw [shellReadCmdLine, wp_bind, wp_modify, hnul]
  apply wp_imp hread
  rintro idx m' ⟨rfl, rfl⟩
  simp [afterRead]

/-- The first character stays in the buffer. -/
theorem interpretLine_head (buff : Text) :
    (interpretLine buff).buff.head? = buff.head? := by
  have htake : (interpretLine buff).buff.take 1 = buff.take 1 := by
    rw [interpretLine]
    cases htok : strtok buff 0 with
    | none => rfl
    | some next =>
        obtain ⟨ptr, buff', pos⟩ := next
        obtain ⟨hless, hfirst⟩ := strtok_take htok
        have hrest := congrArg (List.take 1)
          (interpretWords_take shellMaxArgs buff' pos [])
        rw [List.take_take, List.take_take, Nat.min_eq_left (by omega)] at hrest
        exact hrest.trans hfirst
  have hfirst := congrArg List.head? htake
  simpa [List.head?_take] using hfirst

/-- A line in the buffer as the shell takes it apart. -/
structure TakenApart (line : Text) (buff : Text) (cmd : Option Nat)
    (args : ShellCmdArgs) : Prop where
  cmd : cmd.map (cString buff) = (lineWords line).head?
  args : args.values buff = (lineWords line).tail.map wordValue
  head : buff.head? = line.head?

theorem ShellLine.interpretLine {line : Text} (hline : ShellLine line)
    (hnonempty : line ≠ []) (rest : Text) :
    (interpretLine (line ++ '\x00' :: rest)).ret = 0 ∧
      TakenApart line (interpretLine (line ++ '\x00' :: rest)).buff
        (interpretLine (line ++ '\x00' :: rest)).cmd
        (interpretLine (line ++ '\x00' :: rest)).args := by
  have hhead := interpretLine_head (line ++ '\x00' :: rest)
  rw [List.head?_append_of_ne_nil _ hnonempty] at hhead
  have hargs := hline.arguments
  rcases interpretLine_line hline.text rest with ⟨hwords, hinterpreted⟩ |
    ⟨command, words, buff, ptr, vals, hwords, hinterpreted, hcmd, hstems⟩
  · rw [hinterpreted] at hhead ⊢
    refine ⟨rfl, ⟨?_, ?_, hhead⟩⟩
    · rw [hwords]
      rfl
    · rw [hwords]
      rfl
  · rw [hwords, List.tail_cons] at hargs
    rw [List.take_of_length_le hargs.le] at hstems
    rw [hinterpreted] at hhead ⊢
    refine ⟨if_pos hargs, ⟨?_, ?_, hhead⟩⟩
    · rw [hwords, List.head?_cons, Option.map_some, hcmd]
    · rw [hwords, List.tail_cons]
      exact values_of_stems hstems

end Reading

end UfsTools
