/-
Joining the arguments and cutting the line into words again: which arguments
come back, and how many of them the shell accepts.
-/
import UfsTools.ShellBuffer

namespace UfsTools

open CLib Process

/-- The stored argument is what the shell makes of the word, which is where a
pointer into the buffer leads. -/
def Stems (buff : Text) (val : ShellVariant) (word : Text) : Prop :=
  ∃ ptr, cString buff ptr = word ∧ val = shellVariant buff ptr

/-! The words of a line. -/

/-- What lies between the blanks. -/
def lineWords (line : Text) : List Text :=
  (line.splitOn ' ').filter (· ≠ [])

theorem lineWords_nil : lineWords [] = [] := by decide

theorem lineWords_blank (line : Text) :
    lineWords (' ' :: line) = lineWords line := by
  simp [lineWords, List.splitOn_cons_eq_if_modifyHead]

theorem lineWords_blanks (n : Nat) (line : Text) :
    lineWords (List.replicate n ' ' ++ line) = lineWords line := by
  induction n with
  | zero => rfl
  | succ n ih =>
      rw [List.replicate_succ, List.cons_append, lineWords_blank, ih]

theorem Word.not_mem_blank {word : Text} (h : Word word) : ' ' ∉ word :=
  fun hmem => (h.plain _ hmem).1 rfl

theorem lineWords_word {word : Text} (h : Word word) :
    lineWords word = [word] := by
  rw [lineWords, List.splitOn_eq_singleton h.not_mem_blank]
  simp [h.nonempty]

theorem lineWords_cons {word : Text} (h : Word word) (line : Text) :
    lineWords (word ++ ' ' :: line) = word :: lineWords line := by
  rw [lineWords, List.splitOn_append_cons_self_of_not_mem h.not_mem_blank,
    List.filter_cons_of_pos]
  · rfl
  · simp [h.nonempty]

/-- Behind its leading blanks a line is empty, or it begins with a word. -/
theorem line_cases {line : Text} (hnul : '\x00' ∉ line) :
    ∃ n tail, line = List.replicate n ' ' ++ tail ∧
      (tail = [] ∨ Word tail ∨ ∃ word line', Word word ∧ '\x00' ∉ line' ∧
        tail = word ++ ' ' :: line') := by
  induction line with
  | nil => exact ⟨0, [], rfl, .inl rfl⟩
  | cons c line ih =>
      rw [List.mem_cons, not_or] at hnul
      obtain ⟨n, tail, rfl, htail⟩ := ih hnul.2
      by_cases hc : c = ' '
      · subst hc
        exact ⟨n + 1, tail, rfl, htail⟩
      · refine ⟨0, c :: (List.replicate n ' ' ++ tail), rfl, .inr ?_⟩
        have hfirst : Word [c] := by
          constructor
          · simp
          · simp [hc, Ne.symm hnul.1]
        have hlonger : ∀ {word}, Word word → Word (c :: word) := by
          intro word hword
          constructor
          · simp
          · intro d hd
            rcases List.mem_cons.mp hd with rfl | hd
            · exact hfirst.plain _ List.mem_cons_self
            · exact hword.plain d hd
        cases n with
        | succ n =>
            refine .inr ⟨[c], List.replicate n ' ' ++ tail, hfirst, ?_, rfl⟩
            simpa [List.replicate_succ] using hnul.2
        | zero =>
            rcases htail with rfl | hword | ⟨word, line', hword, hline', rfl⟩
            · exact .inl hfirst
            · exact .inl (hlonger hword)
            · exact .inr ⟨c :: word, line', hlonger hword, hline', rfl⟩

/-- What lies between the blanks can be cut off by `strtok`. -/
theorem word_of_mem_lineWords {line : Text} (hnul : '\x00' ∉ line) :
    ∀ word ∈ lineWords line, Word word := by
  induction hlength : line.length using Nat.strong_induction_on
    generalizing line with
  | h length ih =>
      obtain ⟨n, tail, rfl, htail⟩ := line_cases hnul
      rw [lineWords_blanks]
      rcases htail with rfl | hword | ⟨word, line', hword, hline', rfl⟩
      · simp [lineWords_nil]
      · rw [lineWords_word hword, List.forall_mem_singleton]
        exact hword
      · have hshort : line'.length < length := by
          simp only [← hlength, List.length_append, List.length_cons]
          omega
        rw [lineWords_cons hword, List.forall_mem_cons]
        exact ⟨hword, ih _ hshort hline' rfl⟩

theorem strtok_blanks (front text : Text) (n : Nat) :
    strtok (front ++ (List.replicate n ' ' ++ text)) front.length =
      strtok (front ++ List.replicate n ' ' ++ text)
        (front ++ List.replicate n ' ').length := by
  have hskip : (List.replicate n ' ' ++ text).takeWhile (· = ' ') =
      List.replicate n ' ' ++ text.takeWhile (· = ' ') := by
    rw [List.takeWhile_append_of_pos]
    simp
  have hstart : front.length +
        ((List.replicate n ' ' ++ text).takeWhile (· = ' ')).length =
      (front ++ List.replicate n ' ').length +
        (text.takeWhile (· = ' ')).length := by
    simp [hskip, Nat.add_assoc]
  simp only [strtok, List.drop_left, hstart]
  simp only [List.append_assoc]

theorem strtok_nul (front rest : Text) :
    strtok (front ++ '\x00' :: rest) front.length = none := by
  simp [strtok]

/-- The next word of a line comes off: it lies behind `skip`, a NUL ends it, and
the rest of the line is behind `front`. -/
structure TakenOff (buff : Text) (pos : Nat) (skip word front buff' : Text) :
    Prop where
  found : strtok buff pos = some (skip.length, buff', front.length)
  behind : skip.length + word.length ≤ front.length
  marked : buff'.take (skip.length + word.length + 1) =
    skip ++ (word ++ ['\x00'])

theorem TakenOff.blanks {front text skip word front' buff' : Text} {n : Nat}
    (h : TakenOff (front ++ List.replicate n ' ' ++ text)
      (front ++ List.replicate n ' ').length skip word front' buff') :
    TakenOff (front ++ (List.replicate n ' ' ++ text)) front.length skip word
      front' buff' where
  found := (strtok_blanks front text n).trans h.found
  behind := h.behind
  marked := h.marked

/-- The word stays where it is while the rest of the line is taken off. -/
theorem TakenOff.cString_eq {buff skip word front buff' later : Text}
    {pos : Nat} (h : TakenOff buff pos skip word front buff')
    (hword : Word word)
    (hkept : later.take (front.length + 1) = buff'.take (front.length + 1)) :
    cString later skip.length = word := by
  apply hword.cString_eq skip
  have hbehind := h.behind
  have hshort := congrArg (List.take (skip.length + word.length + 1)) hkept
  rwa [List.take_take, List.take_take, Nat.min_eq_left (by omega), h.marked]
    at hshort

theorem shellVariant_congr {buff buff' : Text} {ptr : Nat}
    (h : cString buff ptr = cString buff' ptr) :
    shellVariant buff ptr = shellVariant buff' ptr := by
  rw [shellVariant, shellVariant, h]

theorem Word.takenOff_last {word : Text} (hword : Word word)
    (front rest : Text) :
    TakenOff (front ++ (word ++ '\x00' :: rest)) front.length front word
      (front ++ word) (front ++ word ++ '\x00' :: rest) := by
  constructor
  · rw [strtok_word hword (.inr rfl)]
    simp
  · simp
  · rw [← List.length_append, List.take_length_add_append]
    simp

theorem Word.takenOff_blank {word : Text} (hword : Word word)
    (front rest : Text) :
    TakenOff (front ++ (word ++ ' ' :: rest)) front.length front word
      (front ++ (word ++ ['\x00'])) (front ++ (word ++ ['\x00']) ++ rest) := by
  constructor
  · rw [strtok_word hword (.inl rfl)]
    simp [Nat.add_assoc]
  · simp
  · exact List.take_left' (by simp [Nat.add_assoc])

/-- `strtok` takes the words of a line off one by one; at the end of the line
there is none. -/
theorem strtok_line {line : Text} (hnul : '\x00' ∉ line) (front rest : Text) :
    lineWords line = [] ∧
        strtok (front ++ (line ++ '\x00' :: rest)) front.length = none ∨
      ∃ skip word line' front', Word word ∧ '\x00' ∉ line' ∧
        lineWords line = word :: lineWords line' ∧
        TakenOff (front ++ (line ++ '\x00' :: rest)) front.length skip word
          front' (front' ++ (line' ++ '\x00' :: rest)) := by
  obtain ⟨n, tail, rfl, htail⟩ := line_cases hnul
  rw [lineWords_blanks, List.append_assoc, strtok_blanks]
  rcases htail with rfl | hword | ⟨word, line', hword, hline', rfl⟩
  · exact .inl ⟨lineWords_nil, strtok_nul _ rest⟩
  · refine .inr ⟨front ++ List.replicate n ' ', tail, [],
      front ++ List.replicate n ' ' ++ tail, hword, by simp,
      lineWords_word hword, ?_⟩
    exact (hword.takenOff_last _ rest).blanks
  · refine .inr ⟨front ++ List.replicate n ' ', word, line',
      front ++ List.replicate n ' ' ++ (word ++ ['\x00']), hword, hline',
      lineWords_cons hword line', ?_⟩
    rw [List.append_assoc, List.cons_append]
    exact (hword.takenOff_blank _ _).blanks

theorem interpretWords_line (room : Nat) {line : Text}
    (hnul : '\x00' ∉ line) (front rest : Text) (args : List ShellVariant) :
    ∃ buff vals, interpretWords room (front ++ (line ++ '\x00' :: rest))
        front.length args =
          (if (lineWords line).length < room then 0 else -1, buff,
            args ++ vals) ∧
      List.Forall₂ (Stems buff) vals ((lineWords line).take room) := by
  induction room generalizing line front args with
  | zero =>
      exact ⟨front ++ (line ++ '\x00' :: rest), [],
        by simp [interpretWords], .nil⟩
  | succ room ih =>
      rcases strtok_line hnul front rest with ⟨hwords, hnone⟩ |
        ⟨skip, word, line', front', hword, hline', hwords, htaken⟩
      · refine ⟨front ++ (line ++ '\x00' :: rest), [], ?_, ?_⟩
        · rw [interpretWords, hnone, hwords]
          simp
        · rw [hwords]
          exact .nil
      · obtain ⟨buff, vals, hrun, hstems⟩ := ih hline' front'
          (args ++ [shellVariant (front' ++ (line' ++ '\x00' :: rest))
            skip.length])
        have hkept := interpretWords_take room
          (front' ++ (line' ++ '\x00' :: rest)) front'.length
          (args ++ [shellVariant (front' ++ (line' ++ '\x00' :: rest))
            skip.length])
        rw [hrun] at hkept
        have hstring := htaken.cString_eq hword hkept
        have hsame := htaken.cString_eq hword rfl
        refine ⟨buff, shellVariant (front' ++ (line' ++ '\x00' :: rest))
          skip.length :: vals, ?_, ?_⟩
        · rw [interpretWords, htaken.found, hwords]
          simp [hrun]
        · rw [hwords, List.take_succ_cons]
          refine .cons ⟨skip.length, hstring, ?_⟩ hstems
          exact shellVariant_congr (hsame.trans hstring.symm)

/-- What the shell makes of a line in its buffer. -/
theorem interpretLine_line {line : Text} (hnul : '\x00' ∉ line)
    (rest : Text) :
    lineWords line = [] ∧ interpretLine (line ++ '\x00' :: rest) =
        ⟨0, line ++ '\x00' :: rest, none, {}⟩ ∨
      ∃ command words buff ptr vals, lineWords line = command :: words ∧
        interpretLine (line ++ '\x00' :: rest) =
          ⟨if words.length < shellMaxArgs then 0 else -1, buff, some ptr,
            ⟨vals⟩⟩ ∧
        cString buff ptr = command ∧
        List.Forall₂ (Stems buff) vals (words.take shellMaxArgs) := by
  have hfirst := strtok_line hnul [] rest
  rw [List.nil_append, List.length_nil] at hfirst
  rcases hfirst with ⟨hwords, hnone⟩ |
    ⟨skip, command, line', front, hword, hline', hwords, htaken⟩
  · refine .inl ⟨hwords, ?_⟩
    rw [interpretLine, hnone]
  · obtain ⟨buff, vals, hrun, hstems⟩ :=
      interpretWords_line shellMaxArgs hline' front rest []
    have hkept := interpretWords_take shellMaxArgs
      (front ++ (line' ++ '\x00' :: rest)) front.length []
    rw [hrun] at hkept
    refine .inr ⟨command, lineWords line', buff, skip.length, vals, hwords, ?_,
      htaken.cString_eq hword hkept, hstems⟩
    rw [interpretLine, htaken.found]
    simp only [hrun, List.nil_append]

/-! The joined line. -/

/-- The NUL characters behind a line in the buffer. -/
def nulEnd (k : Nat) : Text := List.replicate (k + 1) '\x00'

theorem lineWords_joinLine {words : List Text}
    (hwords : ∀ word ∈ words, Word word) :
    lineWords (joinLine words) = words := by
  induction words with
  | nil => exact lineWords_nil
  | cons word rest ih =>
      rw [List.forall_mem_cons] at hwords
      cases rest with
      | nil => exact lineWords_word hwords.1
      | cons next rest =>
          rw [joinLine, lineWords_cons hwords.1, ih hwords.2]

theorem nul_not_mem_joinLine {words : List Text}
    (hwords : ∀ word ∈ words, Word word) : '\x00' ∉ joinLine words := by
  induction words with
  | nil => simp [joinLine]
  | cons word rest ih =>
      rw [List.forall_mem_cons] at hwords
      have hword : '\x00' ∉ word := fun h => (hwords.1.plain _ h).2 rfl
      cases rest with
      | nil => exact hword
      | cons next rest =>
          have hrest := ih hwords.2
          simp [joinLine, hword, hrest]

/-- What the shell makes of the joined line. -/
theorem interpretLine_joinedBuff {command : Text} {rest : List Text}
    (hcommand : Word command) (hrest : ∀ word ∈ rest, Word word)
    (hroom : (joinLine (command :: rest)).length < shellMaxCmdLen)
    (hargs : rest.length ≤ shellMaxArgs) :
    ∃ buff ptr vals, interpretLine (joinedBuff (command :: rest)) =
        ⟨if rest.length < shellMaxArgs then 0 else -1, buff, some ptr,
          ⟨vals⟩⟩ ∧
      cString buff ptr = command ∧ List.Forall₂ (Stems buff) vals rest := by
  have hwords : ∀ word ∈ command :: rest, Word word :=
    List.forall_mem_cons.mpr ⟨hcommand, hrest⟩
  obtain ⟨k, hk⟩ := Nat.exists_eq_add_of_lt hroom
  have hbuff : joinedBuff (command :: rest) =
      joinLine (command :: rest) ++ nulEnd k := by
    rw [joinedBuff_eq hroom.le, nulEnd]
    congr 2
    omega
  rw [hbuff, nulEnd, List.replicate_succ]
  rcases interpretLine_line (nul_not_mem_joinLine hwords)
      (List.replicate k '\x00') with
    ⟨hnone, -⟩ | ⟨word, words, buff, ptr, vals, hline, hinterpreted, hcmd,
      hstems⟩
  · rw [lineWords_joinLine hwords] at hnone
    exact absurd hnone (List.cons_ne_nil command rest)
  · rw [lineWords_joinLine hwords] at hline
    obtain ⟨rfl, rfl⟩ := List.cons.inj hline
    rw [List.take_of_length_le hargs] at hstems
    exact ⟨buff, ptr, vals, hinterpreted, hcmd, hstems⟩

/-! The capacity. -/

theorem length_interpretWords_le (room : Nat) (buff : Text) (pos : Nat)
    (args : List ShellVariant) :
    (interpretWords room buff pos args).2.2.length ≤ args.length + room := by
  induction room generalizing buff pos args with
  | zero => simp [interpretWords]
  | succ room ih =>
      rw [interpretWords]
      cases strtok buff pos with
      | none => simp
      | some next =>
          obtain ⟨ptr, buff, pos⟩ := next
          have hrest := ih buff pos (args ++ [shellVariant buff ptr])
          rw [List.length_append, List.length_singleton] at hrest
          dsimp only
          omega

/-- No argument is stored behind the end of `arg_val`, whatever the line. -/
theorem length_interpretLine_le (buff : Text) :
    (interpretLine buff).args.argVal.length ≤ shellMaxArgs := by
  rw [interpretLine]
  cases strtok buff 0 with
  | none => simp
  | some next =>
      obtain ⟨ptr, buff, pos⟩ := next
      have hwords := length_interpretWords_le shellMaxArgs buff pos []
      simpa using hwords

/-- A command and its arguments, none of them empty or with a blank in it, as
many as the buffer and `arg_val` have room for. -/
structure CommandWords (argv : List Text) : Prop where
  command : 2 ≤ argv.length
  words : ∀ word ∈ argv.tail, Word word
  line : joinedLength argv ≤ 255
  arguments : argv.length - 2 ≤ shellMaxArgs

instance (argv : List Text) : Decidable (CommandWords argv) :=
  decidable_of_iff (2 ≤ argv.length ∧ (∀ word ∈ argv.tail, Word word) ∧
      joinedLength argv ≤ 255 ∧ argv.length - 2 ≤ shellMaxArgs)
    ⟨fun h => ⟨h.1, h.2.1, h.2.2.1, h.2.2.2⟩,
      fun h => ⟨h.command, h.words, h.line, h.arguments⟩⟩

/-- The line is accepted, and the words are back: the command, and behind it
each argument in its place. -/
structure SplitsBack {H X : Type} (argv : List Text) (ret : Int)
    (g : ShellGlobals H X) : Prop where
  accepted : ret = 0
  command : ∃ ptr, g.cmd = some ptr ∧ argv[1]? = some (cString g.cmdBuff ptr)
  count : g.args.argVal.length = argv.length - 2
  stems : List.Forall₂ (Stems g.cmdBuff) g.args.argVal (argv.drop 2)

variable {H X : Type}

theorem splitsBack_iff {argv : List Text} (h : CommandWords argv)
    (m : Machine (ShellGlobals H X)) :
    wp shellInterpretCmdLine (fun ret m' => SplitsBack argv ret m'.mem)
        (fun _ _ => False)
        { m with mem := { m.mem with cmdBuff := joinedBuff argv.tail } } ↔
      argv.length - 2 < shellMaxArgs := by
  obtain ⟨hargc, hwords, hroom, hargs⟩ := h
  rcases argv with _ | ⟨program, _ | ⟨command, rest⟩⟩
  · simp at hargc
  · simp at hargc
  rw [joinedLength_eq] at hroom
  simp only [List.tail_cons, List.length_cons, Nat.reduceSubDiff] at *
  have hline : (joinLine (command :: rest)).length < shellMaxCmdLen :=
    Nat.lt_succ_of_le hroom
  obtain ⟨buff, ptr, vals, hinterpreted, hcommand, hstems⟩ :=
    interpretLine_joinedBuff (hwords command (by simp))
      (fun word hword => hwords word (by simp [hword])) hline hargs
  have hnul := nul_mem_joinedBuff hline
  rw [shellInterpretCmdLine, wp_bind, wp_get, if_neg (not_not_intro hnul)]
  simp only [hinterpreted, wp_bind, wp_modify, wp_pure]
  constructor
  · intro hback
    by_contra hfull
    have hret := hback.accepted
    rw [if_neg hfull] at hret
    exact absurd hret (by decide)
  · intro hfree
    exact ⟨if_pos hfree, ⟨ptr, rfl, by simp [hcommand]⟩, hstems.length_eq,
      hstems⟩

/-- Behind the loop that joins them, the words are cut apart again if and only
if at least one place of `arg_val` stays free; no line stores behind it. -/
theorem shell_splits_back_iff {argv : List Text} (h : CommandWords argv)
    (m : Machine (ShellGlobals H X)) :
    (wp shellInterpretCmdLine (fun ret m' => SplitsBack argv ret m'.mem)
        (fun _ _ => False)
        { m with mem := { m.mem with cmdBuff := joinedBuff argv.tail } } ↔
      argv.length - 2 < shellMaxArgs) ∧
    ∀ buff, (interpretLine buff).args.argVal.length ≤ shellMaxArgs :=
  ⟨splitsBack_iff h m, length_interpretLine_le⟩

/-- The read of a register by the script, which has nine arguments. -/
def readRegisterLine : List Text :=
  [lit "lsufs", lit "uic", lit "-g", lit "--local", lit "--lane", lit "0",
   lit "-i", lit "0xf6", lit "--RX", lit "-d", lit "/dev/ufs-bsg0"]

def idleShell : Machine (ShellGlobals Unit Unit) := powerOn [] { user := () }

theorem shell_splits_back_read_register :
    (wp shellInterpretCmdLine
        (fun ret m' => SplitsBack readRegisterLine ret m'.mem)
        (fun _ _ => False) { idleShell with mem := { idleShell.mem with
          cmdBuff := joinedBuff readRegisterLine.tail } } ↔
      readRegisterLine.length - 2 < shellMaxArgs) ∧
    ∀ buff, (interpretLine buff).args.argVal.length ≤ shellMaxArgs :=
  shell_splits_back_iff (by decide +kernel) idleShell

/-- The same read with as many arguments as `arg_val` has places. -/
def fullLine : List Text :=
  lit "lsufs" :: lit "uic" :: (List.replicate 7 (lit "-g") ++
    readRegisterLine.drop 3)

/-- The last argument that fits is refused. -/
theorem full_line_refused :
    ¬ ∀ argv, CommandWords argv → ∀ m : Machine (ShellGlobals Unit Unit),
      wp shellInterpretCmdLine (fun ret m' => SplitsBack argv ret m'.mem)
        (fun _ _ => False)
        { m with mem := { m.mem with cmdBuff := joinedBuff argv.tail } } := by
  intro h
  have hwords : CommandWords fullLine := by decide +kernel
  have hfree := (splitsBack_iff hwords idleShell).mp (h _ hwords idleShell)
  exact absurd hfree (by decide)

end UfsTools
