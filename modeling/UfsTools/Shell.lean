/-
`shell.h` and `shell.c`: a table of commands, the buffer a command line is put
together in, and the words it is cut into.
-/
import UfsTools.Bsg

namespace UfsTools

open CLib Process

/-- `SHELL_MAX_CMDS`, `SHELL_MAX_CMD_LEN` and `SHELL_MAX_ARGS`. -/
def shellMaxCmds : Nat := 100
def shellMaxCmdLen : Nat := 256
def shellMaxArgs : Nat := 15

/-! The command buffer, as the characters of `shell_cmd_buff`.  A pointer into
it is an index. -/

/-- The buffer behind its `memset`. -/
def emptyBuff : Text := List.replicate shellMaxCmdLen '\x00'

/-- The C string a pointer leads to. -/
def cString (buff : Text) (ptr : Nat) : Text :=
  (buff.drop ptr).takeWhile (· ≠ '\x00')

/-- A call of `strtok` with the delimiter `" "`: the word it returns, the
buffer with the word's end marked, and where the next call goes on. -/
def strtok (buff : Text) (pos : Nat) : Option (Nat × Text × Nat) :=
  let start := pos + ((buff.drop pos).takeWhile (· = ' ')).length
  let stop := start + ((buff.drop start).takeWhile fun c =>
    c ≠ ' ' ∧ c ≠ '\x00').length
  if stop = start then none
  else if buff[stop]? = some ' ' then
    some (start, buff.set stop '\x00', stop + 1)
  else some (start, buff, stop)

/-- `struct shell_variant_type`; a string is a pointer into the buffer. -/
inductive ShellVariant where
  | int (val : Int)
  | char (val : Char)
  | string (ptr : Nat)
deriving DecidableEq

/-- `args_cnt` is the length of the list, and what lies behind is zero. -/
structure ShellCmdArgs where
  argVal : List ShellVariant := []
deriving DecidableEq

/-- `args->arg_val[i]`. -/
def ShellCmdArgs.arg (args : ShellCmdArgs) (i : Nat) : ShellVariant :=
  args.argVal.getD i (.int 0)

/-! Words. -/

def isAlphabet (ch : Char) : Bool :=
  (ch ≥ 'A' ∧ ch ≤ 'Z') ∨ (ch ≥ 'a' ∧ ch ≤ 'z')

/-- `is_character`: one letter, and nothing or a blank behind it. -/
def isCharacter : Text → Bool
  | [ch] => isAlphabet ch
  | ch :: next :: _ => isAlphabet ch && next = ' '
  | [] => false

def isDigit (ch : Char) (isHex : Bool) : Bool :=
  (ch ≥ '0' ∧ ch ≤ '9') ∨
    (isHex ∧ ch.toUpper ≥ 'A' ∧ ch.toUpper ≤ 'F')

/-- The loop of `is_number`, which a blank ends as well. -/
def isNumberRest (isHex : Bool) : Text → Bool
  | [] => true
  | ch :: rest =>
      if ch = ' ' then true else isDigit ch isHex && isNumberRest isHex rest

/-- Any character behind a leading zero makes the number hexadecimal. -/
def isNumber : Text → Bool
  | '0' :: _ :: rest => isNumberRest true rest
  | ch :: rest => isDigit ch false && isNumberRest false rest
  | [] => false

/-- `atoi`, and where that gives 0 `strtol` with base 16. -/
def shellNumber (str : Text) : Int :=
  if atoi str = 0 then toInt (strtol 16 str).1 else atoi str

/-- `shell_atoi`, which the shell itself does not call on other words. -/
def shellAtoi (str : Text) : Int :=
  if isNumber str then shellNumber str else 0

/-- What a word is stored as. -/
def shellVariant (buff : Text) (ptr : Nat) : ShellVariant :=
  let str := cString buff ptr
  if isCharacter str then .char (str.headD '\x00')
  else if isNumber str then .int (shellNumber str)
  else .string ptr

/-- The loop over the words behind the command, with the room that is left for
them.  The last argument that fits is refused. -/
def interpretWords : Nat → Text → Nat → List ShellVariant →
    Int × Text × List ShellVariant
  | 0, buff, _, args => (-1, buff, args)
  | room + 1, buff, pos, args =>
      match strtok buff pos with
      | none => (0, buff, args)
      | some (ptr, buff, pos) =>
          interpretWords room buff pos (args ++ [shellVariant buff ptr])

/-- What `shell_interpret_cmd_line` makes of the buffer. -/
structure Interpreted where
  ret : Int
  buff : Text
  cmd : Option Nat
  args : ShellCmdArgs
deriving DecidableEq

/-- `shell_interpret_cmd_line` behind its buffer: the command, and the words
behind it. -/
def interpretLine (buff : Text) : Interpreted :=
  match strtok buff 0 with
  | none => ⟨0, buff, none, {}⟩
  | some (ptr, buff, pos) =>
      let (ret, buff, args) := interpretWords shellMaxArgs buff pos []
      ⟨ret, buff, some ptr, ⟨args⟩⟩

/-! Commands. -/

/-- The handlers of `shell.c` and those a program registers. -/
inductive ShellHandler (H : Type) where
  | help
  | exit
  | testArgs
  | user (handler : H)
deriving DecidableEq

/-- `struct shell_cmd`. -/
structure ShellCmd (H : Type) where
  cmd : Text
  cmdHandler : ShellHandler H
  helpStr : Text
deriving DecidableEq

/-- The static variables of `shell.c`, beside those of the program. -/
structure ShellGlobals (H X : Type) where
  cmdBuff : Text := emptyBuff
  cmd : Option Nat := none
  lastCmdHandler : Option (ShellHandler H) := none
  args : ShellCmdArgs := {}
  cmds : List (ShellCmd H) := []
  cmdPrompt : Text := []
  user : X

variable {H X : Type}

/-- `shell_help`: a line for each command. -/
def shellHelp : Prog (ShellGlobals H X) Int := do
  let g ← get
  notes (g.cmds.map fun c =>
    printf (List.replicate (16 - c.cmd.length) ' ' ++ c.cmd ++ lit " -> " ++
      c.helpStr ++ lit "\n"))
  pure 0

/-- `shell_exit`: a negative number ends the loop. -/
def shellExit : Prog (ShellGlobals H X) Int := pure (-1)

/-- The line `shell_test_args` prints about an argument. -/
def testArgLine (buff : Text) : ShellVariant → Text
  | .int val => lit "int : [" ++ showInt val ++ lit "] [hex=" ++
      showHex (UInt32.ofInt val).toNat ++ lit "]\n"
  | .char val => lit "char : [" ++ [val] ++ lit "]\n"
  | .string ptr => lit "str : [" ++ cString buff ptr ++ lit "]\n"

/-- `shell_test_args`: what became of the words. -/
def shellTestArgs (args : ShellCmdArgs) : Prog (ShellGlobals H X) Int := do
  let g ← get
  note (printf (lit "sizeof(struct shell_cmd_args) = [248]\n"))
  note (printf (lit "sizeof(enum variant_type) = [4]\n"))
  note (printf (lit "args count : [" ++ showInt args.argVal.length ++
    lit "]\n"))
  notes (args.argVal.map fun v => printf (testArgLine g.cmdBuff v))
  pure 0

/-- The assertion on the room in the table prints a line only. -/
def shellAddCmd (cmd : Text) (cmdHandler : ShellHandler H) (helpStr : Text) :
    Prog (ShellGlobals H X) Int := do
  let g ← get
  if shellMaxCmds ≤ g.cmds.length then
    note (printf (lit "Assertion : [shell_cmds_cnt < SHELL_MAX_CMDS]\n"))
    fault
  else
    modify fun g => { g with cmds := g.cmds ++ [⟨cmd, cmdHandler, helpStr⟩] }
    pure 0

/-- `shell_init`: the four commands of the shell. -/
def shellInit (prompt : Text) : Prog (ShellGlobals H X) Int := do
  modify fun g => { g with
    cmdPrompt := prompt
    cmds := []
    lastCmdHandler := none }
  let _ ← shellAddCmd (lit "help") .help (lit "print all available cmds")
  let _ ← shellAddCmd (lit "exit") .exit (lit "exit shell")
  let _ ← shellAddCmd (lit "quit") .exit (lit "quit shell")
  let _ ← shellAddCmd (lit "targs") .testArgs (lit "test args")
  pure 0

/-- Cut the line in the buffer into words.  Without a NUL in the buffer `strtok`
runs out of it. -/
def shellInterpretCmdLine : Prog (ShellGlobals H X) Int := do
  let g ← get
  if '\x00' ∉ g.cmdBuff then fault
  else
    let line := interpretLine g.cmdBuff
    modify fun g => { g with
      cmdBuff := line.buff
      cmd := line.cmd
      args := line.args }
    pure line.ret

variable (handle : H → ShellCmdArgs → Prog (ShellGlobals H X) Int)

/-- The call of a handler. -/
def runHandler (handler : ShellHandler H) (args : ShellCmdArgs) :
    Prog (ShellGlobals H X) Int :=
  match handler with
  | .help => shellHelp
  | .exit => shellExit
  | .testArgs => shellTestArgs args
  | .user h => handle h args

/-- The first command that the word is an abbreviation of; `strncmp` compares as
many characters as the word has. -/
def lookupCmd (cmds : List (ShellCmd H)) (word : Text) :
    Option (ShellCmd H) :=
  cmds.find? fun c => word.isPrefixOf c.cmd

/-- `shell_cmd` is not looked at before it is compared. -/
def shellDispatch : Prog (ShellGlobals H X) Int := do
  let g ← get
  match g.cmd with
  | none => if g.cmds = [] then pure 0 else fault
  | some ptr =>
      match lookupCmd g.cmds (cString g.cmdBuff ptr) with
      | none => pure 0
      | some c => do
          let result ← runHandler handle c.cmdHandler g.args
          modify fun g => { g with lastCmdHandler := some c.cmdHandler }
          pure result

/-- `shell_process_cmd`: an empty line runs the last handler again. -/
def shellProcessCmd : Prog (ShellGlobals H X) Int := do
  let g ← get
  match g.cmdBuff.head?, g.lastCmdHandler with
  | some '\x00', some handler => runHandler handle handler g.args
  | _, _ => shellDispatch handle

/-- The handler of the run before is run again. -/
def Repeats (g : ShellGlobals H X) : Prop :=
  g.cmdBuff.head? = some '\x00' ∧ g.lastCmdHandler ≠ none

section

variable {m : Machine (ShellGlobals H X)}

theorem shellProcessCmd_repeat {handler : ShellHandler H}
    (hhead : m.mem.cmdBuff.head? = some '\x00')
    (hlast : m.mem.lastCmdHandler = some handler) :
    shellProcessCmd handle m = runHandler handle handler m.mem.args m := by
  rw [shellProcessCmd, get_bind, hhead, hlast]
  rfl

theorem shellProcessCmd_compare (h : ¬ Repeats m.mem) :
    shellProcessCmd handle m = shellDispatch handle m := by
  rw [shellProcessCmd, get_bind]
  refine congrFun ?_ m
  split
  · next hhead hlast => exact absurd ⟨hhead, by simp [hlast]⟩ h
  · rfl

end

/-! Joining the arguments. -/

/-- The characters `strncpy` stores for one argument, with their indices. -/
def copyStores (arg : Text) (idx : Nat) : List (Nat × Char) :=
  (arg.zipIdx idx).map Prod.swap

/-- What the loop of `shell_process_cmd_line_args` stores: the arguments, and a
blank behind each but the last. -/
def joinStores : List Text → Nat → List (Nat × Char)
  | [], _ => []
  | [arg], idx => copyStores arg idx
  | arg :: next :: rest, idx =>
      copyStores arg idx ++ (idx + arg.length, ' ') ::
        joinStores (next :: rest) (idx + arg.length + 1)

/-- A store behind the end of the buffer is lost to it. -/
def applyStores (buff : Text) (stores : List (Nat × Char)) : Text :=
  stores.foldl (fun buff s => buff.set s.1 s.2) buff

/-- `shell_process_cmd_line_args`: joins the arguments and has the line
processed; the copies are not bounded. -/
def shellProcessCmdLineArgs (argv : List Text) :
    Prog (ShellGlobals H X) Int := do
  if argv.length ≤ 1 then pure (-1)
  else
    let stores := joinStores argv.tail 0
    notes (stores.map fun s => .storeChar shellMaxCmdLen s.1)
    if ∀ s ∈ stores, s.1 < shellMaxCmdLen then
      modify fun g => { g with cmdBuff := applyStores emptyBuff stores }
      let result ← shellInterpretCmdLine
      if result ≠ 0 then pure result
      else shellProcessCmd handle
    else fault

end UfsTools
