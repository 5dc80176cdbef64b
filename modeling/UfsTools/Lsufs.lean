/-
`lsufs.h` and `lsufs.c`: the command line is checked by the parsers of the two
operations, then joined and handed to the shell, whose handlers run them.
-/
import UfsTools.Query
import UfsTools.Shell

namespace UfsTools

open CLib Process

def lsufsHelp : List String :=
  ["",
   "lsufs cli :",
   "",
   "-h : help",
   "uic : do uic operation, try 'lsufs uic -h'",
   "query : do query operation, try 'lsufs query -h'",
   ""]

def uicOperationHelp : List String :=
  ["",
   "uic operation cli : ",
   "",
   "uic [-g | --get] [-s | --set <data>] [-i | --id <id>] [-p | " ++
     "--peer | -l | --local] [--TX | --tx | --Tx | --RX | --rx | " ++
     "--Rx] [-L | --lane <lane>] [-d | --device <device>]",
   "",
   "-h | --help : help",
   "-g | --get : get",
   "-s | --set : set, should be followed by data",
   "-p | --peer : peer",
   "-l | --local : local",
   "-i | --id : Unipro or M-PHY Attribute ID",
   "-t | --TX | --tx | --Tx : Select Tx",
   "-r | --RX | --rx | --Rx : Select RX",
   "-L | --lane : Select lane, should be followed by lane number, " ++
     "if lane number is not given, select lane 0 by default",
   "-d | --device : path to ufs-bsg device",
   "",
   "Example:",
   "  1. Get peer RX_EYEMON_Enable for lane1:",
   "  uic --get -i 0x00f6 --peer --RX --lane 1 -d /dev/ufs-bsg0",
   "  2. Set 0x44 to local RX_EYEMON_Enable for lane0:",
   "  uic --set 0x44 -i 0x00f6 --local --RX --lane 0 -d " ++
     "/dev/ufs-bsg0",
   ""]

def queryOperationHelp : List String :=
  ["",
   "query operation cli : ",
   "",
   "query [-o | --opcode <opcode>] [-v | --value <value>] [-i | " ++
     "--idn <IDN>] [-I | --index <index>] [-s | --select " ++
     "<selector>] [-d | --device <device>]",
   "",
   "-h | --help : help",
   "-o | --opcode :",
   "\t 1 - read descriptor",
   "\t 2 - write descriptor",
   "\t 3 - read attribute",
   "\t 4 - write attribute",
   "\t 5 - read flag",
   "\t 6 - set flag",
   "\t 7 - clear flag",
   "\t 8 - toggle flag",
   "-v | --value : Attribute value, only applicable for 'query " ++
     "write attribute', ignored in other cases",
   "-i | --idn : IDN of descriptors/attributes/flags",
   "-I | --index : Index of descriptors/attributes/flags",
   "-s | --select : Selector of descriptors/attributes/flags",
   "-d | --device : path to ufs-bsg device",
   "",
   "Example:",
   "  1. query read Device descriptor:",
   "  query -o 1 -i 0 -I 0 -s 0 -d /dev/ufs-bsg0",
   "",
   "  2. query write Device descriptor:",
   "  Not supported yet.",
   "",
   "  3. query read Attribute bCurrentPowerMode:",
   "  query -o 3 -i 0x2 -I 0 -s 0 -d /dev/ufs-bsg0",
   "",
   "  4. query write Attribute bRefreshFreq to value 02h:",
   "  query -o 4 -v 0x2 -i 0x2d -I 0 -s 0 -d /dev/ufs-bsg0",
   "",
   "  5. query read Flag fPowerOnWPEn:",
   "  query -o 5 -i 0x3 -I 0 -s 0 -d /dev/ufs-bsg0",
   "",
   "  6. query set Flag fRefreshEnable:",
   "  query -o 6 -i 0x7 -I 0 -s 0 -d /dev/ufs-bsg0",
   "",
   "  7. query clear Flag fRefreshEnable:",
   "  query -o 7 -i 0x7 -I 0 -s 0 -d /dev/ufs-bsg0",
   "",
   "  8. query toggle Flag fRefreshEnable:",
   "  query -o 8 -i 0x7 -I 0 -s 0 -d /dev/ufs-bsg0",
   ""]

/-- `printf("%s\n", help)` -/
def helpNote (lines : List String) : Note :=
  printf (lines.flatMap fun line => lit line ++ lit "\n")

/-- `enum lsufs_operation_type` -/
inductive OperationType where
  | uic
  | query
deriving DecidableEq

/-- `lsufs_nts`, without the entry that ends it. -/
def lsufsNts : List (Text × OperationType) :=
  [(lit "uic", .uic), (lit "query", .query)]

/-- A call of `do_uic_operation` or of `do_query_operation`, with the record it
was handed. -/
inductive Invocation where
  | uic (op : LsufsOperation)
  | query (op : LsufsOperation)
deriving DecidableEq

/-- The static record, which starts as zeros, and the calls so far, which no
code looks at. -/
structure Lsufs where
  op : LsufsOperation :=
    { uicOp := ⟨some .get, some .tx, some .localSide, 0, 0, 0⟩
      queryOp := ⟨0, 0, 0, 0, 0, 0⟩ }
  invoked : List Invocation := []

/-- The variables of the program: those of its shell and its own. -/
abbrev LsufsGlobals := ShellGlobals OperationType Lsufs

def printHelpInfo : OperationType → Note
  | .uic => helpNote uicOperationHelp
  | .query => helpNote queryOperationHelp

/-- The test both handlers begin with. -/
def asksForHelp (buff : Text) (args : ShellCmdArgs) : Bool :=
  match args.arg 0 with
  | .string ptr =>
      cString buff ptr = lit "--help" ∨ cString buff ptr = lit "-h"
  | _ => false

/-- Keeps account of a call. -/
def invoke (call : Invocation) : Prog LsufsGlobals Unit :=
  modify fun g =>
    { g with user := { g.user with invoked := g.user.invoked ++ [call] } }

/-- `kshell_op_uic`: the operation runs on the record, not on the words of the
line. -/
def kshellOpUic (args : ShellCmdArgs) : Prog LsufsGlobals Int := do
  let g ← get
  if asksForHelp g.cmdBuff args then pure error
  else
    invoke (.uic g.user.op)
    doUicOperation g.user.op

def kshellOpQuery (args : ShellCmdArgs) : Prog LsufsGlobals Int := do
  let g ← get
  if asksForHelp g.cmdBuff args then pure error
  else
    invoke (.query g.user.op)
    doQueryOperation g.user.op

/-- The handler of an operation. -/
def kshellOp : OperationType → ShellCmdArgs → Prog LsufsGlobals Int
  | .uic => kshellOpUic
  | .query => kshellOpQuery

/-- The option parser of an operation, and the hint behind its failure. -/
def initOperation (type : OperationType) (argv : List Text)
    (op : LsufsOperation) : Parsed (LsufsOperation × List Note) :=
  match type with
  | .uic =>
      match initUicOperation argv op with
      | .error entries =>
          .error (entries ++ [prErr (lit "Please try 'uic -h'\n")])
      | .ok result => .ok result
  | .query =>
      match initQueryOperation argv op with
      | .error entries =>
          .error (entries ++ [prErr (lit "Please try 'query -h'\n")])
      | .ok op => .ok (op, [])

/-- `parse_args` of lsufs. -/
def lsufsParseArgs (argv : List Text) (op : LsufsOperation) :
    Parsed (LsufsOperation × List Note) :=
  match argv with
  | _ :: command :: rest =>
      if command = lit "-v" then
        .ok (op, [printf (lit "lsufs version 1.0.\n")])
      else if command = lit "-h" then .ok (op, [helpNote lsufsHelp])
      else
        match lsufsNts.find? fun nt => nt.1 = command with
        | none => reject "Unsupported operation.\n"
        | some (_, type) =>
            if rest = [lit "-h"] ∨ rest = [lit "--help"] then
              .ok (op, [printHelpInfo type])
            else initOperation type argv op
  | _ => reject "Too less args, try 'lsufs -h'\n"

/-- `sizeof(char *)`. -/
def sizeofPointer : Nat := 8

/-- `main` of lsufs.  `getopt_long` may reorder its array, so the shell gets the
copy.  Behind `parse_args` there are arguments, and `shell_run` is not reached. -/
def lsufsMain (argv : List Text) : Prog LsufsGlobals Int := do
  let origArgv ← sysCall (.malloc (sizeofPointer * argv.length))
  if origArgv = 0 then
    note (prErr
      (lit "Failed to allocate memory for lsufs command arguments\n"))
    pure error
  else
    let _ ← shellInit (lit "rshell")
    let g ← get
    match lsufsParseArgs argv g.user.op with
    | .error entries => do
        notes entries
        pure error
    | .ok (op, entries) => do
        notes entries
        modify fun g => { g with user := { g.user with op := op } }
        let _ ← shellAddCmd (lit "uic") (.user .uic)
          (lit "Please try 'uic -h'\n")
        let _ ← shellAddCmd (lit "query") (.user .query)
          (lit "Please try 'query -h'\n")
        shellProcessCmdLineArgs kshellOp argv

end UfsTools
