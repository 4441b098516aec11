/-
The commands of the command line.

* `Command`: what is to be done.
* `Request.read`: the request that a command line makes, or why it makes none. The
  files are looked at only to refuse a path that is there and may not be read.
-/
import Branchwise.Command.Arguments
import Branchwise.Files
import Branchwise.Source.Functions

namespace Branchwise

open Source (Selection)
open Command (Rule)

/-- What is to be done. -/
inductive Command where
  /-- Writes the stubs of a file, to a file or to the console. -/
  | stubs (path : Path) (output : Option Path) (function : String) (sel : Selection)
  /-- Lists the branches of a file. -/
  | branches (path : Path) (function : String) (sel : Selection) (json : Bool)
  /-- Counts the branches below a directory. -/
  | scan (path : Path) (excludes : List String) (sel : Selection)

/-- A command, and whether all of the log is wanted. -/
structure Request where
  command : Command
  verbose : Bool

/-- Why a command line makes no request. -/
inductive Refusal where
  /-- It breaks the rules, or names a path that may not be read. -/
  | usage
  /-- It asks for help. -/
  | help
  /-- A path in it holds a NUL character. -/
  | nulInPath
  deriving Repr, DecidableEq

namespace Command

/-! ### Rules -/

/-- The option that asks for help. -/
def helpRule : Rule := ⟨.help, none, "help", false⟩

/-- The options before the name of a command. -/
def globalRules : List Rule :=
  [helpRule, ⟨.verbose, some 'v', "verbose", false⟩]

/-- The options of every command. -/
def selectionRules : List Rule :=
  [helpRule, ⟨.includePrivate, none, "private", false⟩, ⟨.methods, some 'm', "methods", false⟩]

/-- The options of `stubs`. -/
def stubsRules : List Rule :=
  selectionRules ++
    [⟨.output, some 'o', "output", true⟩, ⟨.function, some 'f', "function", true⟩]

/-- The options of `branches`. -/
def branchesRules : List Rule :=
  selectionRules ++ [⟨.function, some 'f', "function", true⟩, ⟨.json, some 'j', "json", false⟩]

/-- The options of `scan`. -/
def scanRules : List Rule :=
  selectionRules ++ [⟨.excludes, some 'e', "exclude", true⟩]

/-! ### Reading -/

/-- What the options select. -/
def selection (a : Arguments) : Selection :=
  ⟨a.has .includePrivate, a.has .methods⟩

/-- A path from the command line. What stands there must be readable, but need not
be there. -/
def readPath (fs : Files) (text : String) : Except Refusal Path :=
  let path := Path.ofString text
  if Files.hasNul path then .error .nulInPath
  else
    match fs.stat text with
    | .ok (place, _) => if (fs.rights place).read then .ok path else .error .usage
    | .error _ => .ok path

/-- The only operand, as a path. An unfit path shows before a surplus operand. -/
def onlyPath (fs : Files) (a : Arguments) : Except Refusal Path :=
  match a.operands with
  | [] => .error .usage
  | text :: more =>
    match readPath fs text with
    | .ok path => if more.isEmpty then .ok path else .error .usage
    | .error r => .error r

/-- Reads the arguments behind the name of a command. -/
def readArguments (rules : List Rule) (args : List String) : Except Refusal Arguments :=
  match Arguments.read? rules true args with
  | none => .error .usage
  | some a => if a.has .help then .error .help else .ok a

/-- The output file of `stubs`. -/
def readOutput (fs : Files) (a : Arguments) : Except Refusal (Option Path) :=
  match a.value? .output with
  | none => .ok none
  | some text =>
    match readPath fs text with
    | .ok path => .ok (some path)
    | .error r => .error r

/-- Reads the arguments of the command with the given name. -/
def read (fs : Files) (name : String) (args : List String) : Except Refusal Command := do
  match name with
  | "stubs" =>
    let a ← readArguments stubsRules args
    let output ← readOutput fs a
    let path ← onlyPath fs a
    return .stubs path output ((a.value? .function).getD "") (selection a)
  | "branches" =>
    let a ← readArguments branchesRules args
    let path ← onlyPath fs a
    return .branches path ((a.value? .function).getD "") (selection a) (a.has .json)
  | "scan" =>
    let a ← readArguments scanRules args
    let path ← if a.operands.isEmpty then readPath fs "." else onlyPath fs a
    return .scan path (a.values .excludes) (selection a)
  | _ => .error .usage

end Command

/-- Reads a command line. -/
def Request.read (fs : Files) (args : List String) : Except Refusal Request :=
  match Command.Arguments.read? Command.globalRules false args with
  | none => .error .usage
  | some a =>
    if a.has .help then .error .help
    else
      match a.operands with
      | [] => .error .usage
      | name :: rest =>
        match Command.read fs name rest with
        | .ok command => .ok ⟨command, a.has .verbose⟩
        | .error r => .error r

end Branchwise
