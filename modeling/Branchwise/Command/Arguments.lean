/-
Command line arguments: options, which start with a hyphen, and operands.

A short option is a hyphen and a letter. Several may share a hyphen, and a value
may follow its letter directly. A long option is two hyphens and a word; its value
may follow an equals sign. Any other value is the next argument, whatever it looks
like. Two hyphens alone end the options.

* `Rule`: an option that is understood.
* `Arguments.read?`: the options and operands of a command line.
-/
import Branchwise.Text.Basic

namespace Branchwise.Command

/-- The options of all commands. -/
inductive OptionName where
  | help | verbose | output | function | excludes | includePrivate | methods | json
  deriving Repr, DecidableEq

/-- How an option is written, and whether a value follows. -/
structure Rule where
  name : OptionName
  short : Option Char
  long : String
  takesValue : Bool

/-- A command line: options with their values, empty for an option that takes none,
and operands. -/
structure Arguments where
  options : List (OptionName × String)
  operands : List String
  deriving Repr, Inhabited

namespace Arguments

/-- An argument that starts with a hyphen: the options in it, and the one whose
value is the next argument. -/
structure Group where
  options : List (OptionName × String)
  open? : Option OptionName

/-- Reads a long option, with the text behind its equals sign if there is one. -/
def readLong? (rules : List Rule) (word : List Char) (value : Option (List Char)) :
    Option Group :=
  match rules.find? fun r => r.long.toList == word, value with
  | none, _ => none
  | some r, some v => if r.takesValue then some ⟨[(r.name, String.ofList v)], none⟩ else none
  | some r, none =>
    if r.takesValue then some ⟨[], some r.name⟩ else some ⟨[(r.name, "")], none⟩

/-- Reads short options behind one hyphen. -/
def readShort? (rules : List Rule) : List Char → Option Group
  | [] => some ⟨[], none⟩
  | c :: cs =>
    match rules.find? fun r => r.short == some c with
    | none => none
    | some r =>
      if r.takesValue then
        if cs.isEmpty then some ⟨[], some r.name⟩ else some ⟨[(r.name, String.ofList cs)], none⟩
      else
        match readShort? rules cs with
        | some g => some { g with options := (r.name, "") :: g.options }
        | none => none

/-- Reads an argument that starts with a hyphen. -/
def readGroup? (rules : List Rule) : List Char → Option Group
  | '-' :: '-' :: text =>
    if text.contains '=' then
      readLong? rules (text.takeWhile (· != '=')) (some ((text.dropWhile (· != '=')).drop 1))
    else readLong? rules text none
  | '-' :: text => readShort? rules text
  | _ => none

/-- Is the argument one or more options? A hyphen alone is an operand. -/
def isOption (arg : String) : Bool :=
  ['-'].isPrefixOf arg.toList && 1 < arg.toList.length

/-- Reads a command line. If `mixed` is not set, the first operand ends the
options. -/
def read? (rules : List Rule) (mixed : Bool) : List String → Option Arguments
  | [] => some ⟨[], []⟩
  | arg :: args =>
    if arg = "--" then some ⟨[], args⟩
    else if isOption arg then
      match readGroup? rules arg.toList with
      | none => none
      | some ⟨options, none⟩ =>
        (read? rules mixed args).map fun a => { a with options := options ++ a.options }
      | some ⟨options, some name⟩ =>
        match args with
        | [] => none
        | value :: args =>
          (read? rules mixed args).map fun a =>
            { a with options := options ++ (name, value) :: a.options }
    else if mixed then
      (read? rules mixed args).map fun a => { a with operands := arg :: a.operands }
    else some ⟨[], arg :: args⟩

/-- Was the option given? -/
def has (a : Arguments) (name : OptionName) : Bool :=
  a.options.any fun (n, _) => n == name

/-- The values of an option, in order. -/
def values (a : Arguments) (name : OptionName) : List String :=
  a.options.filterMap fun (n, v) => if n = name then some v else none

/-- The value of an option; of several, the last counts. -/
def value? (a : Arguments) (name : OptionName) : Option String :=
  (a.values name).getLast?

end Arguments

end Branchwise.Command
