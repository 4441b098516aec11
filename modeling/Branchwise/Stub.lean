/-
Test stubs: one test function for each branch, with the branch as comments.

* `stepComment`: the comment of one step.
* `callText`: the call that a test would make.
* `freshName`: a name that is not in use: the name itself, or with the least
  number behind it that is free.
* `stubs`: the stubs of one function, success branches first; a function without
  branches has one.
* `stubModule`: the test module of a file.
-/
import Branchwise.Analysis.Basic
import Branchwise.Text.Lowercase
import Branchwise.Text.Lines
import Branchwise.Text.WordChars

namespace Branchwise

/-! ### Steps -/

/-- Can the character start the name of an exception? -/
def startsExceptionName (c : Char) : Bool :=
  c.isAlpha || c == '_'

/-- The dotted name that an expression starts with; an expression that starts
otherwise raises some exception. -/
def exceptionName (exc : Option String) : String :=
  match exc.map String.toList with
  | some (c :: cs) =>
    if startsExceptionName c then
      String.ofList (c :: cs.takeWhile fun d => Text.isWordChar d || d == '.')
    else "Exception"
  | _ => "Exception"

/-- The comment of one step of a branch; a statement that does not shape branches
has none. -/
def stepComment (outcome : Outcome) : Statement → Option String
  | .conditional test _ _ _ _ =>
    some (match outcome with
      | .success => test
      | .failure => "else (" ++ test ++ ")")
  | .guarded _ _ types _ _ =>
    some (match outcome with
      | .success => "try"
      | .failure => if types.isEmpty then "except" else "except " ++ Text.joinWith ", " types)
  | .throw exc _ _ => some ("with pytest.raises(" ++ exceptionName exc ++ "):")
  | .ret none _ _ => some "assert result is None"
  | .ret (some value) _ _ => some ("assert result == " ++ value)
  | .other _ _ => none

/-- The comments of a branch. -/
def Branch.comments (b : Branch) : List String :=
  b.steps.filterMap (stepComment b.outcome)

/-! ### Functions -/

/-- What stands before the last dot of a name, or the name without one. -/
def ownerOf (qualifiedName : String) : String :=
  match Text.splitLast '.' qualifiedName.toList with
  | some (owner, _) => String.ofList owner
  | none => qualifiedName

/-- What stands before the first dot of a name. -/
def topOf (qualifiedName : String) : String :=
  String.ofList (qualifiedName.toList.takeWhile (· != '.'))

/-- The call that a test would make. -/
def callText (f : Function) : String :=
  let target := if f.isMethod then ownerOf f.qualifiedName ++ "(...)." ++ f.name else f.name
  let call := target ++ "(" ++ Text.joinWith ", " f.parameters ++ ")"
  if f.isAsync then "await " ++ call else call

/-- A stub: a test function that is skipped. -/
structure Stub where
  name : String
  isAsync : Bool
  call : String
  comments : List String
  deriving Repr, DecidableEq

/-- The indentation of a body. -/
def indent : String := "    "

/-- The lines of a stub. -/
def Stub.lines (s : Stub) : List String :=
  (if s.isAsync then ["@pytest.mark.asyncio", "async def " ++ s.name ++ "():"]
    else ["def " ++ s.name ++ "():"])
  ++ [indent ++ "# result = " ++ s.call]
  ++ s.comments.map (fun c => indent ++ "# " ++ c)
  ++ [indent ++ "pytest.skip(\"not implemented\")"]

/-- The text of a stub. -/
def Stub.text (s : Stub) : String :=
  Text.joinWith "\n" s.lines

/-! ### Names -/

/-- The name with a number behind it. -/
def numbered (name : String) (n : Nat) : String :=
  name ++ "_" ++ toString n

/-- The name if it is not in use, else the name with the least number from two on
that is free. Among one number more than there are names in use, one is free. -/
def freshName (used : List String) (name : String) : String :=
  if used.contains name then
    match (List.range (used.length + 1)).find? fun i => !used.contains (numbered name (i + 2)) with
    | some i => numbered name (i + 2)
    | none => name
  else name

/-- The first part of the names of a function's stubs. -/
def baseName (f : Function) : String :=
  "test_" ++ String.ofList (f.qualifiedName.toList.map fun c => if c = '.' then '_' else c)

/-- The name of the stub of a branch, before it is made unique. -/
def branchName (f : Function) (b : Branch) : String :=
  baseName f ++ "__"
    ++ Text.joinWith "_" (b.steps.map fun s => String.ofList (Text.toLower s.label.toList))
    ++ (match b.outcome with
      | .success => ""
      | .failure => "__failure")

/-- The wished-for name and the comments of every stub of a function. -/
def stubPlans (a : Accumulator) : List (String × List String) :=
  if a.branches.isEmpty then [(baseName a.function, [])]
  else a.branches.map fun b => (branchName a.function b, b.comments)

/-- Names the stubs in order; each name counts as in use for those behind it. The
names in use afterwards are returned too. -/
def nameStubs (f : Function) :
    List String → List (String × List String) → List Stub × List String
  | used, [] => ([], used)
  | used, (wish, comments) :: plans =>
    let name := freshName used wish
    let (rest, used) := nameStubs f (used ++ [name]) plans
    (⟨name, f.isAsync, callText f, comments⟩ :: rest, used)

/-- The stubs of a function, and the names in use afterwards. -/
def stubs (used : List String) (a : Accumulator) : List Stub × List String :=
  nameStubs a.function used (stubPlans a)

/-- The stubs of several functions with shared names. -/
def allStubs : List String → List Accumulator → List Stub × List String
  | used, [] => ([], used)
  | used, a :: rest =>
    let (first, used) := stubs used a
    let (later, used) := allStubs used rest
    (first ++ later, used)

/-! ### Modules -/

/-- Can a module of this name be imported? -/
def isImportable (module : String) : Bool :=
  (Text.splitOn '.' module.toList).all Text.isIdentifier

/-- A list without the later occurrences of its members. -/
def distinct : List String → List String
  | [] => []
  | s :: ss => s :: (distinct ss).filter (· != s)

/-- The names that the stubs of a file call, in the order of their first use. -/
def importNames (a : Analysis) : List String :=
  distinct (a.results.map fun r => topOf r.function.qualifiedName)

/-- The lines above the stubs. -/
def headerLines (a : Analysis) (module : String) : List String :=
  ["\"\"\"Test stubs for " ++ (if module = "" then a.file.name else module) ++ ".\"\"\"", "",
    "import pytest", ""]
  ++ (if isImportable module && !(importNames a).isEmpty then
      ["from " ++ module ++ " import " ++ Text.joinWith ", " (importNames a), ""]
    else [])

/-- The lines of a stub in a module: blank lines around, and a new line wherever
its text breaks. -/
def Stub.block (s : Stub) : List String :=
  [""] ++ (Text.splitLines s.text.toList).map String.ofList ++ [""]

/-- The test module of a file, for a module of the given name. -/
def stubModule (a : Analysis) (module : String) : String :=
  let lines := headerLines a module ++ (allStubs [] a.results).1.flatMap Stub.block
  String.ofList (Text.trimEnd (Text.joinWith "\n" lines).toList) ++ "\n"

end Branchwise
