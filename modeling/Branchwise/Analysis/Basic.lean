/-
The analysis of one source text.

* `SourceModule.read`: the functions of a source text, under the name of its
  file.
* `Analysis`: the branches of each function.
* `Analysis.get`: a result by its name or its qualified name.
-/
import Branchwise.Log
import Branchwise.Source.Functions

namespace Branchwise

open Source (Selection)

/-- What was found in a source text. -/
structure SourceModule where
  file : Path
  module : String
  /-- The names of a literal `__all__`, if there is one, by their code points. -/
  exports : Option (List (List Nat))
  functions : List Function
  deriving Inhabited

/-- The branches of the functions of one file. -/
structure Analysis where
  file : Path
  module : String
  results : List Accumulator
  deriving Inhabited

namespace SourceModule

/-- The name of a module: the given one, or the stem of its file. -/
def nameFor (file : Path) : Option String → String
  | some m => if m = "" then file.stem else m
  | none => file.stem

/-- Reads a source text. -/
def read (interp : Interpreter) (sel : Selection) (source : String) (file : Path)
    (module : Option String) : Except Fault SourceModule :=
  match Source.readModule interp source with
  | .ok stmts =>
    .ok ⟨file, nameFor file module, Source.literalExports? stmts, Source.functions sel stmts⟩
  | .error .nul => .error .nulInSource
  | .error (.breakdown b) => .error (.breakdown b)
  | .error .malformed => .error (.malformed file (interp.complaint source file))

/-- Walks every function. -/
def analysis (m : SourceModule) : Analysis :=
  ⟨m.file, m.module, m.functions.map fun f => (extractBranches f).accumulator⟩

/-- What reading the text logs. -/
def parsedEvents (m : SourceModule) : List Event :=
  m.functions.map .parsed

/-- What walking the functions logs. -/
def walkedEvents (m : SourceModule) : List Event :=
  m.functions.flatMap fun f => (extractBranches f).trace.map .walked

end SourceModule

namespace Analysis

/-- Does the name select the result? -/
def isCalled (name : String) (result : Accumulator) : Bool :=
  name == result.function.name || name == result.function.qualifiedName

/-- The first result with the given name or qualified name. -/
def get (a : Analysis) (name : String) : Except Fault Accumulator :=
  match a.results.find? (isCalled name) with
  | some result => .ok result
  | none => .error (.noFunction name a.file)

/-- Only the result with the given name; the empty name selects all. -/
def select (a : Analysis) (name : String) : Except Fault Analysis :=
  if name = "" then .ok a
  else
    match a.get name with
    | .ok result => .ok { a with results := [result] }
    | .error fault => .error fault

end Analysis

end Branchwise
