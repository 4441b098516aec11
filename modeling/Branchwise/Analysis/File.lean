/-
The analysis of a file.

* `analyzeFile`: reads a file and finds its functions.
* `SourceModule.fileEvents`: what the analysis of a file logs.
-/
import Branchwise.Analysis.Basic
import Branchwise.Files

namespace Branchwise

open Source (Selection)

/-- The functions of a file. -/
def analyzeFile (interp : Interpreter) (fs : Files) (sel : Selection) (file : Path)
    (module : Option String) : Except Fault SourceModule :=
  match fs.read file with
  | .ok source => SourceModule.read interp sel source file module
  | .error fault => .error fault

/-- What the analysis of a file logs: all functions first, then the walks. -/
def SourceModule.fileEvents (m : SourceModule) : List Event :=
  m.parsedEvents ++ .analyzing m.file m.functions.length :: m.walkedEvents

end Branchwise
