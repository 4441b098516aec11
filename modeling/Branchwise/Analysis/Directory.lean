/-
The analysis of all source files below a directory.

A file that cannot be read or parsed is recorded and does not end the run. A
directory in which it cannot be found out what the entries are ends it at once.

* `sourceFiles`: the files, sorted by their components.
* `Visit`: what became of a file: left out, failed or analyzed.
* `Stats`: the counts of a run.
* `Survey`: a run, as far as it has come. `Survey.record` takes in one file, and
  `survey` is the whole run.
-/
import Branchwise.Analysis.File
import Branchwise.Glob

namespace Branchwise

open Source (Selection)

/-- Patterns that are always excluded. -/
def defaultExcludes : List String :=
  ["__pycache__", "*.egg-info", "node_modules", "build", "dist", "venv", ".venv"]

/-- The source files below a directory, sorted by components. -/
def sourceFiles (fs : Files) (directory : Path) : List Path :=
  Path.sorted ((fs.filesBelow directory).filter Path.isSource)

/-- A path below a directory, relative to it. -/
def Path.relativeTo (p directory : Path) : Path :=
  ⟨0, p.components.drop directory.components.length⟩

/-- What became of a file. -/
inductive Visit where
  | excluded
  | failed (fault : Fault)
  | analyzed (module : SourceModule)

/-- Analyzes one file of a directory, unless its relative path is excluded. -/
def visit (interp : Interpreter) (fs : Files) (sel : Selection) (patterns : List String)
    (directory file : Path) : Visit :=
  let relative := file.relativeTo directory
  if isExcluded patterns relative.toString then .excluded
  else
    match analyzeFile interp fs sel file relative.moduleName? with
    | .ok m => .analyzed m
    | .error fault => .failed fault

/-- Counts of a run. -/
structure Stats where
  files : Nat
  functions : Nat
  branches : Nat
  success : Nat
  failure : Nat
  skipped : Nat
  errors : List String
  deriving Repr, DecidableEq, Inhabited

namespace Stats

/-- Nothing counted yet. -/
def zero : Stats := ⟨0, 0, 0, 0, 0, 0, []⟩

/-- Counts a branch. -/
def addBranch (s : Stats) (b : Branch) : Stats :=
  match b.outcome with
  | .success => { s with branches := s.branches + 1, success := s.success + 1 }
  | .failure => { s with branches := s.branches + 1, failure := s.failure + 1 }

/-- Counts a function with its branches. -/
def addResult (s : Stats) (r : Accumulator) : Stats :=
  r.branches.foldl addBranch { s with functions := s.functions + 1 }

/-- Counts a file with its functions. -/
def addAnalysis (s : Stats) (a : Analysis) : Stats :=
  a.results.foldl addResult { s with files := s.files + 1 }

/-- The counts as text. -/
def describe (s : Stats) : String :=
  "AnalysisStats(files=" ++ toString s.files ++ ", functions=" ++ toString s.functions
    ++ ", branches=" ++ toString s.branches ++ ", success=" ++ toString s.success
    ++ ", failure=" ++ toString s.failure ++ ", skipped=" ++ toString s.skipped
    ++ ", errors=" ++ toString s.errors.length ++ ")"

end Stats

/-- A run over a directory, as far as it has come. -/
structure Survey where
  directory : Path
  /-- All source files, in order. -/
  files : List Path
  analyses : List Analysis
  stats : Stats
  /-- What was reported on the way: a file, its number and the number of all. -/
  progress : List (Path × Nat × Nat)
  /-- The log. -/
  events : List Event
  /-- The fault that ended the run. -/
  crash : Option Fault

namespace Survey

/-- A run that has visited no file yet. -/
def start (directory : Path) (files : List Path) : Survey :=
  ⟨directory, files, [], .zero, [], [], none⟩

/-- Counts a file that was left out. -/
def skip (s : Survey) : Survey :=
  { s with stats := { s.stats with skipped := s.stats.skipped + 1 } }

/-- Takes in a file with a fault. -/
def fail (s : Survey) (file : Path) (fault : Fault) : Survey :=
  { s with
    stats := { s.stats with errors := s.stats.errors ++ [fault.message] }
    events := s.events ++ [.skipping (file.relativeTo s.directory) fault] }

/-- Takes in a file that was analyzed. -/
def add (s : Survey) (m : SourceModule) : Survey :=
  { s with
    analyses := s.analyses ++ [m.analysis]
    stats := s.stats.addAnalysis m.analysis
    events := s.events ++ m.fileEvents }

/-- Reports that the file with this number is done. -/
def report (s : Survey) (number : Nat) (file : Path) : Survey :=
  { s with progress := s.progress ++ [(file, number, s.files.length)] }

/-- Takes in what became of the file with this number. A fault that is not reported
to the user ends the run. -/
def record (s : Survey) (number : Nat) (file : Path) : Visit → Survey
  | .excluded => s.skip.report number file
  | .failed fault =>
    if fault.isReported then (s.fail file fault).report number file
    else { s with crash := some fault }
  | .analyzed m => (s.add m).report number file

/-- Visits files one after the other, the first of them with the given number, until
a fault ends the run. -/
def visitAll (visit : Path → Visit) : Nat → List Path → Survey → Survey
  | _, [], s => s
  | number, file :: files, s =>
    let s := s.record number file (visit file)
    if s.crash.isSome then s else visitAll visit (number + 1) files s

end Survey

/-- Analyzes all source files below a directory, without those that the patterns
exclude. -/
def survey (interp : Interpreter) (fs : Files) (sel : Selection) (directory : Path)
    (patterns : List String) : Survey :=
  match fs.refusal? directory with
  | some fault => { Survey.start directory [] with crash := some fault }
  | none =>
    let files := sourceFiles fs directory
    Survey.visitAll (visit interp fs sel (defaultExcludes ++ patterns) directory) 1 files
      (.start directory files)

end Branchwise
