/-
Running commands.

* `Host`: what a run is given besides the files and the command line.
* `Run`: what a run leaves behind: its exit code, what it printed and logged,
  the files, and the crash that ended it.
* `run`: runs a command line on a tree of files.
-/
import Branchwise.Analysis.Directory
import Branchwise.Command.Basic
import Branchwise.Console
import Branchwise.Listing
import Branchwise.Report
import Branchwise.Stub

namespace Branchwise

open Source (Selection)

/-- What a run is given besides the files and the command line. -/
structure Host where
  interpreter : Interpreter
  console : Console

/-- Why a run ended before its time. -/
inductive Crash where
  /-- A fault that is not reported. -/
  | fault (fault : Fault)
  /-- The output cannot be written. -/
  | unwritable (reason : ReadFailure)
  /-- A line cannot be shown. -/
  | console (failure : Console.Failure)
  deriving Repr, DecidableEq

/-- The text of a crash. -/
def Crash.message : Crash → String
  | fault f => f.message
  | unwritable .missing => "no such directory for the output"
  | unwritable .directory => "the output is a directory"
  | unwritable _ => "the output cannot be written"
  | console failure => failure.kind

/-- What a run leaves behind. -/
structure Run where
  exitCode : Nat
  stdout : String
  stderr : String
  log : List Event
  files : Files
  crash : Option Crash

namespace Run

/-- A run that has printed nothing yet. -/
def start (fs : Files) (log : List Event) : Run :=
  ⟨0, "", "", log, fs, none⟩

/-- Prints a text as it is. -/
def print (o : Run) (text : String) : Run :=
  { o with stdout := o.stdout ++ text }

/-- Ends a run by a crash. -/
def crashed (o : Run) (crash : Crash) : Run :=
  { o with exitCode := 1, crash := some crash }

/-- Shows lines of markup; one that cannot be shown ends the run. -/
def showLines (o : Run) (console : Console) (markups : List String) : Run :=
  match console.lines markups with
  | (text, none) => o.print text
  | (text, some failure) => (o.print text).crashed (.console failure)

/-- Ends a run by a fault, which is reported or a crash. -/
def failed (o : Run) (console : Console) (fault : Fault) : Run :=
  if fault.isReported then
    match console.render ("[red]" ++ Markup.escape fault.message ++ "[/red]") with
    | .ok text => { o with exitCode := 1, stderr := o.stderr ++ text }
    | .error failure => o.crashed (.console failure)
  else o.crashed (.fault fault)

end Run

namespace Command

/-- The paths that a command reads or writes. -/
def paths : Command → List Path
  | .stubs path output _ _ => path :: output.toList
  | .branches path _ _ _ => [path]
  | .scan path _ _ => [path]

/-- Analyzes one file, or one function of it. -/
def analyze (host : Host) (fs : Files) (path : Path) (function : String) (sel : Selection)
    (next : Run → Analysis → Run) : Run :=
  match analyzeFile host.interpreter fs sel path none with
  | .error fault => (Run.start fs []).failed host.console fault
  | .ok m =>
    let o := Run.start fs m.fileEvents
    match m.analysis.select function with
    | .error fault => o.failed host.console fault
    | .ok a => next o a

/-- Prints the stubs of an analysis, or writes them to a file. -/
def showStubs (console : Console) (output : Option Path) (o : Run) (a : Analysis) : Run :=
  let text := stubModule a a.module
  match output with
  | none => o.print text
  | some file =>
    match o.files.write file text with
    | .error reason => o.crashed (.unwritable reason)
    | .ok fs =>
      { o with files := fs }.showLines console ["[green]Wrote " ++ file.toString ++ "[/green]"]

/-- The JSON value of an analysis. -/
def report (a : Analysis) : Json :=
  .object
    [.mk "file" (.text a.file.toString), .mk "module" (.text a.module),
      .mk "functions" (.array (a.results.map Accumulator.report))]

/-- Lists the branches of an analysis of the file at a path. -/
def showBranches (console : Console) (path : Path) (json : Bool) (o : Run) (a : Analysis) : Run :=
  if json then o.print ((report a).compact ++ "\n")
  else if a.results.isEmpty then
    o.showLines console ["No exported functions in '[cyan]" ++ path.toString ++ "[/cyan]'"]
  else o.showLines console (a.results.flatMap Accumulator.listing)

/-- The lines on the counts of a run over a directory. -/
def summary (s : Stats) : List String :=
  ["[green]Done![/green]",
    "  Files analyzed: " ++ toString s.files,
    "  Functions: " ++ toString s.functions,
    "  Branches: " ++ toString s.branches ++ " ([green]" ++ toString s.success
      ++ " success[/], [red]" ++ toString s.failure ++ " failure[/])"]
  ++ (if s.skipped = 0 then [] else ["  [dim]Skipped: " ++ toString s.skipped ++ "[/]"])
  ++ (if s.errors.isEmpty then []
    else ("  [red]Errors: " ++ toString s.errors.length ++ "[/red]")
      :: s.errors.map fun e => "    " ++ e)

/-- The markup of a progress display beside its bar. -/
def progressMarkup (description : String) : String :=
  "[progress.description]" ++ description

/-- What a progress display over a directory shows before a file is done. -/
def firstShown (directory : Path) : String :=
  progressMarkup ("Scanning [cyan]" ++ directory.name ++ "[/]")

/-- What a progress display shows last: the file that was done last, if one was. -/
def lastShown (s : Survey) : String :=
  match s.progress.getLast? with
  | some (file, _, _) =>
    progressMarkup ("[cyan]" ++ (file.relativeTo s.directory).toString ++ "[/]")
  | none => firstShown s.directory

/-- Shows the counts of a run over a directory. The progress display before them
is gone in the end, but what it shows last must be markup, also if the run is ended by a
fault. -/
def showSurvey (console : Console) (fs : Files) (s : Survey) : Run :=
  let o := Run.start fs s.events
  match console.render (lastShown s) with
  | .error failure => o.crashed (.console failure)
  | .ok _ =>
    match s.crash with
    | some fault => o.failed console fault
    | none => o.showLines console (summary s.stats)

/-- Counts the branches below a directory. A display that is drawn as the run goes on
shows its first text before any file is read. -/
def scanDirectory (host : Host) (fs : Files) (directory : Path) (excludes : List String)
    (sel : Selection) : Run :=
  match host.console.lines (if host.console.isLive then [firstShown directory] else []) with
  | (_, some failure) => (Run.start fs []).crashed (.console failure)
  | (_, none) =>
    showSurvey host.console fs (survey host.interpreter fs sel directory excludes)

/-- Runs a command. -/
def run (host : Host) (fs : Files) : Command → Run
  | .stubs path output function sel =>
    analyze host fs path function sel (showStubs host.console output)
  | .branches path function sel json =>
    analyze host fs path function sel (showBranches host.console path json)
  | .scan path excludes sel => scanDirectory host fs (fs.resolve path) excludes sel

end Command

/-- How the commands are called. -/
def usage : String :=
  Text.joinWith "\n"
    ["Usage: branchwise [-v] COMMAND [ARGS]",
      "",
      "Commands:",
      "  stubs PATH [-o FILE] [-f NAME] [--private] [-m]   Generate test stubs, one per branch",
      "  branches PATH [-f NAME] [--private] [-m] [-j]     List the branches of each function",
      "  scan [PATH] [-e PATTERN] [--private] [-m]         Count the branches in a directory",
      ""]

/-- Runs a request, with the log that it asks for. -/
def Request.run (host : Host) (fs : Files) (r : Request) : Run :=
  let o := r.command.run host fs
  let threshold := if r.verbose then Level.debug else Level.warning
  { o with log := o.log.filter fun e => threshold.atLeast e.level }

/-- Runs a command line on a tree of files. -/
def run (host : Host) (fs : Files) (args : List String) : Run :=
  let o := Run.start fs []
  match Request.read fs args with
  | .ok r => r.run host fs
  | .error .help => o.print usage
  | .error .usage => { o with exitCode := 2, stderr := usage }
  | .error .nulInPath => o.crashed (.fault .nulInPath)

end Branchwise
