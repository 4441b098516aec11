/-
The tools that a tool server offers.

* `toolList`: their names, descriptions and arguments.
* `callTool`: calls a tool. A result is written with an item on each line, a
  reported fault on one line.
-/
import Branchwise.Analysis.File
import Branchwise.Report
import Branchwise.Stub

namespace Branchwise.Tools

open Source (Selection)

/-- A tool, with the JSON schema of its arguments. -/
structure Tool where
  name : String
  description : String
  inputSchema : Json

/-- The schema of one argument. -/
def argument (type description : String) (more : List Field) : Json :=
  .object ([.mk "type" (.text type), .mk "description" (.text description)] ++ more)

/-- The schema of the arguments of a tool that needs a path. -/
def schema (properties : List Field) : Json :=
  .object
    [.mk "type" (.text "object"), .mk "properties" (.object properties),
      .mk "required" (.texts ["path"])]

/-- The tools. -/
def toolList : List Tool :=
  [{ name := "pathseed_branches"
     description := "List the success and failure branches of the exported functions "
       ++ "in a Python file. Each branch is the chain of if/try decisions "
       ++ "leading to a return or raise."
     inputSchema := schema
       [.mk "path" (argument "string" "Path to the Python file" []),
         .mk "function" (argument "string" "Only this function (optional)" []),
         .mk "include_private"
           (argument "boolean" "Include functions starting with '_' (default: false)"
             [.mk "default" (.bool false)])] },
    { name := "pathseed_stubs"
      description := "Generate a pytest module with one commented test stub per branch "
        ++ "of each exported function in a Python file."
      inputSchema := schema
        [.mk "path" (argument "string" "Path to the Python file" []),
          .mk "module" (argument "string" "Module name to import from (default: file stem)" [])] }]

/-- The arguments of a call; those that a tool does not know are ignored. -/
structure Arguments where
  path : Option String
  function : Option String
  includePrivate : Bool
  module : Option String
  deriving Inhabited

/-- Why a call gives no answer. -/
inductive CallFault where
  /-- The path is missing. -/
  | noPath
  /-- A fault that is not reported to the caller. -/
  | unreported (fault : Fault)

/-- The text of a fault. -/
def CallFault.message : CallFault → String
  | noPath => "'path'"
  | unreported fault => fault.message

/-- The answer to a call, with what it logged. -/
structure Answer where
  text : Except CallFault String
  log : List Event

/-- An error as an object. -/
def errorObject (message : String) : Json :=
  .object [.mk "error" (.text message)]

/-- The answer to a fault: those that are reported become an error object. -/
def answerFault (fault : Fault) (log : List Event) : Answer :=
  if fault.isReported then ⟨.ok (errorObject fault.message).compact, log⟩
  else ⟨.error (.unreported fault), log⟩

/-- Analyzes the file at a path, counted from the current directory, and answers
with what `result` makes of the analysis. -/
def answer (interp : Interpreter) (fs : Files) (sel : Selection) (path : String)
    (result : Analysis → Except Fault Json) : Answer :=
  let file := (⟨1, fs.current⟩ : Path).join (.ofString path)
  match fs.look file with
  | .ok (some (_, .file _)) =>
    match analyzeFile interp fs sel file none with
    | .error fault => answerFault fault []
    | .ok m =>
      match result m.analysis with
      | .ok value => ⟨.ok value.indented, m.fileEvents⟩
      | .error fault => answerFault fault m.fileEvents
  | .ok _ => ⟨.ok (missing file), []⟩
  | .error reason => answerFault (.inaccessible file reason) []
where
  /-- The answer for a path that is not that of a file. -/
  missing (file : Path) : String :=
    (errorObject ("No such Python file: " ++ file.toString)).compact

/-- The branches of a file, or of one of its functions. -/
def branchesResult (function : Option String) (a : Analysis) : Except Fault Json :=
  match a.select (function.getD "") with
  | .ok a => .ok (.object
      [.mk "file" (.text a.file.toString),
        .mk "functions" (.array (a.results.map Accumulator.report))])
  | .error fault => .error fault

/-- The test module of a file. -/
def stubsResult (module : Option String) (a : Analysis) : Except Fault Json :=
  .ok (.object
    [.mk "file" (.text a.file.toString),
      .mk "stubs" (.text (stubModule a (module.getD a.module)))])

/-- Calls a tool. -/
def callTool (interp : Interpreter) (fs : Files) (name : String) (args : Arguments) : Answer :=
  if name = "pathseed_branches" then
    match args.path with
    | none => ⟨.error .noPath, []⟩
    | some path =>
      answer interp fs ⟨args.includePrivate, false⟩ path (branchesResult args.function)
  else if name = "pathseed_stubs" then
    match args.path with
    | none => ⟨.error .noPath, []⟩
    | some path => answer interp fs ⟨false, false⟩ path (stubsResult args.module)
  else ⟨.ok (errorObject ("Unknown tool: " ++ name)).indented, []⟩

end Branchwise.Tools
