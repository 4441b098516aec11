/-
The command line and the tools give the same answers.

Both analyze one file and show what was found, or say what is wrong. They differ in
how they are called, in the form of their answers, and in what they do with a fault. They also
ask in other ways whether they may read the file, and here they part.

* `Question`: what can be asked of both; `Agree`: a command and a tool agree.
* `Question.request_eq`: the command lines.
* `Files.analysis`: what both of them show.
* `Question.text_eq`, `Question.run_of_analysis`, `Question.run_of_fault`: the answers, by the
  analysis.
* `Question.agree_of_opens`: they agree on a file that can be opened.
* `Question.reports_of_refusal`, `Question.text_of_refusal`, `Question.run_of_not_opens`,
  `Question.text_of_not_opens`: what they answer on other files.
* `tools_agree_iff_opens`: **each tool agrees with its command**, for exactly the files that can
  be opened.
-/
import Branchwise.Proofs.FaultIsolation
import Branchwise.Proofs.NamedFiles

namespace Branchwise

open Source (Selection)

/-! ### Questions -/

/-- What can be asked of the command line and of a tool about the file at a path. -/
inductive Question where
  /-- The branches of the functions, or of one of them. -/
  | branches (function : Option String) (includePrivate : Bool)
  /-- The stubs. -/
  | stubs

namespace Question

/-- The command line that asks it. -/
def line (path : String) : Question → List String
  | branches function includePrivate =>
    "branches" :: path :: "--json" ::
      ((function.elim [] fun name => ["-f", name]) ++ if includePrivate then ["--private"] else [])
  | stubs => ["stubs", path]

/-- The tool that answers it. -/
def tool : Question → String
  | branches _ _ => "pathseed_branches"
  | stubs => "pathseed_stubs"

/-- The arguments for the tool. -/
def arguments (path : String) : Question → Tools.Arguments
  | branches function includePrivate => ⟨some path, function, includePrivate, none⟩
  | stubs => ⟨some path, none, false, none⟩

/-- The command line prints what the tool has in the fields of its result: the branches of the
same file with its functions, or the stubs. -/
def Shows (stdout : String) (fields : List Field) : Question → Prop
  | branches _ _ => ∃ file module functions,
    stdout = (Json.object [.mk "file" file, .mk "module" module,
      .mk "functions" functions]).compact ++ "\n" ∧
    fields = [.mk "file" file, .mk "functions" functions]
  | stubs => ∃ file, fields = [.mk "file" file, .mk "stubs" (.text stdout)]

end Question

/-- A run and the answer of a tool agree: both have a result, of which they show what `Shown`
says, or both tell the message on a fault, or both end by a fault that is not reported. -/
structure Agree (console : Console) (fs : Files) (o : Run) (text : Except Tools.CallFault String)
    (Shown : String → List Field → Prop) : Prop where
  result_iff : (∃ fields, text = .ok (Json.object fields).indented) ↔ o.exitCode = 0
  result : o.exitCode = 0 →
    ∃ fields, text = .ok (Json.object fields).indented ∧ Shown o.stdout fields
  error_iff : (∃ message, text = .ok (Tools.errorObject message).compact) ↔
    o.exitCode = 1 ∧ o.crash = none
  error : o.exitCode = 1 → o.crash = none → ∃ fault : Fault, fault.isReported = true ∧
    o.Reports console fs fault ∧ text = .ok (Tools.errorObject fault.message).compact
  crash_iff : ∀ fault, text = .error (.unreported fault) ↔ o.crash = some (.fault fault)
  covers : o.exitCode = 0 ∨ o.exitCode = 1 ∧ o.crash = none ∨
    ∃ fault, text = .error (.unreported fault)

/-! ### Command lines -/

namespace Command

namespace Arguments

variable {rules : List Rule} {args : List String} {a : Arguments}
  {options : List (OptionName × String)}

/-- An operand in front of a command line. -/
lemma read?_operand {arg : String} (hend : arg ≠ "--") (hoption : isOption arg = false)
    (h : read? rules true args = some a) :
    read? rules true (arg :: args) = some ⟨a.options, arg :: a.operands⟩ := by
  rw [read?, if_neg hend, hoption, if_neg Bool.false_ne_true, if_pos rfl, h]
  rfl

/-- Options without a value in front of a command line. -/
lemma read?_flag (arg : String) (hend : arg ≠ "--") (hoption : isOption arg = true)
    (hgroup : readGroup? rules arg.toList = some ⟨options, none⟩)
    (h : read? rules true args = some a) :
    read? rules true (arg :: args) = some ⟨options ++ a.options, a.operands⟩ := by
  rw [read?, if_neg hend, hoption, if_pos rfl, hgroup, h]
  rfl

/-- An option and its value in front of a command line. -/
lemma read?_value (arg : String) {name : OptionName} (hend : arg ≠ "--")
    (hoption : isOption arg = true)
    (hgroup : readGroup? rules arg.toList = some ⟨options, some name⟩)
    (h : read? rules true args = some a) (value : String) :
    read? rules true (arg :: value :: args) =
      some ⟨options ++ (name, value) :: a.options, a.operands⟩ := by
  rw [read?, if_neg hend, hoption, if_pos rfl, hgroup]
  dsimp only
  rw [h]
  rfl

end Arguments

/-- An absolute path starts with a slash, so it is no option. -/
lemma isOption_of_isAbsolute {path : String} (h : (Path.ofString path).isAbsolute = true) :
    path ≠ "--" ∧ Arguments.isOption path = false := by
  cases hpath : path.toList with
  | nil => simp [Path.ofString, Path.isAbsolute, hpath] at h
  | cons c cs =>
      obtain rfl : c = '/' := by
        by_contra hc
        simp [Path.ofString, Path.isAbsolute, hpath, hc] at h
      refine ⟨?_, by simp [Arguments.isOption, hpath]⟩
      rintro rfl
      simp at hpath

lemma onlyPath_eq (fs : Files) (path : String) (options : List (OptionName × String)) :
    onlyPath fs ⟨options, [path]⟩ = readPath fs path := by
  rw [onlyPath]
  dsimp only
  cases readPath fs path <;> rfl

lemma readArguments_eq {rules : List Rule} {args : List String} {a : Arguments}
    (h : Arguments.read? rules true args = some a) (hhelp : a.has .help = false) :
    readArguments rules args = .ok a := by
  rw [readArguments, h]
  dsimp only
  rw [hhelp]
  rfl

lemma read_branches {fs : Files} {args : List String} {a : Arguments}
    (h : readArguments branchesRules args = .ok a) :
    Command.read fs "branches" args = (onlyPath fs a).map fun path =>
      .branches path ((a.value? .function).getD "") (selection a) (a.has .json) := by
  have hread : Command.read fs "branches" args = (readArguments branchesRules args).bind fun a =>
      (onlyPath fs a).bind fun path =>
        .ok (.branches path ((a.value? .function).getD "") (selection a) (a.has .json)) := rfl
  rw [hread, h]
  rfl

lemma read_stubs {fs : Files} {args : List String} {a : Arguments} {output : Option Path}
    (h : readArguments stubsRules args = .ok a) (houtput : readOutput fs a = .ok output) :
    Command.read fs "stubs" args = (onlyPath fs a).map fun path =>
      .stubs path output ((a.value? .function).getD "") (selection a) := by
  have hread : Command.read fs "stubs" args = (readArguments stubsRules args).bind fun a =>
      (readOutput fs a).bind fun output => (onlyPath fs a).bind fun path =>
        .ok (.stubs path output ((a.value? .function).getD "") (selection a)) := rfl
  rw [hread, h]
  dsimp only [Except.bind]
  rw [houtput]
  rfl

/-- A command line that starts with the name of a command. -/
lemma read_command (fs : Files) {name : String} (args : List String) (hend : name ≠ "--")
    (hname : Arguments.isOption name = false) :
    Request.read fs (name :: args) =
      (Command.read fs name args).map fun command => ⟨command, false⟩ := by
  rw [Request.read, Arguments.read?, if_neg hend, hname, if_neg Bool.false_ne_true,
    if_neg Bool.false_ne_true]
  dsimp only
  cases Command.read fs name args <;> rfl

lemma read_stubsLineTo {fs : Files} {path out : String} {file : Path}
    (habsolute : (Path.ofString path).isAbsolute = true) (hout : readPath fs out = .ok file) :
    Request.read fs ["stubs", path, "-o", out] = (readPath fs path).map fun p =>
      ⟨.stubs p (some file) "" ⟨false, false⟩, false⟩ := by
  obtain ⟨hend, hoption⟩ := isOption_of_isAbsolute habsolute
  have hnone : Arguments.read? stubsRules true [] = some ⟨[], []⟩ := rfl
  have hline := Arguments.read?_operand hend hoption
    (Arguments.read?_value "-o" (by decide) (by decide) rfl hnone out)
  have houtput : readOutput fs ⟨[(.output, out)], [path]⟩ = .ok (some file) := by
    rw [readOutput, show Arguments.value? ⟨[(.output, out)], [path]⟩ .output = some out from rfl]
    dsimp only
    rw [hout]
  rw [read_command fs [path, "-o", out] (by decide) (by decide),
    read_stubs (readArguments_eq hline rfl) houtput, onlyPath_eq]
  cases readPath fs path <;> rfl

end Command

namespace Question

/-- The command that asks it. -/
def command (path : Path) : Question → Command
  | branches function includePrivate =>
    .branches path (function.getD "") ⟨includePrivate, false⟩ true
  | stubs => .stubs path none "" ⟨false, false⟩

open Command in
/-- **The command lines**: they are taken if their path is. -/
lemma request_eq (q : Question) (fs : Files) {path : String}
    (habsolute : (Path.ofString path).isAbsolute = true) :
    Request.read fs (q.line path) =
      (Command.readPath fs path).map fun p => ⟨q.command p, false⟩ := by
  obtain ⟨hend, hoption⟩ := Command.isOption_of_isAbsolute habsolute
  cases q with
  | stubs =>
      have hnone : Arguments.read? stubsRules true [] = some ⟨[], []⟩ := rfl
      have hline := Arguments.read?_operand hend hoption hnone
      rw [line, read_command fs [path] (by decide) (by decide),
        read_stubs (readArguments_eq hline rfl) rfl, onlyPath_eq]
      cases readPath fs path <;> rfl
  | branches function includePrivate =>
      have hprivate : Arguments.read? branchesRules true
          (if includePrivate then ["--private"] else []) =
          some ⟨if includePrivate then [(.includePrivate, "")] else [], []⟩ := by
        cases includePrivate <;> rfl
      have hfunction : Arguments.read? branchesRules true
          ((function.elim [] fun name => ["-f", name])
            ++ if includePrivate then ["--private"] else []) =
          some ⟨(function.toList.map fun name => (.function, name))
            ++ if includePrivate then [(.includePrivate, "")] else [], []⟩ := by
        cases function with
        | none => exact hprivate
        | some name => exact Arguments.read?_value "-f" (by decide) (by decide) rfl hprivate name
      have hline := Arguments.read?_operand hend hoption
        (Arguments.read?_flag "--json" (by decide) (by decide) rfl hfunction)
      have hhelp := readArguments_eq hline (by cases function <;> cases includePrivate <;> rfl)
      rw [line, read_command fs _ (by decide) (by decide), read_branches hhelp, onlyPath_eq]
      cases readPath fs path with
      | error r => rfl
      | ok p => cases function <;> cases includePrivate <;> rfl

end Question

/-! ### One analysis -/

/-- The analysis that a command or a tool shows: that of a file, or of one function in it. -/
def Files.analysis (fs : Files) (interp : Interpreter) (sel : Selection) (path : Path)
    (function : String) : Except Fault Analysis :=
  match analyzeFile interp fs sel path none with
  | .error fault => .error fault
  | .ok m => m.analysis.select function

/-- A file that cannot be read has no analysis. -/
lemma Files.analysis_of_read_error {fs : Files} {path : Path} {fault : Fault}
    (h : fs.read path = .error fault) (interp : Interpreter) (sel : Selection)
    (function : String) : fs.analysis interp sel path function = .error fault := by
  rw [Files.analysis, analyzeFile, h]

variable {fs : Files} {host : Host}

/-- Nothing that the analysis of a file logs is a warning. -/
lemma SourceModule.atLeast_level_fileEvents {m : SourceModule} {e : Event}
    (h : e ∈ m.fileEvents) : Level.warning.atLeast e.level = false := by
  rw [fileEvents, parsedEvents, walkedEvents, List.mem_append, List.mem_cons, List.mem_map,
    List.mem_flatMap] at h
  rcases h with ⟨f, -, rfl⟩ | rfl | ⟨f, -, hwalked⟩
  · rfl
  · rfl
  · obtain ⟨record, -, rfl⟩ := List.mem_map.mp hwalked
    rfl

namespace Command

variable {sel : Selection} {path : Path} {function : String} {next : Run → Analysis → Run}

variable (next) in
lemma analyze_of_analysis {a : Analysis}
    (h : fs.analysis host.interpreter sel path function = .ok a) :
    ∃ log, analyze host fs path function sel next = next (Run.start fs log) a := by
  rw [Files.analysis] at h
  split at h
  · cases h
  · next m hm =>
    refine ⟨m.fileEvents, ?_⟩
    rw [analyze, hm]
    dsimp only
    rw [h]

variable (next) in
lemma analyze_of_fault {fault : Fault}
    (h : fs.analysis host.interpreter sel path function = .error fault) :
    ∃ log, (∀ e ∈ log, Level.warning.atLeast e.level = false) ∧
      analyze host fs path function sel next = (Run.start fs log).failed host.console fault := by
  rw [Files.analysis] at h
  split at h
  · next hfault =>
    cases h
    refine ⟨[], fun e he => absurd he List.not_mem_nil, ?_⟩
    rw [analyze, hfault]
  · next m hm =>
    refine ⟨m.fileEvents, fun e he => SourceModule.atLeast_level_fileEvents he, ?_⟩
    rw [analyze, hm]
    dsimp only
    rw [h]

end Command

/-! ### Runs of commands -/

/-- What was logged before a fault does not change how it ends the run. -/
lemma Run.failed_start (console : Console) (log : List Event) (fault : Fault) :
    (Run.start fs log).failed console fault =
      { (Run.start fs []).failed console fault with log := log } := by
  rw [Run.failed, Run.failed]
  split_ifs
  · cases console.render ("[red]" ++ Markup.escape fault.message ++ "[/red]") <;> rfl
  · rfl

lemma Run.exitCode_failed (o : Run) (console : Console) (fault : Fault) :
    (o.failed console fault).exitCode = 1 := by
  rw [Run.failed]
  split_ifs
  · cases console.render ("[red]" ++ Markup.escape fault.message ++ "[/red]") <;> rfl
  · rfl

lemma Run.files_showLines (o : Run) (console : Console) (markups : List String) :
    (o.showLines console markups).files = o.files := by
  rw [Run.showLines]
  split <;> rfl

/-- The log apart, a command line does what its command does. -/
lemma exists_run_eq (host : Host) {args : List String} {r : Request}
    (h : Request.read fs args = .ok r) :
    ∃ log, run host fs args = { r.command.run host fs with log := log } := by
  rw [run, h]
  exact ⟨_, rfl⟩

/-- What is to be written is written before anything is shown. -/
lemma Command.files_run_of_write {path file : Path} {function : String} {sel : Selection}
    {a : Analysis} {fs' : Files} (ha : fs.analysis host.interpreter sel path function = .ok a)
    (hwrite : fs.write file (stubModule a a.module) = .ok fs') :
    (Command.run host fs (.stubs path (some file) function sel)).files = fs' := by
  obtain ⟨log, hrun⟩ := analyze_of_analysis (showStubs host.console (some file)) ha
  have hfiles : (Run.start fs log).files.write file (stubModule a a.module) = .ok fs' := hwrite
  rw [run, hrun, showStubs, hfiles]
  exact Run.files_showLines _ _ _

/-- A command line that is not taken. -/
lemma run_of_usage {args : List String} (h : Request.read fs args = .error .usage) :
    run host fs args = { Run.start fs [] with exitCode := 2, stderr := usage } := by
  rw [run, h]

/-! ### Ways to agree -/

/-- A result is never taken for an error: their second characters differ. -/
lemma Tools.indented_ne_errorObject (fields : List Field) (message : String) :
    (Json.object fields).indented ≠ (errorObject message).compact := by
  intro h
  have hsecond := congrArg (fun s => s.toList[1]?) h
  rw [errorObject, Json.indented, Json.compact, Json.print] at hsecond
  cases fields with
  | nil => simp [Json.print, Json.printField, Json.lineStart, Json.quoted] at hsecond
  | cons field fields => simp [Json.print, Json.printField, Json.lineStart, Json.quoted] at hsecond

namespace Agree

variable {console : Console} {o : Run} {text : Except Tools.CallFault String}
  {Shown : String → List Field → Prop}

lemma of_result {fields : List Field} (hcode : o.exitCode = 0) (hcrash : o.crash = none)
    (htext : text = .ok (Json.object fields).indented) (hshown : Shown o.stdout fields) :
    Agree console fs o text Shown where
  result_iff := iff_of_true ⟨fields, htext⟩ hcode
  result _ := ⟨fields, htext, hshown⟩
  error_iff := by
    refine iff_of_false ?_ fun h => absurd (hcode.symm.trans h.1) Nat.zero_ne_one
    rintro ⟨message, hmessage⟩
    exact Tools.indented_ne_errorObject fields message (Except.ok.inj (htext.symm.trans hmessage))
  error hone := absurd (hcode.symm.trans hone) Nat.zero_ne_one
  crash_iff fault := by simp [htext, hcrash]
  covers := .inl hcode

lemma of_reported {fault : Fault} (hreported : fault.isReported = true)
    (hreports : o.Reports console fs fault)
    (htext : text = .ok (Tools.errorObject fault.message).compact) :
    Agree console fs o text Shown where
  result_iff := by
    refine iff_of_false ?_ fun h => absurd (h.symm.trans hreports.exitCode) Nat.zero_ne_one
    rintro ⟨fields, hfields⟩
    exact Tools.indented_ne_errorObject fields _ (Except.ok.inj (hfields.symm.trans htext))
  result hzero := absurd (hzero.symm.trans hreports.exitCode) Nat.zero_ne_one
  error_iff := iff_of_true ⟨fault.message, htext⟩ ⟨hreports.exitCode, hreports.crash⟩
  error _ _ := ⟨fault, hreported, hreports, htext⟩
  crash_iff fault := by simp [htext, hreports.crash]
  covers := .inr (.inl ⟨hreports.exitCode, hreports.crash⟩)

lemma of_unreported {fault : Fault} (hcode : o.exitCode = 1)
    (hcrash : o.crash = some (.fault fault)) (htext : text = .error (.unreported fault)) :
    Agree console fs o text Shown where
  result_iff := by simp [htext, hcode]
  result hzero := absurd (hzero.symm.trans hcode) Nat.zero_ne_one
  error_iff := by simp [htext, hcrash]
  error _ hnone := by simp [hcrash] at hnone
  crash_iff fault' := by simp [htext, hcrash]
  covers := .inr (.inr ⟨fault, htext⟩)

/-- A fault is the answer of both. -/
lemma of_fault (hconsole : console.Documented) (fault : Fault)
    (Shown : String → List Field → Prop) :
    Agree console fs ((Run.start fs []).failed console fault) (Tools.answerFault fault []).text
      Shown := by
  cases hreported : fault.isReported with
  | true =>
      refine of_reported hreported (Run.reports_failed hconsole hreported) ?_
      rw [Tools.answerFault, if_pos hreported]
  | false =>
      rw [Run.failed, Tools.answerFault, hreported, if_neg Bool.false_ne_true,
        if_neg Bool.false_ne_true]
      exact of_unreported rfl rfl rfl

end Agree

/-! ### Answers -/

namespace Question

/-- The function that it is about. -/
def function : Question → String
  | branches function _ => function.getD ""
  | stubs => ""

/-- What it selects. -/
def selection : Question → Selection
  | branches _ includePrivate => ⟨includePrivate, false⟩
  | stubs => ⟨false, false⟩

/-- The fields of the result that a tool makes of an analysis. -/
def fields (a : Analysis) : Question → List Field
  | branches _ _ => [.mk "file" (.text a.file.toString),
    .mk "functions" (.array (a.results.map Accumulator.report))]
  | stubs => [.mk "file" (.text a.file.toString), .mk "stubs" (.text (stubModule a a.module))]

/-- What the command line does with an analysis. -/
def next (console : Console) (path : Path) : Question → Run → Analysis → Run
  | branches _ _ => Command.showBranches console path true
  | stubs => Command.showStubs console none

variable (q : Question) {path : String}

lemma run_command (path : Path) : (q.command path).run host fs =
    Command.analyze host fs path q.function q.selection (q.next host.console path) := by
  cases q <;> rfl

/-- What is shown of an analysis is what the tool has in its fields. -/
lemma shows_next (fs : Files) (console : Console) (path : Path) (log : List Event)
    (a : Analysis) :
    let o := q.next console path (Run.start fs log) a
    o.exitCode = 0 ∧ o.crash = none ∧ q.Shows o.stdout (q.fields a) := by
  cases q with
  | branches function includePrivate => exact ⟨rfl, rfl, _, _, _, String.empty_append, rfl⟩
  | stubs =>
      refine ⟨rfl, rfl, .text a.file.toString, ?_⟩
      rw [next, Command.showStubs, Run.print, Run.start, String.empty_append, fields]

/-- What a tool makes of an analysis. -/
def answerText (a : Except Fault Analysis) : Except Tools.CallFault String :=
  match a with
  | .error fault => (Tools.answerFault fault []).text
  | .ok a => .ok (Json.object (q.fields a)).indented

/-- What a tool makes of what stands at a path. -/
def textAt (interp : Interpreter) (fs : Files) (path : Path) : Except Tools.CallFault String :=
  match fs.look path with
  | .ok (some (_, .file _)) => q.answerText (fs.analysis interp q.selection path q.function)
  | .ok _ => .ok (Tools.answer.missing path)
  | .error reason => (Tools.answerFault (.inaccessible path reason) []).text

lemma text_answer (interp : Interpreter) (habsolute : (Path.ofString path).isAbsolute = true)
    {result : Analysis → Except Fault Json}
    (hresult : ∀ a, result a = (a.select q.function).map fun a => .object (q.fields a)) :
    (Tools.answer interp fs q.selection path result).text =
      q.textAt interp fs (.ofString path) := by
  have hlog : ∀ fault log, (Tools.answerFault fault log).text =
      (Tools.answerFault fault []).text := by
    intro fault log
    rw [Tools.answerFault, Tools.answerFault]
    split_ifs <;> rfl
  rw [Tools.answer, Path.join, if_pos habsolute, textAt]
  cases fs.look (.ofString path) with
  | error reason => rfl
  | ok found =>
      rcases found with _ | ⟨place, bytes | _⟩
      · rfl
      · dsimp only
        rw [Files.analysis]
        cases analyzeFile interp fs q.selection (.ofString path) none with
        | error fault => rfl
        | ok m =>
            dsimp only
            rw [hresult]
            cases m.analysis.select q.function with
            | ok a => rfl
            | error fault => exact hlog fault _
      · rfl

/-- **The answers of the tools.** -/
lemma text_eq (interp : Interpreter) (habsolute : (Path.ofString path).isAbsolute = true) :
    (Tools.callTool interp fs q.tool (q.arguments path)).text =
      q.textAt interp fs (.ofString path) := by
  rw [Tools.callTool]
  cases q with
  | branches function includePrivate =>
      rw [tool, if_pos rfl]
      refine text_answer (branches function includePrivate) interp habsolute fun a => ?_
      rw [Tools.branchesResult]
      dsimp only [arguments, Question.function]
      cases a.select (function.getD "") <;> rfl
  | stubs =>
      rw [tool, if_neg (by decide), if_pos rfl]
      exact text_answer stubs interp habsolute fun a => rfl

section Answers

variable (habsolute : (Path.ofString path).isAbsolute = true)

include habsolute

lemma run_of_analysis (hpath : Command.readPath fs path = .ok (.ofString path)) {a : Analysis}
    (h : fs.analysis host.interpreter q.selection (.ofString path) q.function = .ok a) :
    ∃ log shown, run host fs (q.line path) =
      { q.next host.console (.ofString path) (Run.start fs log) a with log := shown } := by
  have hargs := q.request_eq fs habsolute
  rw [hpath] at hargs
  obtain ⟨log, hrun⟩ := Command.analyze_of_analysis (q.next host.console (.ofString path)) h
  obtain ⟨shown, hargs⟩ := exists_run_eq host hargs
  exact ⟨log, shown, by rw [hargs, run_command, hrun]⟩

lemma run_of_fault (hpath : Command.readPath fs path = .ok (.ofString path)) {fault : Fault}
    (h : fs.analysis host.interpreter q.selection (.ofString path) q.function = .error fault) :
    run host fs (q.line path) = (Run.start fs []).failed host.console fault := by
  have hargs := q.request_eq fs habsolute
  rw [hpath] at hargs
  obtain ⟨log, hquiet, hrun⟩ :=
    Command.analyze_of_fault (q.next host.console (.ofString path)) h
  have hfilter : log.filter (fun e => Level.warning.atLeast e.level) = [] :=
    List.filter_eq_nil_iff.mpr fun e he => by simp [hquiet e he]
  rw [run, hargs]
  dsimp only [Except.map]
  rw [Request.run, run_command, hrun, Run.failed_start]
  dsimp only
  rw [if_neg Bool.false_ne_true, hfilter, ← Run.failed_start]

/-- **On a file that can be opened, the command and the tool agree.** -/
lemma agree_of_opens (hconsole : host.console.Documented)
    (hnul : Files.hasNul (.ofString path) = false) (hopens : fs.Opens path) :
    Agree host.console fs (run host fs (q.line path))
      (Tools.callTool host.interpreter fs q.tool (q.arguments path)).text (q.Shows · ·) := by
  obtain ⟨place, bytes, hfind, hrights⟩ := hopens
  have hpath := (Command.readPath_of_find habsolute hnul hfind).1 ⟨place, bytes, hfind, hrights⟩
  rw [q.text_eq host.interpreter habsolute, textAt, Files.look_of_find hnul hfind]
  dsimp only
  cases h : fs.analysis host.interpreter q.selection (.ofString path) q.function with
  | error fault =>
      rw [q.run_of_fault habsolute hpath h]
      exact Agree.of_fault hconsole fault _
  | ok a =>
      obtain ⟨log, shown, hrun⟩ := q.run_of_analysis habsolute hpath h
      obtain ⟨hcode, hcrash, hshown⟩ := q.shows_next fs host.console (.ofString path) log a
      rw [hrun]
      exact Agree.of_result hcode hcrash rfl hshown

section Refusal

variable (hnul : Files.hasNul (.ofString path) = false) {reason : ReadFailure}
  (hfind : fs.find (.ofString path) = .error reason)

include hnul hfind

/-- The command reports that the path is refused. -/
lemma reports_of_refusal (hconsole : host.console.Documented) :
    (run host fs (q.line path)).Reports host.console fs (.unreadable (.ofString path) reason) := by
  have hpath := Command.readPath_of_find_error habsolute hnul hfind
  have hread : fs.read (.ofString path) = .error (.unreadable (.ofString path) reason) := by
    rw [Files.read, hnul, if_neg Bool.false_ne_true, hfind]
  rw [q.run_of_fault habsolute hpath (Files.analysis_of_read_error hread _ _ _)]
  exact Run.reports_failed hconsole rfl

/-- The tool lets the exception through. -/
lemma text_of_refusal (interp : Interpreter) (hreason : reason.isRefusal = true) :
    (Tools.callTool interp fs q.tool (q.arguments path)).text =
      .error (.unreported (.inaccessible (.ofString path) reason)) := by
  rw [q.text_eq interp habsolute, textAt, Files.look_of_refusal hnul hfind hreason]
  rfl

end Refusal

section NotOpens

variable (hnul : Files.hasNul (.ofString path) = false) {place : Place} {bytes : List Nat}
  (hfind : fs.find (.ofString path) = .ok (place, .file bytes)) (hopens : ¬ fs.Opens path)

include hnul hfind hopens

/-- The command line is not taken if the file may not be read. -/
lemma run_of_not_opens : run host fs (q.line path) =
    { Run.start fs [] with exitCode := 2, stderr := usage } := by
  refine run_of_usage ?_
  rw [q.request_eq fs habsolute, (Command.readPath_of_find habsolute hnul hfind).2 hopens]
  rfl

/-- The tool answers that the file may not be read. -/
lemma text_of_not_opens (interp : Interpreter) :
    (Tools.callTool interp fs q.tool (q.arguments path)).text =
      .ok (Tools.errorObject (Fault.unreadable (.ofString path) .denied).message).compact := by
  have hright : (fs.rights place).read = false := by
    by_contra h
    exact hopens ⟨place, bytes, hfind, .inl (by simpa using h)⟩
  have hread : fs.read (.ofString path) = .error (.unreadable (.ofString path) .denied) := by
    rw [Files.read, hnul, if_neg Bool.false_ne_true, hfind]
    dsimp only
    rw [hright]
    rfl
  rw [q.text_eq interp habsolute, textAt, Files.look_of_find hnul hfind]
  dsimp only
  rw [Files.analysis_of_read_error hread]
  rfl

end NotOpens

variable (hfile : fs.NamesFile (.ofString path)) (hconsole : host.console.Documented)

include hfile hconsole

/-- They agree on no other file. -/
lemma opens_of_agree (hagree : Agree host.console fs (run host fs (q.line path))
    (Tools.callTool host.interpreter fs q.tool (q.arguments path)).text (q.Shows · ·)) :
    fs.Opens path := by
  rcases hfile.find_cases with ⟨place, bytes, hfind⟩ | ⟨reason, hfind, hreason⟩
  · by_contra hopens
    have htext := q.text_of_not_opens habsolute hfile.1 hfind hopens host.interpreter
    have hcode := (hagree.error_iff.mp ⟨_, htext⟩).1
    rw [q.run_of_not_opens habsolute hfile.1 hfind hopens] at hcode
    cases hcode
  · have htext := q.text_of_refusal habsolute hfile.1 hfind host.interpreter hreason
    have hcrash := (hagree.crash_iff _).mp htext
    rw [(q.reports_of_refusal habsolute hfile.1 hfind hconsole).crash] at hcrash
    cases hcrash

/-- A command that comes to its end has taken its path and made its analysis. -/
lemma exists_analysis (hcode : (run host fs (q.line path)).exitCode = 0) :
    Command.readPath fs path = .ok (.ofString path) ∧
      ∃ a, fs.analysis host.interpreter q.selection (.ofString path) q.function = .ok a := by
  rcases hfile.find_cases with ⟨place, bytes, hfind⟩ | ⟨reason, hfind, hreason⟩
  · by_cases hopens : fs.Opens path
    · have hpath := (Command.readPath_of_find habsolute hfile.1 hfind).1 hopens
      refine ⟨hpath, ?_⟩
      cases h : fs.analysis host.interpreter q.selection (.ofString path) q.function with
      | ok a => exact ⟨a, rfl⟩
      | error fault =>
          rw [q.run_of_fault habsolute hpath h, Run.exitCode_failed] at hcode
          cases hcode
    · rw [q.run_of_not_opens habsolute hfile.1 hfind hopens] at hcode
      cases hcode
  · rw [(q.reports_of_refusal habsolute hfile.1 hfind hconsole).exitCode] at hcode
    cases hcode

end Answers

end Question

/-! ### The front ends -/

/-- A tree with a file beside a directory. -/
def windingTree : Files :=
  ((Files.empty ["r"]).put ["r", "d"] .directory).put ["r", "a.py"]
    (.file (Text.Utf8.encode "def f():\n    return 1\n".toList))

/-- The names of a way to the file that goes down to the directory and up again, so many times. -/
def windingNames (turns : Nat) : List String :=
  "r" :: ((List.replicate turns ["d", ".."]).flatten ++ ["a.py"])

/-- The text of such a path. -/
def windingText (turns : Nat) : String :=
  String.ofList ("/r".toList ++ ((List.replicate turns "/d/..".toList).flatten ++ "/a.py".toList))

lemma mem_windingNames {turns : Nat} {name : String} (h : name ∈ windingNames turns) :
    name ∈ ["r", "d", "..", "a.py"] := by
  simp only [windingNames, List.mem_cons, List.mem_append, List.mem_flatten,
    List.mem_replicate] at h
  rcases h with rfl | ⟨names, ⟨-, rfl⟩, hname⟩ | rfl | h
  · simp
  · simp only [List.mem_cons, List.not_mem_nil, or_false] at hname
    rcases hname with rfl | rfl <;> simp
  · simp
  · cases h

lemma splitOn_windingText (turns : Nat) :
    Text.splitOn '/' (windingText turns).toList = [] :: (windingNames turns).map String.toList := by
  have hturns : Text.splitOn '/' ((List.replicate turns "/d/..".toList).flatten ++ "/a.py".toList) =
      [] :: ((List.replicate turns ["d", ".."]).flatten ++ ["a.py"]).map String.toList := by
    induction turns with
    | zero => rfl
    | succ turns ih =>
        have hrest : (List.replicate (turns + 1) "/d/..".toList).flatten ++ "/a.py".toList =
            '/' :: 'd' :: '/' :: '.' :: '.' ::
              ((List.replicate turns "/d/..".toList).flatten ++ "/a.py".toList) := rfl
        rw [hrest, Text.splitOn, Text.splitOn, Text.splitOn, Text.splitOn, Text.splitOn, ih]
        rfl
  have htext : (windingText turns).toList =
      '/' :: 'r' :: ((List.replicate turns "/d/..".toList).flatten ++ "/a.py".toList) := by
    rw [windingText, String.toList_ofList]
    rfl
  rw [htext, Text.splitOn, Text.splitOn, hturns]
  rfl

/-- The text is that of its path, without more. -/
lemma ofString_windingText (turns : Nat) :
    Path.ofString (windingText turns) = ⟨1, windingNames turns⟩ := by
  have hkept : ((windingNames turns).map String.toList).filter (fun p => !p.isEmpty && p != ['.']) =
      (windingNames turns).map String.toList := by
    rw [List.filter_eq_self]
    intro piece hpiece
    obtain ⟨name, hname, rfl⟩ := List.mem_map.mp hpiece
    have hall : ∀ name ∈ ["r", "d", "..", "a.py"],
        (!name.toList.isEmpty && name.toList != ['.']) = true := by decide
    exact hall name (mem_windingNames hname)
  have hlead : ((windingText turns).toList.takeWhile (· == '/')).length = 1 := by
    rw [windingText, String.toList_ofList]
    rfl
  rw [Path.ofString, splitOn_windingText, hlead, List.filter_cons_of_neg (by simp), hkept,
    List.map_map]
  simp

lemma toString_windingPath (turns : Nat) :
    (Path.ofString (windingText turns)).toString = windingText turns := by
  have hjoined := Text.intercalate_splitOn '/' (windingText turns).toList
  rw [splitOn_windingText, windingNames, List.map_cons, List.intercalate_cons_cons, ← List.map_cons,
    ← windingNames] at hjoined
  rw [ofString_windingText, ← String.toList_inj, ← hjoined, Path.toString, if_neg (by simp),
    Path.root, String.toList_append, Text.joinWith, String.toList_intercalate,
    String.toList_ofList]
  rfl

/-- Every turn makes the path five characters longer. -/
lemma le_byteLength_windingText (turns : Nat) :
    5 * turns ≤ Files.byteLength (windingText turns) := by
  have hbytes : ∀ text : List Char, text.length ≤ (Text.Utf8.encode text).length := by
    intro text
    induction text with
    | nil => exact Nat.le_refl 0
    | cons c cs ih =>
        have hchar : 1 ≤ (Text.Utf8.encodeChar c).length := by
          rw [Text.Utf8.encodeChar]
          split_ifs <;> simp
        rw [Text.Utf8.encode, List.flatMap_cons, List.length_append, List.length_cons, Nat.add_comm]
        exact Nat.add_le_add hchar ih
  refine le_trans ?_ (hbytes _)
  rw [windingText, String.toList_ofList]
  simp [Nat.mul_comm]
  omega

lemma find_windingPath {turns : Nat} (h : 819 < turns) :
    windingTree.find (.ofString (windingText turns)) = .error .nameTooLong := by
  have hlength := le_byteLength_windingText turns
  rw [Files.find, toString_windingPath, if_pos]
  rw [Files.longestPath]
  omega

lemma namesFile_windingPath (turns : Nat) :
    windingTree.NamesFile (.ofString (windingText turns)) := by
  rw [ofString_windingText]
  refine ⟨?_, ["r", "a.py"], Text.Utf8.encode "def f():\n    return 1\n".toList, ?_⟩
  · rw [Files.hasNul, List.any_eq_false]
    intro name hname
    have hall : ∀ name ∈ ["r", "d", "..", "a.py"], ¬ name.toList.contains '\x00' = true := by decide
    exact hall name (mem_windingNames hname)
  · have hturns : ∀ names, windingTree.target? ["r"] ((List.replicate turns ["d", ".."]).flatten
        ++ names) = windingTree.target? ["r"] names := by
      intro names
      induction turns with
      | zero => rfl
      | succ turns ih =>
          rw [List.replicate_succ, List.flatten_cons, List.append_assoc, ← ih]
          rfl
    have hstart : windingTree.target? (windingTree.startOf ⟨1, windingNames turns⟩)
        (windingNames turns) = windingTree.target? ["r"] ((List.replicate turns ["d", ".."]).flatten
        ++ ["a.py"]) := rfl
    rw [hstart, hturns]
    rfl

end Branchwise
