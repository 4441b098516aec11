/-
The books of a run over a directory.

Every file is left out, fails or is analyzed, and whichever it is, exactly one count
goes up and the file is reported once.

* `Stats.Counts`: the counts of functions and branches are those of some analyses.
* `Survey.Accounts`: a run has taken in some files; `Survey.Accounts.take` and
  `Survey.Accounts.visitAll` are one file and all of them.
* `Survey.crash_visitAll`: which fault ends a run.
* `survey_accounts`: what a run that was not ended has counted.
-/
import Mathlib.Algebra.GroupWithZero.Nat
import Branchwise.Proofs.FileOrder
import Branchwise.Proofs.Occurrences

namespace Branchwise

open Source (Selection)

/-! ### Counting branches -/

/-- The number of branches of an outcome that are not empty. -/
def Accumulator.filled (r : Accumulator) (o : Outcome) : Nat :=
  (r.collection o).rows.countP fun row => !row.isEmpty

/-- The number of such branches in several results. -/
def filledIn (o : Outcome) (rs : List Accumulator) : Nat :=
  (rs.map fun r => r.filled o).sum

lemma filledIn_append (o : Outcome) (rs rs' : List Accumulator) :
    filledIn o (rs ++ rs') = filledIn o rs + filledIn o rs' := by
  rw [filledIn, List.map_append, List.sum_append]
  rfl

lemma Accumulator.Tidy.countP_branches {r : Accumulator} (h : r.Tidy) (o : Outcome) :
    (r.branches.countP fun b => b.outcome = o) = r.filled o := by
  rw [List.countP_eq_length_filter, h.filter_branches, ← List.countP_eq_length_filter,
    Collection.branches, List.countP_map]
  rfl

namespace Stats

lemma foldl_addBranch (bs : List Branch) (s : Stats) :
    bs.foldl addBranch s =
      { s with
        branches := s.branches + (bs.countP fun b => b.outcome = .success)
          + bs.countP fun b => b.outcome = .failure
        success := s.success + bs.countP fun b => b.outcome = .success
        failure := s.failure + bs.countP fun b => b.outcome = .failure } := by
  induction bs generalizing s with
  | nil => rfl
  | cons b bs ih =>
      rw [List.foldl_cons, ih, addBranch]
      cases hb : b.outcome with
      | success =>
          simp only [List.countP_cons, hb, decide_true, if_true, reduceCtorEq, decide_false,
            Bool.false_eq_true, if_false, Stats.mk.injEq, true_and, and_true]
          omega
      | failure =>
          simp only [List.countP_cons, hb, decide_true, if_true, reduceCtorEq, decide_false,
            Bool.false_eq_true, if_false, Stats.mk.injEq, true_and, and_true]
          omega

/-- A function adds itself and the branches that are not empty. -/
lemma addResult_eq {r : Accumulator} (h : r.Tidy) (s : Stats) :
    s.addResult r =
      { s with
        functions := s.functions + 1
        branches := s.branches + r.filled .success + r.filled .failure
        success := s.success + r.filled .success
        failure := s.failure + r.filled .failure } := by
  rw [addResult, foldl_addBranch, h.countP_branches, h.countP_branches]

lemma foldl_addResult {rs : List Accumulator} (h : ∀ r ∈ rs, r.Tidy) (s : Stats) :
    rs.foldl addResult s =
      { s with
        functions := s.functions + rs.length
        branches := s.branches + filledIn .success rs + filledIn .failure rs
        success := s.success + filledIn .success rs
        failure := s.failure + filledIn .failure rs } := by
  induction rs generalizing s with
  | nil => rfl
  | cons r rs ih =>
      obtain ⟨hr, hrs⟩ := List.forall_mem_cons.mp h
      rw [List.foldl_cons, addResult_eq hr, ih hrs]
      simp only [filledIn, List.map_cons, List.sum_cons, List.length_cons, Stats.mk.injEq, true_and,
        and_true]
      omega

/-- A file adds itself and what its functions add. -/
lemma addAnalysis_eq {a : Analysis} (h : ∀ r ∈ a.results, r.Tidy) (s : Stats) :
    s.addAnalysis a =
      { s with
        files := s.files + 1
        functions := s.functions + a.results.length
        branches := s.branches + filledIn .success a.results + filledIn .failure a.results
        success := s.success + filledIn .success a.results
        failure := s.failure + filledIn .failure a.results } := by
  rw [addAnalysis, foldl_addResult h]

/-- The counts of files, functions and branches are those of the analyses. -/
structure Counts (s : Stats) (as : List Analysis) : Prop where
  files : s.files = as.length
  functions : s.functions = (as.flatMap Analysis.results).length
  branches : s.branches = s.success + s.failure
  success : s.success = filledIn .success (as.flatMap Analysis.results)
  failure : s.failure = filledIn .failure (as.flatMap Analysis.results)

lemma counts_zero : zero.Counts [] := ⟨rfl, rfl, rfl, rfl, rfl⟩

/-- Counting one more analysis. -/
lemma Counts.addAnalysis {s : Stats} {as : List Analysis} (h : s.Counts as) {a : Analysis}
    (ha : ∀ r ∈ a.results, r.Tidy) : (s.addAnalysis a).Counts (as ++ [a]) := by
  have hresults : (as ++ [a]).flatMap Analysis.results =
      as.flatMap Analysis.results ++ a.results := by simp
  have hbranches := h.branches
  rw [addAnalysis_eq ha]
  constructor
  · simp [h.files]
  · simp [h.functions]
  · dsimp only
    omega
  · rw [hresults, filledIn_append, h.success]
  · rw [hresults, filledIn_append, h.failure]

end Stats

/-! ### Visits -/

namespace Visit

/-- The analysis of a file that was analyzed. -/
def analysis? : Visit → Option Analysis
  | analyzed m => some m.analysis
  | _ => none

/-- The message on a file that failed. -/
def error? : Visit → Option String
  | failed fault => some fault.message
  | _ => none

/-- Was the file left out? -/
def isExcluded : Visit → Bool
  | excluded => true
  | _ => false

/-- The fault that ends a run at this visit. -/
def crash? : Visit → Option Fault
  | failed fault => if fault.isReported then none else some fault
  | _ => none

/-- A visit is one of three. -/
lemma count_eq_one (v : Visit) :
    (if v.analysis?.isSome then 1 else 0) + (if v.isExcluded then 1 else 0)
      + (if v.error?.isSome then 1 else 0) = 1 := by
  cases v <;> rfl

end Visit

lemma SourceModule.tidy_of_mem_results {m : SourceModule} :
    ∀ r ∈ m.analysis.results, r.Tidy := by
  intro r hr
  obtain ⟨f, -, rfl⟩ := List.mem_map.mp hr
  exact Source.extractBranches_tidy f

/-! ### Runs -/

namespace Survey

/-- From `s` to `s'`, the run has taken in a file with this number and this visit. -/
structure Takes (s s' : Survey) (number : Nat) (file : Path) (v : Visit) : Prop where
  files : s'.files = s.files
  crash : s'.crash = s.crash
  analyses : s'.analyses = s.analyses ++ v.analysis?.toList
  errors : s'.stats.errors = s.stats.errors ++ v.error?.toList
  skipped : s'.stats.skipped = s.stats.skipped + if v.isExcluded then 1 else 0
  counts : s.stats.Counts s.analyses → s'.stats.Counts s'.analyses
  progress : s'.progress = s.progress ++ [(file, number, s.files.length)]

/-- A visit is taken in, unless it ends the run. -/
lemma takes_record (s : Survey) (number : Nat) (file : Path) {v : Visit} (hv : v.crash? = none) :
    s.Takes (s.record number file v) number file v := by
  cases v with
  | excluded =>
      refine ⟨rfl, rfl, (List.append_nil _).symm, (List.append_nil _).symm, rfl, fun h => ?_, rfl⟩
      exact ⟨h.files, h.functions, h.branches, h.success, h.failure⟩
  | failed fault =>
      have hreported : fault.isReported = true := by
        by_contra hnot
        rw [Visit.crash?, if_neg hnot] at hv
        cases hv
      rw [record, if_pos hreported]
      refine ⟨rfl, rfl, (List.append_nil _).symm, rfl, rfl, fun h => ?_, rfl⟩
      exact ⟨h.files, h.functions, h.branches, h.success, h.failure⟩
  | analyzed m =>
      have hstats := s.stats.addAnalysis_eq (a := m.analysis) SourceModule.tidy_of_mem_results
      refine ⟨rfl, rfl, rfl, ?_, ?_, ?_, rfl⟩
      · exact (congrArg Stats.errors hstats).trans (List.append_nil _).symm
      · exact (congrArg Stats.skipped hstats).trans (Nat.add_zero _).symm
      · exact fun h => h.addAnalysis SourceModule.tidy_of_mem_results

/-- A visit that ends the run leaves its fault. -/
lemma crash_record (s : Survey) (hs : s.crash = none) (number : Nat) (file : Path) (v : Visit) :
    (s.record number file v).crash = v.crash? := by
  cases hv : v.crash? with
  | none => exact (takes_record s number file hv).crash.trans hs
  | some fault =>
      cases v with
      | excluded => cases hv
      | failed other =>
          rw [Visit.crash?] at hv
          split at hv
          · cases hv
          · next h =>
            cases hv
            rw [record, if_neg h]
      | analyzed m => cases hv

/-- Every file done is in exactly one of the books: its analysis, the message on it, or the
count of those left out. Every one of them is reported, with its number. -/
structure Accounts (s : Survey) (files : List Path) (visit : Path → Visit) (done : List Path) :
    Prop where
  listed : s.files = files
  analyses : s.analyses = done.filterMap fun p => (visit p).analysis?
  errors : s.stats.errors = done.filterMap fun p => (visit p).error?
  skipped : s.stats.skipped = done.countP fun p => (visit p).isExcluded
  counts : s.stats.Counts s.analyses
  progress : s.progress = done.zipIdx.map fun (p, i) => (p, i + 1, files.length)

variable {s : Survey} {files : List Path} {visit : Path → Visit} {done : List Path}

lemma accounts_start (directory : Path) (files : List Path) (visit : Path → Visit) :
    (start directory files).Accounts files visit [] :=
  ⟨rfl, rfl, rfl, rfl, Stats.counts_zero, rfl⟩

/-- **One file** goes into one of the books and is reported. -/
lemma Accounts.take (h : s.Accounts files visit done) {s' : Survey} {file : Path}
    (hs : s.Takes s' (done.length + 1) file (visit file)) :
    s'.Accounts files visit (done ++ [file]) where
  listed := hs.files.trans h.listed
  analyses := by
    rw [hs.analyses, h.analyses, List.filterMap_append]
    cases hv : (visit file).analysis? <;> simp [hv]
  errors := by
    rw [hs.errors, h.errors, List.filterMap_append]
    cases hv : (visit file).error? <;> simp [hv]
  skipped := by rw [hs.skipped, h.skipped, List.countP_append, List.countP_singleton]
  counts := hs.counts h.counts
  progress := by
    rw [hs.progress, h.progress, h.listed, List.zipIdx_append, List.map_append]
    simp

/-- **All files**: a run that no fault ends has taken in every one of them. -/
lemma Accounts.visitAll (h : s.Accounts files visit done) (hcrash : s.crash = none)
    {rest : List Path} (hvisits : ∀ p ∈ rest, (visit p).crash? = none) :
    (visitAll visit (done.length + 1) rest s).Accounts files visit (done ++ rest) := by
  induction rest generalizing s done with
  | nil => rwa [List.append_nil]
  | cons file rest ih =>
      obtain ⟨hfile, hfiles⟩ := List.forall_mem_cons.mp hvisits
      have htakes := takes_record s (done.length + 1) file hfile
      have hnext : (s.record (done.length + 1) file (visit file)).crash = none :=
        htakes.crash.trans hcrash
      rw [Survey.visitAll, hnext, Option.isSome_none, if_neg Bool.false_ne_true]
      have hrest := ih (h.take htakes) hnext hfiles
      rwa [List.length_append, List.length_singleton, List.append_assoc] at hrest

/-- A run ends with the first fault that is not reported to the user. -/
lemma crash_visitAll (hs : s.crash = none) (number : Nat) (files : List Path) :
    (Survey.visitAll visit number files s).crash = files.findSome? fun p => (visit p).crash? := by
  induction files generalizing s number with
  | nil => exact hs
  | cons file files ih =>
      have hrecord := s.crash_record hs number file (visit file)
      rw [Survey.visitAll, List.findSome?_cons]
      cases hv : (visit file).crash? with
      | none =>
          rw [hv] at hrecord
          rw [hrecord, Option.isSome_none, if_neg Bool.false_ne_true]
          exact ih hrecord (number + 1)
      | some fault =>
          rw [hv] at hrecord
          rw [hrecord, Option.isSome_some, if_pos rfl, hrecord]

end Survey

/-! ### Whole runs -/

/-- What `f` finds, beside the members in which it is found. -/
lemma forall₂_filterMap {α β : Type} (f : α → Option β) (l : List α) :
    List.Forall₂ (fun a b => f a = some b) (l.filter fun a => (f a).isSome) (l.filterMap f) := by
  induction l with
  | nil => exact .nil
  | cons a l ih =>
      cases ha : f a with
      | none => simpa [ha] using ih
      | some b => simpa [ha] using ih

/-- Each file is analyzed, left out or failed. -/
lemma length_eq_of_visits (visit : Path → Visit) (files : List Path) :
    (files.filterMap fun p => (visit p).analysis?).length
      + (files.countP fun p => (visit p).isExcluded)
      + (files.filterMap fun p => (visit p).error?).length = files.length := by
  induction files with
  | nil => rfl
  | cons file files ih =>
      have hone := (visit file).count_eq_one
      rw [List.length_filterMap_eq_countP, List.length_filterMap_eq_countP] at ih ⊢
      rw [List.countP_cons, List.countP_cons, List.countP_cons, List.length_cons]
      omega

section Survey

variable (interp : Interpreter) (fs : Files) (sel : Selection) (directory : Path)
  (patterns : List String)

/-- Is the file below the directory excluded by its path from there? -/
def leavesOut (file : Path) : Bool :=
  isExcluded (defaultExcludes ++ patterns) (file.relativeTo directory).toString

/-- The analysis of a file of a directory. -/
def analyzeBelow (file : Path) : Except Fault SourceModule :=
  analyzeFile interp fs sel file (file.relativeTo directory).moduleName?

/-- The visit of a file of a directory. -/
abbrev visitBelow (file : Path) : Visit :=
  visit interp fs sel (defaultExcludes ++ patterns) directory file

variable {interp fs sel directory patterns} {file : Path}

lemma visitBelow_of_leavesOut (h : leavesOut directory patterns file = true) :
    visitBelow interp fs sel directory patterns file = .excluded :=
  if_pos h

lemma visitBelow_of_ok (h : leavesOut directory patterns file = false) {m : SourceModule}
    (hm : analyzeBelow interp fs sel directory file = .ok m) :
    visitBelow interp fs sel directory patterns file = .analyzed m := by
  rw [leavesOut] at h
  rw [analyzeBelow] at hm
  rw [visitBelow, visit, h, hm]
  rfl

lemma visitBelow_of_error (h : leavesOut directory patterns file = false) {fault : Fault}
    (hfault : analyzeBelow interp fs sel directory file = .error fault) :
    visitBelow interp fs sel directory patterns file = .failed fault := by
  rw [leavesOut] at h
  rw [analyzeBelow] at hfault
  rw [visitBelow, visit, h, hfault]
  rfl

/-- A file is left out, analyzed or fails. -/
lemma visitBelow_cases (interp : Interpreter) (fs : Files) (sel : Selection) (directory : Path)
    (patterns : List String) (file : Path) :
    leavesOut directory patterns file = true ∧
        visitBelow interp fs sel directory patterns file = .excluded ∨
      leavesOut directory patterns file = false ∧
        ((∃ m, analyzeBelow interp fs sel directory file = .ok m ∧
            visitBelow interp fs sel directory patterns file = .analyzed m) ∨
          ∃ fault, analyzeBelow interp fs sel directory file = .error fault ∧
            visitBelow interp fs sel directory patterns file = .failed fault) := by
  cases hout : leavesOut directory patterns file with
  | true => exact .inl ⟨rfl, visitBelow_of_leavesOut hout⟩
  | false =>
      refine .inr ⟨rfl, ?_⟩
      cases hread : analyzeBelow interp fs sel directory file with
      | ok m => exact .inl ⟨m, rfl, visitBelow_of_ok hout hread⟩
      | error fault => exact .inr ⟨fault, rfl, visitBelow_of_error hout hread⟩

/-- An analysis names the file that was read. -/
lemma file_of_analyzeFile {module : Option String} {m : SourceModule}
    (h : analyzeFile interp fs sel file module = .ok m) : m.file = file := by
  rw [analyzeFile] at h
  split at h
  · rw [SourceModule.read] at h
    split at h
    · cases h
      rfl
    all_goals cases h
  · cases h

/-- If it is known what stands below the directory, all files are visited. -/
lemma survey_of_refusal?_eq_none (h : fs.refusal? directory = none) :
    survey interp fs sel directory patterns =
      Survey.visitAll (visitBelow interp fs sel directory patterns) 1 (sourceFiles fs directory)
        (.start directory (sourceFiles fs directory)) := by
  rw [survey, h]

/-- **What ends a run**: that it is left open what stands below the directory, or the first
fault that is not reported. -/
lemma crash_survey :
    (survey interp fs sel directory patterns).crash =
      (fs.refusal? directory).or ((sourceFiles fs directory).findSome? fun p =>
        (visitBelow interp fs sel directory patterns p).crash?) := by
  cases hrefusal : fs.refusal? directory with
  | some fault => rw [survey, hrefusal, Option.some_or]
  | none =>
      rw [survey_of_refusal?_eq_none hrefusal, Option.none_or]
      exact Survey.crash_visitAll rfl 1 (sourceFiles fs directory)

lemma crash_survey_eq_none_iff :
    (survey interp fs sel directory patterns).crash = none ↔ fs.refusal? directory = none ∧
      ∀ p ∈ sourceFiles fs directory,
        (visitBelow interp fs sel directory patterns p).crash? = none := by
  rw [crash_survey, Option.or_eq_none_iff, List.findSome?_eq_none_iff]

/-- A run that no fault has ended has the books of all its files. -/
lemma accounts_survey (h : (survey interp fs sel directory patterns).crash = none) :
    (survey interp fs sel directory patterns).Accounts (sourceFiles fs directory)
      (visitBelow interp fs sel directory patterns) (sourceFiles fs directory) := by
  obtain ⟨hrefusal, hvisits⟩ := crash_survey_eq_none_iff.mp h
  rw [survey_of_refusal?_eq_none hrefusal]
  have hstart := Survey.accounts_start directory (sourceFiles fs directory)
    (visitBelow interp fs sel directory patterns)
  exact hstart.visitAll rfl hvisits

/-- Those of some files that are analyzed. -/
def analyzedFiles (interp : Interpreter) (fs : Files) (sel : Selection) (directory : Path)
    (patterns : List String) (files : List Path) : List Path :=
  files.filter fun p => (visitBelow interp fs sel directory patterns p).analysis?.isSome

/-- Those of some files that fail. -/
def failedFiles (interp : Interpreter) (fs : Files) (sel : Selection) (directory : Path)
    (patterns : List String) (files : List Path) : List Path :=
  files.filter fun p => (visitBelow interp fs sel directory patterns p).error?.isSome

variable {files : List Path}

/-- The files that were analyzed, with their analyses. -/
lemma forall₂_analyzedFiles :
    List.Forall₂ (fun p a => leavesOut directory patterns p = false ∧
        ∃ m, analyzeBelow interp fs sel directory p = .ok m ∧ a = m.analysis)
      (analyzedFiles interp fs sel directory patterns files)
      (files.filterMap fun p => (visitBelow interp fs sel directory patterns p).analysis?) := by
  refine (forall₂_filterMap _ files).imp fun p a h => ?_
  rcases visitBelow_cases interp fs sel directory patterns p with
    ⟨-, hv⟩ | ⟨hout, ⟨m, hm, hv⟩ | ⟨_, -, hv⟩⟩
  · rw [hv] at h
    cases h
  · rw [hv] at h
    cases h
    exact ⟨hout, m, hm, rfl⟩
  · rw [hv] at h
    cases h

/-- The files that failed, with the messages on them. -/
lemma forall₂_failedFiles :
    List.Forall₂ (fun p message => leavesOut directory patterns p = false ∧
        ∃ fault, analyzeBelow interp fs sel directory p = .error fault ∧ fault.message = message)
      (failedFiles interp fs sel directory patterns files)
      (files.filterMap fun p => (visitBelow interp fs sel directory patterns p).error?) := by
  refine (forall₂_filterMap _ files).imp fun p message h => ?_
  rcases visitBelow_cases interp fs sel directory patterns p with
    ⟨-, hv⟩ | ⟨hout, ⟨_, -, hv⟩ | ⟨fault, hfault, hv⟩⟩
  · rw [hv] at h
    cases h
  · rw [hv] at h
    cases h
  · rw [hv] at h
    cases h
    exact ⟨hout, fault, hfault, rfl⟩

lemma disjoint_analyzedFiles_failedFiles :
    (analyzedFiles interp fs sel directory patterns files).Disjoint
      (failedFiles interp fs sel directory patterns files) := by
  intro p hanalyzed hfailed
  have hanalyzed := (List.mem_filter.mp hanalyzed).2
  have hfailed := (List.mem_filter.mp hfailed).2
  cases hv : visitBelow interp fs sel directory patterns p <;>
    simp_all [Visit.analysis?, Visit.error?]

/-- What was neither analyzed nor failed was left out. -/
lemma leavesOut_iff {p : Path} (hp : p ∈ files) :
    p ∉ analyzedFiles interp fs sel directory patterns files ∧
        p ∉ failedFiles interp fs sel directory patterns files ↔
      leavesOut directory patterns p = true := by
  rw [analyzedFiles, failedFiles, List.mem_filter, List.mem_filter]
  rcases visitBelow_cases interp fs sel directory patterns p with
    ⟨hout, hv⟩ | ⟨hout, ⟨_, -, hv⟩ | ⟨_, -, hv⟩⟩
  · simp [hv, hout, Visit.analysis?, Visit.error?]
  · simp [hv, hout, hp, Visit.analysis?]
  · simp [hv, hout, hp, Visit.error?]

end Survey

/-- **The books of a run over a directory.** The source files below it, as far as its
directories may be listed, are listed once each, in increasing order, and reported in that
order, whatever becomes of them. Those that were analyzed and those that failed are two
disjoint parts of the list, in its order; the others are the ones that are excluded. The
counts are those of the analyses. -/
theorem survey_accounts (interp : Interpreter) (fs : Files) (sel : Selection) (directory : Path)
    (patterns : List String) (h : (survey interp fs sel directory patterns).crash = none) :
    let s := survey interp fs sel directory patterns
    let files := sourceFiles fs directory
    (∀ p, p ∈ files ↔ p.isSource = true ∧ fs.IsFileBelow directory p) ∧
      files.Nodup ∧ (files.Pairwise fun p q => p.parts < q.parts) ∧
      s.progress = (files.zipIdx.map fun (p, i) => (p, i + 1, files.length)) ∧
      s.stats.files + s.stats.skipped + s.stats.errors.length = files.length ∧
      (∃ analyzed failed, analyzed.Sublist files ∧ failed.Sublist files ∧
        analyzed.Disjoint failed ∧ s.analyses.map Analysis.file = analyzed ∧
        List.Forall₂ (fun p message => ∃ fault,
          analyzeBelow interp fs sel directory p = .error fault ∧ fault.message = message)
          failed s.stats.errors ∧
        ∀ p ∈ files, p ∉ analyzed ∧ p ∉ failed ↔ leavesOut directory patterns p = true) ∧
      s.stats.Counts s.analyses := by
  intro s files
  have hbooks : s.Accounts files (visitBelow interp fs sel directory patterns) files :=
    accounts_survey h
  refine ⟨fun p => mem_sourceFiles fs directory, nodup_sourceFiles fs directory,
    pairwise_sourceFiles fs directory, hbooks.progress, ?_, ?_, hbooks.counts⟩
  · rw [hbooks.counts.files, hbooks.analyses, hbooks.skipped, hbooks.errors]
    exact length_eq_of_visits _ files
  · refine ⟨analyzedFiles interp fs sel directory patterns files,
      failedFiles interp fs sel directory patterns files, List.filter_sublist, List.filter_sublist,
      disjoint_analyzedFiles_failedFiles, ?_, ?_, fun p hp => leavesOut_iff hp⟩
    · rw [hbooks.analyses, ← List.forall₂_eq_eq_eq, List.forall₂_map_left_iff]
      refine forall₂_analyzedFiles.flip.imp fun a p h => ?_
      obtain ⟨-, m, hm, rfl⟩ := h
      exact file_of_analyzeFile hm
    · rw [hbooks.errors]
      exact forall₂_failedFiles.imp fun p message h => h.2

/-- A tree of three source files: one can be analyzed, one is malformed, and one is hidden. -/
def mixedTree : Files :=
  let put (name : List String) (text : String) (fs : Files) : Files :=
    fs.put ("r" :: name) (.file (Text.Utf8.encode text.toList))
  put ["a.py"] "def f(x):\n    if x:\n        return 1\n" <|
    put ["b.py"] "def" <| put [".c", "d.py"] "x = 1\n" <|
      (Files.empty ["r"]).put ["r", ".c"] .directory

/-- The books of a run over that tree: one file in each of them. -/
theorem survey_accounts_mixed :
    let s := survey .basic mixedTree ⟨false, false⟩ (Path.ofString ".") []
    s.crash = none ∧
      s.progress = [(⟨0, [".c", "d.py"]⟩, 1, 3), (⟨0, ["a.py"]⟩, 2, 3), (⟨0, ["b.py"]⟩, 3, 3)] ∧
      s.stats.files + s.stats.skipped + s.stats.errors.length = 3 ∧
      s.stats.errors = ["Syntax error in b.py: invalid syntax (b.py, line 1)"] := by
  have hcrash : (survey .basic mixedTree ⟨false, false⟩ (Path.ofString ".") []).crash = none := by
    decide +kernel
  have hfiles : sourceFiles mixedTree (Path.ofString ".") =
      [⟨0, [".c", "d.py"]⟩, ⟨0, ["a.py"]⟩, ⟨0, ["b.py"]⟩] := by decide +kernel
  obtain ⟨-, -, -, hprogress, hsum, -, -⟩ :=
    survey_accounts .basic mixedTree ⟨false, false⟩ (Path.ofString ".") [] hcrash
  rw [hfiles] at hprogress hsum
  exact ⟨hcrash, hprogress, hsum, by decide +kernel⟩

end Branchwise
