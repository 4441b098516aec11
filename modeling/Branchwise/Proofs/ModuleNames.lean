/-
The names of modules: dotted names made of the components of paths.

* `joinWith_dot_inj`, `splitOn_joinWith_dot`: names without dots, joined by dots, can be read off
  the joined name.
* `Path.withoutFirst`, `Path.withoutLast`, `Path.reduced`: the components that a module is named
  for.
* `Path.IsPlain`: a relative path of a source file whose only dot is that of its suffix.
* `Path.moduleName?_eq`: the name of a module joins the reduced components.
* `Survey.of_mem_analyses_visitAll`, `module_of_mem_analyses`: the names that a run over a
  directory records.
* `moduleNames_identify_files`: **the names identify files**.
-/
import Branchwise.Proofs.Exclusion

namespace Branchwise

open Source (Selection)

/-! ### Dotted names -/

section Dotted

variable {words words' : List String}

lemma toList_joinWith_dot (words : List String) :
    (Text.joinWith "." words).toList = ['.'].intercalate (words.map String.toList) := by
  rw [Text.joinWith, String.toList_intercalate]
  rfl

/-- Splitting undoes joining. -/
lemma splitOn_joinWith_dot (h : ∀ w ∈ words, '.' ∉ w.toList) (hne : words ≠ []) :
    (Text.splitOn '.' (Text.joinWith "." words).toList).map String.ofList = words := by
  rw [toList_joinWith_dot, Text.splitOn_eq,
    List.splitOn_intercalate '.' (List.forall_mem_map.mpr h) (by simpa using hne), List.map_map]
  simp

/-- Only the empty list has the empty name. -/
lemma joinWith_dot_eq_empty_iff (h : ∀ w ∈ words, w ≠ "" ∧ '.' ∉ w.toList) :
    Text.joinWith "." words = "" ↔ words = [] := by
  constructor
  · intro hempty
    by_contra hne
    have hsplit := splitOn_joinWith_dot (fun w hw => (h w hw).2) hne
    rw [hempty] at hsplit
    exact (h "" (by simp [← hsplit, Text.splitOn])).1 rfl
  · rintro rfl
    rfl

lemma joinWith_dot_inj (h : ∀ w ∈ words, w ≠ "" ∧ '.' ∉ w.toList)
    (h' : ∀ w ∈ words', w ≠ "" ∧ '.' ∉ w.toList) :
    Text.joinWith "." words = Text.joinWith "." words' ↔ words = words' := by
  constructor
  · intro heq
    by_cases hne : words = []
    · rw [hne, (joinWith_dot_eq_empty_iff h').mp (heq ▸ (joinWith_dot_eq_empty_iff h).mpr hne)]
    · have hne' : words' ≠ [] := fun hnil =>
        hne ((joinWith_dot_eq_empty_iff h).mp (heq ▸ (joinWith_dot_eq_empty_iff h').mpr hnil))
      rw [← splitOn_joinWith_dot (fun w hw => (h w hw).2) hne, heq,
        splitOn_joinWith_dot (fun w hw => (h' w hw).2) hne']
  · exact congrArg _

end Dotted

/-! ### Reduced components -/

namespace Path

/-- The names without the first one, if that is the given one. -/
def withoutFirst (name : String) : List String → List String
  | [] => []
  | n :: names => if n = name then names else n :: names

/-- The names without the last one, if that is the given one. -/
def withoutLast (name : String) (names : List String) : List String :=
  (withoutFirst name names.reverse).reverse

/-- The components of the path of a source file without its suffix, then without one leading
`src`, then without one trailing `__init__`. -/
def reduced (p : Path) : List String :=
  withoutLast "__init__" (withoutFirst "src" (p.components.dropLast ++ [p.stem]))

lemma withoutFirst_sublist (name : String) (names : List String) :
    (withoutFirst name names).Sublist names := by
  cases names with
  | nil => exact .slnil
  | cons n names =>
      rw [withoutFirst]
      split
      · exact List.sublist_cons_self n names
      · exact .refl _

lemma withoutLast_sublist (name : String) (names : List String) :
    (withoutLast name names).Sublist names := by
  have h := (withoutFirst_sublist name names.reverse).reverse
  rwa [List.reverse_reverse] at h

lemma withoutFirst_eq (name : String) (names : List String) :
    withoutFirst name names = if names.head? == some name then names.drop 1 else names := by
  cases names with
  | nil => rfl
  | cons n names => simp [withoutFirst]

lemma withoutLast_eq (name : String) (names : List String) :
    withoutLast name names = if names.getLast? == some name then names.dropLast else names := by
  rw [withoutLast, withoutFirst_eq, List.head?_reverse, List.drop_one, List.tail_reverse]
  split <;> rw [List.reverse_reverse]

lemma moduleParts_eq (parts : List String) :
    moduleParts parts = withoutLast "__init__" (withoutFirst "src" parts) := by
  rw [moduleParts, withoutLast_eq, withoutFirst_eq]

/-- The components that are read from a text are not empty. -/
lemma ne_empty_of_mem_components {text name : String}
    (h : name ∈ (ofString text).components) : name ≠ "" := by
  obtain ⟨piece, hpiece, rfl⟩ := List.mem_map.mp h
  rintro hempty
  obtain rfl : piece = [] := by simpa using hempty
  simp at hpiece

/-- The suffix of a source file stands behind a stem that is not empty. -/
lemma stem_of_isSource {p : Path} (h : p.isSource = true) : p.stem ≠ "" ∧ p.components ≠ [] := by
  have hsuffix : (splitSuffix p.name.toList).2 = ".py".toList := by
    rw [isSource, beq_iff_eq, suffix] at h
    rw [← h, String.toList_ofList]
  rw [stem]
  rw [splitSuffix] at hsuffix ⊢
  cases heq : Text.splitLast '.' p.name.toList with
  | none =>
      rw [heq] at hsuffix
      cases hsuffix
  | some parts =>
      obtain ⟨before, after⟩ := parts
      rw [heq] at hsuffix
      dsimp only at hsuffix ⊢
      split at hsuffix
      · cases hsuffix
      · next hfilled =>
        have hbefore : before ≠ [] := by
          rintro rfl
          exact hfilled rfl
        refine ⟨?_, fun hnil => ?_⟩
        · rw [if_neg hfilled]
          simpa using hbefore
        · rw [name, hnil] at heq
          cases heq

/-- The path is relative, that of a source file, and the dot of its suffix is the only one in
its components. -/
structure IsPlain (p : Path) : Prop where
  relative : p.slashes = 0
  source : p.isSource = true
  above : ∀ name ∈ p.components.dropLast, '.' ∉ name.toList
  stem : '.' ∉ p.stem.toList

/-- A source file has a module name: its reduced components, joined by dots. -/
lemma moduleName?_eq {p : Path} (hrelative : p.slashes = 0) (hne : p.components ≠ []) :
    p.moduleName? = some (Text.joinWith "." p.reduced) := by
  rw [moduleName?, if_neg (by simpa using hne), moduleParts_eq, parts, if_pos hrelative]
  rfl

/-- The reduced components of a plain path are words without dots. -/
lemma IsPlain.reduced {text : String} (h : (ofString text).IsPlain) :
    ∀ name ∈ (ofString text).reduced, name ≠ "" ∧ '.' ∉ name.toList := by
  intro name hname
  have hmem := ((withoutLast_sublist _ _).trans (withoutFirst_sublist _ _)).subset hname
  rcases List.mem_append.mp hmem with hmem | hmem
  · exact ⟨ne_empty_of_mem_components (List.dropLast_subset _ hmem), h.above name hmem⟩
  · obtain rfl := List.mem_singleton.mp hmem
    exact ⟨(stem_of_isSource h.source).1, h.stem⟩

end Path

/-! ### Recorded names -/

namespace Survey

/-- What one visit adds to the analyses of a run. -/
lemma of_mem_analyses_record {s : Survey} {number : Nat} {file : Path} {v : Visit} {a : Analysis}
    (h : a ∈ (s.record number file v).analyses) : a ∈ s.analyses ∨ v.analysis? = some a := by
  cases v with
  | excluded => exact .inl h
  | failed fault =>
      rw [record] at h
      split at h
      · exact .inl h
      · exact .inl h
  | analyzed m =>
      rcases List.mem_append.mp h with h | h
      · exact .inl h
      · exact .inr (congrArg some (List.mem_singleton.mp h).symm)

/-- Every analysis of a run is that of a file that was visited, whether the run was ended by a
fault or not. -/
lemma of_mem_analyses_visitAll {visit : Path → Visit} {number : Nat} {files : List Path}
    {s : Survey} {a : Analysis} (h : a ∈ (visitAll visit number files s).analyses) :
    a ∈ s.analyses ∨ ∃ file ∈ files, (visit file).analysis? = some a := by
  induction files generalizing number s with
  | nil => exact .inl h
  | cons file files ih =>
      have hrecord : a ∈ (s.record number file (visit file)).analyses →
          a ∈ s.analyses ∨ ∃ f ∈ file :: files, (visit f).analysis? = some a := by
        intro hmem
        rcases of_mem_analyses_record hmem with hold | hnew
        · exact .inl hold
        · exact .inr ⟨file, List.mem_cons_self, hnew⟩
      rw [visitAll] at h
      split at h
      · exact hrecord h
      · rcases ih h with hmem | ⟨f, hf, hvisit⟩
        · exact hrecord hmem
        · exact .inr ⟨f, List.mem_cons_of_mem file hf, hvisit⟩

end Survey

/-- An analysis names its module as it was asked to. -/
lemma module_of_analyzeFile {interp : Interpreter} {fs : Files} {sel : Selection} {file : Path}
    {module : Option String} {m : SourceModule}
    (h : analyzeFile interp fs sel file module = .ok m) :
    m.module = SourceModule.nameFor file module := by
  rw [analyzeFile] at h
  split at h
  · rw [SourceModule.read] at h
    split at h
    · cases h
      rfl
    all_goals cases h
  · cases h

/-- The analyses of a run are those of its files. -/
lemma exists_visit_of_mem_analyses {interp : Interpreter} {fs : Files} {sel : Selection}
    {directory : Path} {patterns : List String} {a : Analysis}
    (h : a ∈ (survey interp fs sel directory patterns).analyses) :
    ∃ file ∈ sourceFiles fs directory,
      (visitBelow interp fs sel directory patterns file).analysis? = some a := by
  cases hrefusal : fs.refusal? directory with
  | some fault =>
      rw [survey, hrefusal] at h
      cases h
  | none =>
      rw [survey_of_refusal?_eq_none hrefusal] at h
      rcases Survey.of_mem_analyses_visitAll h with hstart | hvisit
      · cases hstart
      · exact hvisit

/-- **The name that a run records** for a file: that of its path from the directory, or its
stem if that name is empty. -/
lemma module_of_mem_analyses {interp : Interpreter} {fs : Files} {sel : Selection}
    {directory : Path} {patterns : List String} {a : Analysis}
    (h : a ∈ (survey interp fs sel directory patterns).analyses) :
    a.file ∈ sourceFiles fs directory ∧
      let name := Text.joinWith "." (a.file.relativeTo directory).reduced
      (a.file.relativeTo directory).moduleName? = some name ∧
        a.module = if name = "" then a.file.stem else name := by
  obtain ⟨file, hfile, hvisit⟩ := exists_visit_of_mem_analyses h
  have hanalysis : ∃ m, analyzeBelow interp fs sel directory file = .ok m ∧ m.analysis = a := by
    rw [analysis?_visitBelow] at hvisit
    split at hvisit
    · cases hvisit
    · cases hm : analyzeBelow interp fs sel directory file with
      | error fault =>
          rw [hm] at hvisit
          cases hvisit
      | ok m =>
          rw [hm] at hvisit
          exact ⟨m, rfl, Option.some.inj hvisit⟩
  obtain ⟨m, hm, rfl⟩ := hanalysis
  have hbelow : (file.relativeTo directory).components ≠ [] := by
    obtain ⟨-, _, names, -, -, hlisted, -, rfl⟩ := ((mem_sourceFiles fs directory).mp hfile).2
    have hne : names ≠ [] := by
      rintro rfl
      cases hlisted
    simpa [Path.relativeTo] using hne
  have hname := Path.moduleName?_eq (p := file.relativeTo directory) rfl hbelow
  have hmodule := module_of_analyzeFile hm
  have hmfile : m.analysis.file = file := file_of_analyzeFile hm
  rw [hname] at hmodule
  rw [hmfile]
  exact ⟨hfile, hname, hmodule⟩

/-- **Module names identify files.** Of two relative paths of source files whose only dots are
those of their suffixes, the modules have the same name if and only if the paths have the same
components, less the suffix, one leading `src` and one trailing `__init__`. A name that is not
empty can be split into these components again. A run over a directory records, for each file
that it analyzes, the name for its path from there, or its stem if that name is empty; what is
recorded is never empty. -/
theorem moduleNames_identify_files :
    (∀ s t : String, (Path.ofString s).IsPlain → (Path.ofString t).IsPlain →
      ∃ name name', (Path.ofString s).moduleName? = some name ∧
        (Path.ofString t).moduleName? = some name' ∧
        (name = name' ↔ (Path.ofString s).reduced = (Path.ofString t).reduced) ∧
        (name ≠ "" →
          (Text.splitOn '.' name.toList).map String.ofList = (Path.ofString s).reduced)) ∧
    ∀ (interp : Interpreter) (fs : Files) (sel : Selection) (directory : Path)
        (patterns : List String), ∀ a ∈ (survey interp fs sel directory patterns).analyses,
        ∃ name, (a.file.relativeTo directory).moduleName? = some name ∧
          a.module = (if name = "" then a.file.stem else name) ∧ a.module ≠ "" := by
  refine ⟨fun s t hs ht => ?_, fun interp fs sel directory patterns a ha => ?_⟩
  · refine ⟨_, _, Path.moduleName?_eq hs.relative (Path.stem_of_isSource hs.source).2,
      Path.moduleName?_eq ht.relative (Path.stem_of_isSource ht.source).2,
      joinWith_dot_inj hs.reduced ht.reduced, fun hname => ?_⟩
    refine splitOn_joinWith_dot (fun w hw => (hs.reduced w hw).2) fun hnil => hname ?_
    exact (joinWith_dot_eq_empty_iff hs.reduced).mpr hnil
  · obtain ⟨hfile, hname, hmodule⟩ := module_of_mem_analyses ha
    refine ⟨_, hname, hmodule, ?_⟩
    rw [hmodule]
    split
    · exact (Path.stem_of_isSource ((mem_sourceFiles fs directory).mp hfile).1).1
    · next hfilled => exact hfilled

/-- A tree with a package below `src`, and with a file of that name. -/
def packageTree : Files :=
  let entries := [(["src"], .directory), (["src", "pkg"], .directory),
    (["src", "pkg", "util.py"], .file []), (["src.py"], .file [])]
  entries.foldl (fun fs (names, entry) => fs.put ("r" :: names) entry) (.empty ["r"])

/-- A package and a file have the same name, which can be split; a file whose name would be
empty is called by its stem. -/
theorem moduleNames_identify_files_package :
    let p := Path.ofString "src/pkg/util/__init__.py"
    let q := Path.ofString "pkg/util.py"
    let run := survey .basic packageTree ⟨false, false⟩ (Path.ofString ".") []
    p.IsPlain ∧ q.IsPlain ∧ p.moduleName? = some "pkg.util" ∧ q.moduleName? = some "pkg.util" ∧
      p.reduced = q.reduced ∧
      (Text.splitOn '.' "pkg.util".toList).map String.ofList = p.reduced ∧
      run.analyses.map Analysis.module = ["pkg.util", "src"] ∧
      ∀ a ∈ run.analyses, a.module ≠ "" := by
  intro p q run
  have hp : p.IsPlain := ⟨by decide, by decide, by decide, by decide⟩
  have hq : q.IsPlain := ⟨by decide, by decide, by decide, by decide⟩
  have hpname : p.moduleName? = some "pkg.util" := by decide
  have hqname : q.moduleName? = some "pkg.util" := by decide
  obtain ⟨hnames, hrun⟩ := moduleNames_identify_files
  obtain ⟨name, name', hname, hname', hiff, hsplit⟩ := hnames _ _ hp hq
  obtain rfl : "pkg.util" = name := Option.some.inj (hpname.symm.trans hname)
  obtain rfl : "pkg.util" = name' := Option.some.inj (hqname.symm.trans hname')
  refine ⟨hp, hq, hpname, hqname, hiff.mp rfl, hsplit (by decide), by decide +kernel,
    fun a ha => ?_⟩
  obtain ⟨_, -, -, hfilled⟩ := hrun .basic packageTree ⟨false, false⟩ (Path.ofString ".") [] a ha
  exact hfilled

end Branchwise
