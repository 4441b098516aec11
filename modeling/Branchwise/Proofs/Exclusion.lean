/-
Runs over a directory with more or with fewer patterns.

A pattern decides on each file by its path alone, so a run with further patterns is the run
without them, less the files that they exclude.

* `Text.splitOn_eq`, `Text.splitOn_intercalate_eq`: the pieces of a joined text.
* `Path.IsComponent`, `Path.mem_parts_ofString`: the components of a path are found in its text.
* `ExcludedPart`, `isExcluded_iff`: what excludes a path.
* `isExcluded_of_subset`, `isExcluded_congr`: more patterns, and the same ones in another order.
* `keptFiles_append`, `analyses_survey_append`, `errors_survey_append`: a run with further
  patterns.
* `survey_excluding_more`: **excluding more only removes**.
-/
import Branchwise.Proofs.FaultIsolation

namespace Branchwise

open Source (Selection)

/-! ### Joined texts -/

namespace Text

/-- The pieces of a text are those of the library. -/
lemma splitOn_eq (sep : Char) (text : List Char) : splitOn sep text = text.splitOn sep := by
  induction text with
  | nil => rfl
  | cons c cs ih =>
      have hne : List.splitOn sep cs ≠ [] := ih ▸ splitOn_ne_nil sep cs
      obtain ⟨w, ws, hcs⟩ := List.exists_cons_of_ne_nil hne
      rw [splitOn, ih, hcs, List.splitOn_cons_eq_if_modifyHead, hcs]
      by_cases hc : c = sep <;> simp [hc]

/-- The pieces of a joined text are those of what was joined. -/
lemma splitOn_intercalate_eq (sep : Char) {words : List (List Char)} (hne : words ≠ []) :
    splitOn sep ([sep].intercalate words) = words.flatMap (splitOn sep) := by
  induction words with
  | nil => exact absurd rfl hne
  | cons w words ih =>
      cases words with
      | nil => simp
      | cons v words =>
          have hjoined : [sep].intercalate (w :: v :: words) =
              w ++ sep :: [sep].intercalate (v :: words) := by
            rw [List.intercalate_cons_cons, List.append_assoc, List.singleton_append]
          rw [List.flatMap_cons, ← ih (List.cons_ne_nil v words), hjoined, splitOn_eq, splitOn_eq,
            splitOn_eq, List.splitOn_append_cons_self]

end Text

/-! ### Components -/

namespace Path

/-- A text that can be the name of a file. -/
structure IsComponent (name : String) : Prop where
  filled : name ≠ ""
  isDot : name ≠ "."
  slash : '/' ∉ name.toList

/-- The components of a path are among the parts of its text. -/
lemma mem_parts_ofString {components : List String} {name : String} (h : name ∈ components)
    (hname : IsComponent name) :
    name ∈ (Path.ofString (Path.toString ⟨0, components⟩)).parts := by
  have hne : components ≠ [] := List.ne_nil_of_mem h
  have htext : (Path.toString ⟨0, components⟩).toList =
      ['/'].intercalate (components.map String.toList) := by
    have hroot : (Path.mk 0 components).root = "" := rfl
    rw [Path.toString, if_neg (by simp [hne]), hroot, String.empty_append, Text.joinWith,
      String.toList_intercalate]
    rfl
  have hpiece : name.toList ∈ Text.splitOn '/' (Path.toString ⟨0, components⟩).toList := by
    rw [htext, Text.splitOn_intercalate_eq '/' (by simpa using hne)]
    refine List.mem_flatMap.mpr ⟨name.toList, List.mem_map_of_mem h, ?_⟩
    rw [Text.splitOn_eq, List.splitOn_eq_singleton hname.slash]
    exact List.mem_singleton_self _
  have hcomponent : name ∈ (Path.ofString (Path.toString ⟨0, components⟩)).components := by
    refine List.mem_map.mpr ⟨name.toList, List.mem_filter.mpr ⟨hpiece, ?_⟩, String.ofList_toList⟩
    have hdot : name.toList ≠ ['.'] := fun h => hname.isDot (String.toList_inj.mp h)
    simp [hname.filled, hdot]
  rw [parts]
  split
  · exact hcomponent
  · exact List.mem_cons_of_mem _ hcomponent

end Path

/-! ### Patterns -/

/-- The part of a path is hidden, or matched by a pattern. -/
def ExcludedPart (patterns : List String) (part : String) : Prop :=
  ['.'] <+: part.toList ∨ ∃ pattern ∈ patterns, globMatches pattern part = true

section Patterns

variable {patterns patterns' : List String} {path : String}

/-- **What excludes a path**: a pattern that matches all of it, or one of its parts. -/
lemma isExcluded_iff : isExcluded patterns path = true ↔
    (∃ pattern ∈ patterns, globMatches pattern path = true) ∨
      ∃ part ∈ (Path.ofString path).parts, ExcludedPart patterns part := by
  simp only [isExcluded, ExcludedPart, Bool.or_eq_true, List.any_eq_true,
    List.isPrefixOf_iff_prefix]

/-- More patterns exclude no less. -/
lemma isExcluded_of_subset (hsubset : patterns ⊆ patterns') (h : isExcluded patterns path = true) :
    isExcluded patterns' path = true := by
  have hmatch : ∀ text, (∃ pattern ∈ patterns, globMatches pattern text = true) →
      ∃ pattern ∈ patterns', globMatches pattern text = true :=
    fun text ⟨pattern, hmem, hmatches⟩ => ⟨pattern, hsubset hmem, hmatches⟩
  rw [isExcluded_iff] at h ⊢
  rcases h with h | ⟨part, hpart, h⟩
  · exact .inl (hmatch path h)
  · exact .inr ⟨part, hpart, h.imp_right (hmatch part)⟩

/-- Only the patterns themselves count, not their order and number. -/
lemma isExcluded_congr (h : ∀ pattern, pattern ∈ patterns ↔ pattern ∈ patterns') :
    isExcluded patterns path = isExcluded patterns' path :=
  Bool.eq_iff_iff.mpr ⟨isExcluded_of_subset fun pattern => (h pattern).mp,
    isExcluded_of_subset fun pattern => (h pattern).mpr⟩

end Patterns

section LeavesOut

variable {directory : Path} {patterns patterns' : List String}

lemma leavesOut_of_subset (hsubset : patterns ⊆ patterns') {file : Path}
    (h : leavesOut directory patterns file = true) : leavesOut directory patterns' file = true := by
  refine isExcluded_of_subset (List.append_subset.mpr ⟨List.subset_append_left _ _, ?_⟩) h
  exact List.subset_append_of_subset_right _ hsubset

/-- A component that excludes a path excludes all paths through it. -/
lemma leavesOut_of_excludedPart {above below : List String} {name : String}
    (hname : Path.IsComponent name) (h : ExcludedPart (defaultExcludes ++ patterns) name) :
    leavesOut directory patterns
      ⟨directory.slashes, directory.components ++ (above ++ name :: below)⟩ = true := by
  have hrelative : Path.relativeTo
      ⟨directory.slashes, directory.components ++ (above ++ name :: below)⟩ directory =
        ⟨0, above ++ name :: below⟩ := by
    rw [Path.relativeTo, List.drop_left]
  rw [leavesOut, hrelative, isExcluded_iff]
  exact .inr ⟨name, Path.mem_parts_ofString (by simp) hname, h⟩

end LeavesOut

/-! ### Runs with further patterns -/

section Survey

variable {interp : Interpreter} {fs : Files} {sel : Selection} {directory : Path}
  {ps qs : List String}

/-- The order and number of the patterns make no difference to a run. -/
lemma survey_congr (h : ∀ pattern, pattern ∈ ps ↔ pattern ∈ qs) :
    survey interp fs sel directory ps = survey interp fs sel directory qs := by
  have hvisit : visit interp fs sel (defaultExcludes ++ ps) directory =
      visit interp fs sel (defaultExcludes ++ qs) directory := by
    funext file
    have hexcluded : ∀ path, isExcluded (defaultExcludes ++ ps) path =
        isExcluded (defaultExcludes ++ qs) path := fun path =>
      isExcluded_congr fun pattern => by rw [List.mem_append, List.mem_append, h]
    rw [visit, visit, hexcluded]
  rw [survey, survey, hvisit]

/-- The files that further patterns leave. -/
lemma keptFiles_append : keptFiles fs directory (ps ++ qs) =
    (keptFiles fs directory ps).filter fun p => !leavesOut directory (ps ++ qs) p := by
  rw [keptFiles, keptFiles, List.filter_filter]
  refine List.filter_congr fun p _ => ?_
  cases hmore : leavesOut directory (ps ++ qs) p with
  | true => rfl
  | false =>
      have hless : leavesOut directory ps p = false := by
        rw [← Bool.not_eq_true] at hmore ⊢
        exact mt (leavesOut_of_subset (List.subset_append_left ps qs)) hmore
      rw [hless]
      rfl

/-- The kept files that have a fault, and the faults. -/
def faultyFiles (interp : Interpreter) (fs : Files) (directory : Path) (patterns : List String) :
    List (Path × Fault) :=
  (keptFiles fs directory patterns).filterMap fun p => (fs.fault? interp p).map (p, ·)

/-- What is found in the files of a list, less what is found in those that are taken out. -/
lemma filterMap_filter_eq {α β : Type} {f : α → Option β} {l : List α} {p : α → Bool}
    {q : β → Bool} (h : ∀ a b, f a = some b → q b = p a) :
    (l.filter p).filterMap f = (l.filterMap f).filter q := by
  rw [List.filterMap_filter, List.filter_filterMap]
  refine List.filterMap_congr fun a _ => ?_
  cases ha : f a with
  | none => simp
  | some b => simp [Option.filter, h a b ha]

variable (hcrash : (survey interp fs sel directory ps).crash = none)

include hcrash

/-- Further patterns end no run. -/
lemma crash_survey_append : (survey interp fs sel directory (ps ++ qs)).crash = none := by
  rw [crash_survey_iff] at hcrash ⊢
  rw [keptFiles_append]
  exact ⟨hcrash.1, fun p hp => hcrash.2 p (List.mem_of_mem_filter hp)⟩

/-- **The analyses with further patterns** are those without them, less the files that are
excluded. -/
lemma analyses_survey_append : (survey interp fs sel directory (ps ++ qs)).analyses =
    (survey interp fs sel directory ps).analyses.filter fun a =>
      !leavesOut directory (ps ++ qs) a.file := by
  rw [analyses_survey (crash_survey_append hcrash), analyses_survey hcrash, keptFiles_append]
  refine filterMap_filter_eq fun p a ha => ?_
  cases hread : analyzeBelow interp fs sel directory p with
  | error fault =>
      rw [hread] at ha
      cases ha
  | ok m =>
      rw [hread] at ha
      cases ha
      have hfile : m.analysis.file = p := file_of_analyzeFile hread
      rw [hfile]

lemma errors_survey_eq : (survey interp fs sel directory ps).stats.errors =
    (faultyFiles interp fs directory ps).map fun e => e.2.message := by
  rw [errors_survey hcrash, faultyFiles, List.map_filterMap, List.map_filterMap]
  simp [Function.comp_def]

/-- **The messages with further patterns** are those without them, less the files that are
excluded. -/
lemma errors_survey_append : (survey interp fs sel directory (ps ++ qs)).stats.errors =
    ((faultyFiles interp fs directory ps).filter fun e => !leavesOut directory (ps ++ qs) e.1).map
      fun e => e.2.message := by
  rw [errors_survey_eq (crash_survey_append hcrash), faultyFiles, faultyFiles, keptFiles_append]
  refine congrArg _ (filterMap_filter_eq fun p e he => ?_)
  obtain ⟨fault, -, rfl⟩ := Option.map_eq_some_iff.mp he
  rfl

/-- Every file is counted once. -/
lemma total_survey : (survey interp fs sel directory ps).stats.files
      + (survey interp fs sel directory ps).stats.skipped
      + (survey interp fs sel directory ps).stats.errors.length =
    (sourceFiles fs directory).length := by
  have hbooks := accounts_survey hcrash
  rw [hbooks.counts.files, hbooks.analyses, hbooks.skipped, hbooks.errors]
  exact length_eq_of_visits _ _

/-- The files that are left out are counted. -/
lemma skipped_survey : (survey interp fs sel directory ps).stats.skipped =
    (sourceFiles fs directory).countP (leavesOut directory ps) := by
  rw [(accounts_survey hcrash).skipped]
  congr 1
  funext p
  rcases visitBelow_cases interp fs sel directory ps p with
    ⟨hout, hv⟩ | ⟨hout, ⟨m, -, hv⟩ | ⟨fault, -, hv⟩⟩ <;> rw [hv, hout] <;> rfl

/-- Further patterns move files to those left out. -/
lemma exists_skipped_survey_append : ∃ n,
    (survey interp fs sel directory (ps ++ qs)).stats.skipped =
        (survey interp fs sel directory ps).stats.skipped + n ∧
      (survey interp fs sel directory ps).stats.files
          + (survey interp fs sel directory ps).stats.errors.length =
        (survey interp fs sel directory (ps ++ qs)).stats.files
          + (survey interp fs sel directory (ps ++ qs)).stats.errors.length + n := by
  have hcrash' : (survey interp fs sel directory (ps ++ qs)).crash = none :=
    crash_survey_append hcrash
  have htotal := total_survey hcrash
  have htotal' := total_survey hcrash'
  have hle : (survey interp fs sel directory ps).stats.skipped ≤
      (survey interp fs sel directory (ps ++ qs)).stats.skipped := by
    rw [skipped_survey hcrash, skipped_survey hcrash']
    exact List.countP_mono_left fun p _ => leavesOut_of_subset (List.subset_append_left ps qs)
  obtain ⟨n, hn⟩ := Nat.exists_eq_add_of_le hle
  exact ⟨n, hn, by omega⟩

lemma progress_survey_append : (survey interp fs sel directory (ps ++ qs)).progress =
    (survey interp fs sel directory ps).progress := by
  rw [(accounts_survey (crash_survey_append hcrash)).progress, (accounts_survey hcrash).progress]

end Survey

/-- **Excluding more only removes.** A run with further patterns has the analyses and the messages
of the run without them, less those of the files that are excluded now, and as many more files
are counted as left out. It reports the same progress. The order of the patterns and their
repetition make no difference. A component of a path that is hidden or matched by a pattern
excludes all paths through it, however far below. -/
theorem survey_excluding_more (interp : Interpreter) (fs : Files) (sel : Selection)
    (directory : Path) :
    (∀ ps qs, (survey interp fs sel directory ps).crash = none →
      let s := survey interp fs sel directory ps
      let s' := survey interp fs sel directory (ps ++ qs)
      let isOut := leavesOut directory (ps ++ qs)
      s'.crash = none ∧
      s'.analyses = s.analyses.filter (fun a => !isOut a.file) ∧
      s.stats.errors = (faultyFiles interp fs directory ps).map (fun e => e.2.message) ∧
      s'.stats.errors =
        ((faultyFiles interp fs directory ps).filter fun e => !isOut e.1).map
          (fun e => e.2.message) ∧
      (∃ n, s'.stats.skipped = s.stats.skipped + n ∧
        s.stats.files + s.stats.errors.length =
          s'.stats.files + s'.stats.errors.length + n) ∧
      s'.progress = s.progress) ∧
    (∀ ps qs, (∀ pattern, pattern ∈ ps ↔ pattern ∈ qs) →
      survey interp fs sel directory ps = survey interp fs sel directory qs) ∧
    (∀ patterns above name below, Path.IsComponent name →
      ExcludedPart (defaultExcludes ++ patterns) name →
      leavesOut directory patterns
        ⟨directory.slashes, directory.components ++ (above ++ name :: below)⟩ = true) :=
  ⟨fun _ _ h => ⟨crash_survey_append h, analyses_survey_append h, errors_survey_eq h,
      errors_survey_append h, exists_skipped_survey_append h, progress_survey_append h⟩,
    fun _ _ => survey_congr, fun _ _ _ _ => leavesOut_of_excludedPart⟩

/-- A tree with a file above a directory that holds a malformed file, and one further below. -/
def layeredTree : Files :=
  let file (text : String) : Entry := .file (Text.Utf8.encode text.toList)
  let entries := [(["p"], .directory), (["p", "q"], .directory),
    (["a.py"], file "x = 1\n"), (["p", "b.py"], file "def"),
    (["p", "q", "c.py"], file "")]
  entries.foldl (fun fs (names, entry) => fs.put ("r" :: names) entry) (.empty ["r"])

/-- Excluding the directory removes all that is below it. -/
theorem survey_excluding_more_layered :
    let run := survey .basic layeredTree ⟨false, false⟩ (Path.ofString ".")
    (run []).crash = none ∧ (run ["p"]).crash = none ∧
      (run []).analyses.map Analysis.file = [⟨0, ["a.py"]⟩, ⟨0, ["p", "q", "c.py"]⟩] ∧
      (run ["p"]).analyses.map Analysis.file = [⟨0, ["a.py"]⟩] ∧
      (run []).stats.errors = ["Syntax error in p/b.py: invalid syntax (b.py, line 1)"] ∧
      (run ["p"]).stats.errors = [] ∧
      (run ["p"]).progress = (run []).progress ∧ run ["p", "p"] = run ["p"] ∧
      leavesOut (Path.ofString ".") ["p"] ⟨0, ["p", "q", "c.py"]⟩ = true := by
  dsimp only
  have hdirectory : Path.ofString "." = ⟨0, []⟩ := by decide
  rw [hdirectory]
  obtain ⟨hmore, hsame, hbelow⟩ := survey_excluding_more .basic layeredTree ⟨false, false⟩ ⟨0, []⟩
  have hless : (survey .basic layeredTree ⟨false, false⟩ ⟨0, []⟩ []).crash = none ∧
      (survey .basic layeredTree ⟨false, false⟩ ⟨0, []⟩ []).analyses.map Analysis.file =
        [⟨0, ["a.py"]⟩, ⟨0, ["p", "q", "c.py"]⟩] ∧
      (survey .basic layeredTree ⟨false, false⟩ ⟨0, []⟩ []).stats.errors =
        ["Syntax error in p/b.py: invalid syntax (b.py, line 1)"] := by decide +kernel
  have hpart : ExcludedPart (defaultExcludes ++ ["p"]) "p" :=
    .inr ⟨"p", by simp, by decide +kernel⟩
  have hbooks := hmore [] ["p"] hless.1
  simp only [List.nil_append] at hbooks
  obtain ⟨hcrash', -, -, -, -, hprogress⟩ := hbooks
  refine ⟨hless.1, hcrash', hless.2.1, by decide +kernel, hless.2.2, by decide +kernel, hprogress,
    hsame ["p", "p"] ["p"] (by simp), ?_⟩
  exact hbelow ["p"] [] "p" ["q", "c.py"] ⟨by decide, by decide, by decide⟩ hpart

end Branchwise
