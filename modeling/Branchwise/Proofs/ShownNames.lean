/-
Names of files in what a run shows.

The messages on faults are escaped before they are shown, but some lines show the name of a
file as it is. A console takes a bracket in it for a tag, and can then break off a run that has
done all its work.

* `opensNothing_message`: the message on a fault has no tag, unless the name of the file or the
  complaint of the interpreter has one.
* `Command.Succeeds`, `Command.FailsBy`: how the analysis of a command comes out.
* `Command.nameLines`: the lines that show names as they are; `Command.safe_nameLines` says that
  names without tags are harmless in them.
* `Command.endsBy_run`: these lines decide how a run ends.
* `names_decide_runs`: all of this together.
-/
import Branchwise.Proofs.FrontEnds
import Branchwise.Proofs.ShownLines
import Branchwise.Proofs.StubText

namespace Branchwise

open Source (Selection)
open Markup (HasTags IsInside IsValid OpensNothing Safe)

/-! ### Messages without tags -/

open Text in
lemma opening_not_mem_hexDigits (width n : Nat) : '[' ∉ hexDigits width n := by
  have hall : ∀ m < 16, hexDigit m ≠ '[' := by decide
  induction width generalizing n with
  | zero => exact List.not_mem_nil
  | succ width ih =>
      rw [hexDigits, List.mem_append, List.mem_singleton]
      rintro (h | h)
      · exact ih _ h
      · exact hall _ (Nat.mod_lt _ (by omega)) h.symm

open Text in
lemma quoteCode_cases {mark : Char} (hmark : mark ≠ '[') (c : Char) :
    quoteCode isPrintable mark c.toNat = [c] ∨
      '[' ∉ quoteCode isPrintable mark c.toNat ∧
        (quoteCode isPrintable mark c.toNat).head? = some '\\' := by
  rw [quoteCode]
  split_ifs
  · exact .inr ⟨by simp [hmark.symm], rfl⟩
  · refine .inr ?_
    rw [escapeCode]
    split_ifs <;> simp [opening_not_mem_hexDigits]
  · exact .inl (by rw [Char.ofNat_toNat])

open Text in
lemma opensNothing_quoted {text : List Char} (h : OpensNothing text) :
    OpensNothing (quoted (codes text)) := by
  have hmark : quoteMark (codes text) ≠ '[' ∧
      Markup.startsTag (quoteMark (codes text)) = false := by
    rw [quoteMark]
    split_ifs <;> decide
  have hbody : OpensNothing (quotedBody (codes text)) := by
    rw [quotedBody, codes, List.flatMap_map]
    exact h.flatMap (quoteCode_cases hmark.1)
  have hopening : OpensNothing ([quoteMark (codes text)] ++ quotedBody (codes text)) :=
    (Markup.opensNothing_singleton _).append hbody fun hlast => by simp [hmark.1] at hlast
  refine hopening.append (Markup.opensNothing_singleton _) fun _ c hc => ?_
  obtain rfl : c = quoteMark (codes text) := by simpa using hc.symm
  exact hmark.2

/-- What is said on the bytes of a text holds no bracket. -/
lemma opening_not_mem_why {bytes : List Nat} {bad : Text.Utf8.BadBytes}
    (h : Text.Utf8.decode bytes = .error bad) : '[' ∉ bad.why.toList := by
  have hfrom : ∀ skip position text bytes, Text.Utf8.decodeFrom skip position text bytes =
      .error bad → '[' ∉ bad.why.toList := by
    intro skip position text bytes h
    fun_induction Text.Utf8.decodeFrom skip position text bytes with
    | case1 => cases h
    | case2 skip position text b bytes ih => exact ih h
    | case3 =>
        cases h
        dsimp only
        decide
    | case4 position text lead bytes width hwidth fit hfit ih => exact ih h
    | case5 =>
        cases h
        dsimp only
        split_ifs <;> decide
  exact hfrom 0 0 [] bytes h

/-- The reasons that the reading of a file can give. -/
def ReadFailure.IsGiven : ReadFailure → Prop
  | badByte _ _ _ why => '[' ∉ why.toList
  | _ => True

lemma isGiven_of_follow {fs : Files} {place : Place} {names : List String} {reason : ReadFailure}
    (h : fs.follow place names = .error reason) : reason.IsGiven := by
  fun_induction Files.follow fs place names with
  | case1 => cases h
  | case3 _ _ _ ih => exact ih h
  | case4 _ _ _ _ ih => exact ih h
  | case7 _ _ _ _ _ _ _ _ ih => exact ih h
  | case8 => cases h
  | case2 | case5 | case6 | case9 =>
      cases h
      trivial

/-- A file that is not read is so for a reason that can be given, or for its name. -/
lemma read_cases {fs : Files} {file : Path} {fault : Fault} (h : fs.read file = .error fault) :
    (∃ reason, fault = .unreadable file reason ∧ reason.IsGiven) ∨ fault = .nulInPath := by
  rcases read_error_cases h with
    ⟨-, rfl⟩ | ⟨reason, rfl, hfind | rfl | rfl | ⟨bytes, bad, hdecode, rfl⟩⟩
  · exact .inr rfl
  · refine .inl ⟨reason, rfl, ?_⟩
    rw [Files.find] at hfind
    split_ifs at hfind
    · cases hfind
      trivial
    · exact isGiven_of_follow hfind
  · exact .inl ⟨_, rfl, trivial⟩
  · exact .inl ⟨_, rfl, trivial⟩
  · exact .inl ⟨_, rfl, opening_not_mem_why hdecode⟩

/-- What is wrong with a file is said of that file, if it is reported. -/
lemma fault?_cases {interp : Interpreter} {fs : Files} {file : Path} {fault : Fault}
    (h : fs.fault? interp file = some fault) (hreported : fault.isReported = true) :
    (∃ source, fault = .malformed file (interp.complaint source file)) ∨
      ∃ reason, fault = .unreadable file reason ∧ reason.IsGiven := by
  rw [← analyzeFile_eq_error_iff ⟨false, false⟩ none, analyzeFile] at h
  split at h
  · next source _ =>
    rw [SourceModule.read] at h
    split at h <;> cases h
    · cases hreported
    · cases hreported
    · exact .inl ⟨source, rfl⟩
  · next hread =>
    cases h
    rcases read_cases hread with hreason | rfl
    · exact .inr hreason
    · cases hreported

lemma opening_not_mem_toString (n : Nat) : '[' ∉ (toString n).toList :=
  fun h => (plain_toString_nat n '[' h).1 rfl

/-- A reason for not reading a file names that file. -/
lemma opensNothing_reason {file : String} (h : OpensNothing file.toList) {reason : ReadFailure}
    (hreason : reason.IsGiven) : OpensNothing (reason.message file).toList := by
  have hshown : ∀ lead : String, OpensNothing lead.toList → lead.toList.getLast? ≠ some '[' →
      OpensNothing (lead ++ ReadFailure.message.shown file).toList := by
    intro lead hlead hlast
    rw [String.toList_append, ReadFailure.message.shown, String.toList_ofList]
    exact hlead.append (opensNothing_quoted h) fun hopening => absurd hopening hlast
  unfold ReadFailure.message
  cases reason with
  | badByte value first last why =>
      have hwhy : '[' ∉ why.toList := hreason
      refine Markup.opensNothing_of_not_mem ?_
      dsimp only
      split_ifs
      · simp only [String.toList_append, String.toList_ofList, List.mem_append, not_or]
        exact ⟨⟨⟨by decide, ⟨⟨by decide, opening_not_mem_hexDigits _ _⟩, by decide⟩,
          opening_not_mem_toString _⟩, by decide⟩, hwhy⟩
      · simp only [String.toList_append, List.mem_append, not_or]
        exact ⟨⟨⟨by decide, ⟨⟨by decide, opening_not_mem_toString _⟩, by decide⟩,
          opening_not_mem_toString _⟩, by decide⟩, hwhy⟩
  | _ => exact hshown _ (by decide) (by decide)

/-- A message that names a file and gives a reason. -/
lemma opensNothing_about {lead file reason : String} (hlead : OpensNothing lead.toList)
    (hlast : lead.toList.getLast? ≠ some '[') (hfile : OpensNothing file.toList)
    (hreason : OpensNothing reason.toList) :
    OpensNothing (lead ++ file ++ ": " ++ reason).toList := by
  have hstop : ∀ c ∈ ": ".toList.head?, Markup.startsTag c = false := by
    intro c hc
    obtain rfl : c = ':' := by simpa using hc.symm
    rfl
  have hcolon : OpensNothing (lead.toList ++ file.toList ++ ": ".toList) :=
    (hlead.append hfile fun hopening => absurd hopening hlast).append (by decide) fun _ => hstop
  rw [String.toList_append, String.toList_append, String.toList_append]
  refine hcolon.append hreason fun hopening => ?_
  have hblank : ": ".toList.getLast? = some ' ' := rfl
  rw [List.getLast?_append, hblank, Option.some_or] at hopening
  cases hopening

/-- The name of a file has no tag, nor has what the interpreter says of the file. -/
structure Path.IsHarmless (interp : Interpreter) (file : Path) : Prop where
  name : OpensNothing file.toString.toList
  complaint (source : String) : OpensNothing (interp.complaint source file).toList

/-- **The message on the fault of a file has no tag**, unless the name of the file or the
complaint of the interpreter has one. -/
lemma opensNothing_message {interp : Interpreter} {fs : Files} {file : Path} {fault : Fault}
    (hfault : fs.fault? interp file = some fault) (hreported : fault.isReported = true)
    (h : file.IsHarmless interp) : OpensNothing fault.message.toList := by
  unfold Fault.message
  rcases fault?_cases hfault hreported with ⟨source, rfl⟩ | ⟨reason, rfl, hreason⟩
  · exact opensNothing_about (by decide) (by decide) h.name (h.complaint source)
  · exact opensNothing_about (by decide) (by decide) h.name (opensNothing_reason h.name hreason)

/-! ### Analyses -/

namespace Command

/-- The analysis succeeds, and what is to be written can be written. -/
def Succeeds (host : Host) (fs : Files) : Command → Prop
  | .stubs path output function sel => ∃ a,
    fs.analysis host.interpreter sel path function = .ok a ∧
      ∀ file ∈ output, ∃ fs', fs.write file (stubModule a a.module) = .ok fs'
  | .branches path function sel _ => ∃ a, fs.analysis host.interpreter sel path function = .ok a
  | .scan path excludes sel =>
    (survey host.interpreter fs sel (fs.resolve path) excludes).crash = none

/-- The analysis ends by a fault. -/
def FailsBy (host : Host) (fs : Files) (fault : Fault) : Command → Prop
  | .stubs path _ function sel => fs.analysis host.interpreter sel path function = .error fault
  | .branches path function sel _ => fs.analysis host.interpreter sel path function = .error fault
  | .scan path excludes sel =>
    (survey host.interpreter fs sel (fs.resolve path) excludes).crash = some fault

end Command

/-- The functions of an analysis come from a source text. -/
lemma forall_mem_results {interp : Interpreter} {fs : Files} {sel : Selection} {path : Path}
    {function : String} {a : Analysis} (h : fs.analysis interp sel path function = .ok a) :
    ∀ r ∈ a.results, r.Tidy ∧ r.function.Sound := by
  rw [Files.analysis] at h
  split at h
  · cases h
  · next m hm =>
    have hall : ∀ r ∈ m.analysis.results, r.Tidy ∧ r.function.Sound := by
      intro r hr
      refine ⟨SourceModule.tidy_of_mem_results r hr, ?_⟩
      obtain ⟨f, hf, rfl⟩ := List.mem_map.mp hr
      rw [function_extractBranches]
      rw [analyzeFile] at hm
      split at hm
      · rw [SourceModule.read] at hm
        split at hm
        · next stmts hread =>
          cases hm
          exact sound_functions hread sel f hf
        all_goals cases hm
      · cases hm
    rw [Analysis.select] at h
    split_ifs at h
    · cases h
      exact hall
    · split at h
      · next r hget =>
        cases h
        rw [List.forall_mem_singleton]
        rw [Analysis.get] at hget
        split at hget
        · next hfind =>
          cases hget
          exact hall _ (List.mem_of_find?_eq_some hfind)
        · cases hget
      · cases h

/-- What ends a run over a directory is not reported. -/
lemma isReported_of_crash_survey {interp : Interpreter} {fs : Files} {sel : Selection}
    {directory : Path} {patterns : List String} {fault : Fault}
    (h : (survey interp fs sel directory patterns).crash = some fault) :
    fault.isReported = false := by
  rw [crash_survey, Option.or_eq_some_iff] at h
  rcases h with hrefusal | ⟨-, hvisit⟩
  · obtain ⟨p, -, hlook⟩ := List.exists_of_findSome?_eq_some hrefusal
    split at hlook
    · cases hlook
      rfl
    · cases hlook
  · obtain ⟨p, -, hcrash⟩ := List.exists_of_findSome?_eq_some hvisit
    cases hv : visitBelow interp fs sel directory patterns p with
    | excluded =>
        rw [hv] at hcrash
        cases hcrash
    | analyzed m =>
        rw [hv] at hcrash
        cases hcrash
    | failed reason =>
        rw [hv, Visit.crash?] at hcrash
        split_ifs at hcrash with hreported
        cases hcrash
        simpa using hreported

/-! ### Lines with names -/

namespace Command

/-- The line on a file that was written. -/
def wroteLine (file : Path) : String :=
  "[green]Wrote " ++ file.toString ++ "[/green]"

/-- The line on a file without functions. -/
def noneLine (path : Path) : String :=
  "No exported functions in '[cyan]" ++ path.toString ++ "[/cyan]'"

/-- The lines of a run that show names of files, or messages that hold them, as they are, in
their order. -/
def nameLines (host : Host) (fs : Files) : Command → List String
  | .stubs path output function sel =>
    match fs.analysis host.interpreter sel path function with
    | .ok a => output.toList.filterMap fun file =>
      (fs.write file (stubModule a a.module)).toOption.map fun _ => wroteLine file
    | .error _ => []
  | .branches path function sel json =>
    match fs.analysis host.interpreter sel path function with
    | .ok a => if !json && a.results.isEmpty then [noneLine path] else []
    | .error _ => []
  | .scan path excludes sel =>
    let s := survey host.interpreter fs sel (fs.resolve path) excludes
    (if host.console.isLive then [firstShown (fs.resolve path)] else []) ++
      lastShown s :: if s.crash.isNone then errorLines s.stats else []

/-- The paths that a run may show as they are. -/
def shownPaths (fs : Files) : Command → List Path
  | .stubs _ output _ _ => output.toList
  | .branches path _ _ _ => [path]
  | .scan path _ _ => fs.resolve path :: sourceFiles fs (fs.resolve path)

end Command

lemma intercalate_drop_suffix (sep : List Char) (n : Nat) (parts : List (List Char)) :
    sep.intercalate (parts.drop n) <:+ sep.intercalate parts := by
  induction n generalizing parts with
  | zero => exact List.suffix_rfl
  | succ n ih =>
      cases parts with
      | nil => exact List.suffix_rfl
      | cons part parts =>
          refine (ih parts).trans ?_
          cases parts with
          | nil => exact List.nil_suffix
          | cons next parts =>
              rw [List.intercalate_cons_cons]
              exact List.suffix_append _ _

/-- The components behind a path have no tag if the path has none. -/
lemma opensNothing_drop {file : Path} (h : OpensNothing file.toString.toList) (n : Nat) :
    OpensNothing (Text.joinWith "/" (file.components.drop n)).toList := by
  rw [Path.toString] at h
  rw [Text.joinWith, String.toList_intercalate, List.map_drop]
  split at h
  · next hempty =>
    obtain ⟨-, hnil⟩ := Bool.and_eq_true_iff.mp hempty
    rw [List.isEmpty_iff.mp hnil, List.map_nil, List.drop_nil]
    exact List.isChain_nil
  · rw [String.toList_append, Text.joinWith, String.toList_intercalate] at h
    exact List.IsChain.suffix h
      ((intercalate_drop_suffix _ _ _).trans (List.suffix_append _ _))

lemma opensNothing_relativeTo {file : Path} (h : OpensNothing file.toString.toList)
    (directory : Path) : OpensNothing (file.relativeTo directory).toString.toList := by
  rw [Path.toString]
  split
  · decide
  · have hroot : (file.relativeTo directory).root = "" := rfl
    rw [hroot, String.empty_append]
    exact opensNothing_drop h _

lemma opensNothing_name {file : Path} (h : OpensNothing file.toString.toList) :
    OpensNothing file.name.toList := by
  rw [Path.name]
  cases hlast : file.components.getLast? with
  | none => exact List.isChain_nil
  | some name =>
      have hdrop := opensNothing_drop h (file.components.length - 1)
      have hne : file.components ≠ [] := by
        rintro hnil
        rw [hnil] at hlast
        cases hlast
      rw [List.drop_length_sub_one hne] at hdrop
      rw [List.getLast?_eq_some_getLast hne] at hlast
      obtain rfl := Option.some.inj hlast
      simpa [Text.joinWith] using hdrop

section Safe

variable {text : String} (h : OpensNothing text.toList)

include h

lemma safe_progressMarkup {opening : String} (hopening : HasTags opening ["cyan".toList]) :
    Safe (Command.progressMarkup (opening ++ text ++ "[/]")) := by
  have hbalanced := Markup.balanced_style hopening (by decide) h.tags_eq
  have hprogress : HasTags "[progress.description]" ["progress.description".toList] :=
    ⟨by decide, by decide⟩
  exact hbalanced.safe_behind hprogress (by decide)

lemma safe_errorLine : Safe ("    " ++ text) := by
  have hblanks : HasTags "    " [] := ⟨by decide, by decide⟩
  have htags : Markup.tags ("    " ++ text).toList = [] := by
    rw [String.toList_append, hblanks.tags_append, h.tags_eq]
    rfl
  refine ⟨?_, by rw [htags]; rfl⟩
  rw [Markup.isValid_iff, htags]
  exact .nil

end Safe

lemma safe_wroteLine {file : Path} (h : OpensNothing file.toString.toList) :
    Safe (Command.wroteLine file) := by
  have hopening : HasTags "[green]Wrote " ["green".toList] := ⟨by decide, by decide⟩
  have hclosing : "[/green]".toList = '[' :: ('/' :: "green".toList ++ ']' :: []) := rfl
  exact Markup.safe_between hopening (by decide) hclosing
    ⟨⟨_, _, rfl, rfl⟩, by decide, by decide⟩ List.not_mem_nil h.tags_eq

lemma safe_noneLine {path : Path} (h : OpensNothing path.toString.toList) :
    Safe (Command.noneLine path) := by
  have hopening : HasTags "No exported functions in '[cyan]" ["cyan".toList] :=
    ⟨by decide, by decide⟩
  have hclosing : "[/cyan]'".toList = '[' :: ('/' :: "cyan".toList ++ ']' :: ['\'']) := rfl
  exact Markup.safe_between hopening (by decide) hclosing
    ⟨⟨_, _, rfl, rfl⟩, by decide, by decide⟩ (by decide) h.tags_eq

namespace Command

lemma safe_firstShown {directory : Path} (h : OpensNothing directory.toString.toList) :
    Safe (firstShown directory) :=
  safe_progressMarkup (opensNothing_name h) ⟨by decide, by decide⟩

end Command

namespace Survey

/-- A step reports progress on its file only. -/
lemma progress_record (s : Survey) (number : Nat) (file : Path) (v : Visit) :
    (s.record number file v).directory = s.directory ∧
      ∀ e ∈ (s.record number file v).progress, e ∈ s.progress ∨ e.1 = file := by
  have hreport : ∀ s' : Survey, s'.progress = s.progress →
      ∀ e ∈ (s'.report number file).progress, e ∈ s.progress ∨ e.1 = file := by
    intro s' hs' e he
    rw [report, List.mem_append, List.mem_singleton, hs'] at he
    exact he.imp_right fun heq => by rw [heq]
  cases v with
  | excluded => exact ⟨rfl, hreport s.skip rfl⟩
  | analyzed m => exact ⟨rfl, hreport (s.add m) rfl⟩
  | failed fault =>
      rw [record]
      split
      · exact ⟨rfl, hreport (s.fail file fault) rfl⟩
      · exact ⟨rfl, fun e he => .inl he⟩

/-- Progress is reported on the files of a run, also if a fault ends it. -/
lemma progress_visitAll (visit : Path → Visit) (number : Nat) (files : List Path) (s : Survey) :
    (visitAll visit number files s).directory = s.directory ∧
      ∀ e ∈ (visitAll visit number files s).progress, e ∈ s.progress ∨ e.1 ∈ files := by
  induction files generalizing number s with
  | nil => exact ⟨rfl, fun e he => .inl he⟩
  | cons file files ih =>
      obtain ⟨hdirectory, hprogress⟩ := s.progress_record number file (visit file)
      rw [visitAll]
      split
      · exact ⟨hdirectory, fun e he => (hprogress e he).imp_right fun heq => by simp [heq]⟩
      · obtain ⟨hdirectory', hprogress'⟩ := ih (number + 1) (s.record number file (visit file))
        refine ⟨hdirectory'.trans hdirectory, fun e he => ?_⟩
        rcases hprogress' e he with he | he
        · exact (hprogress e he).imp_right fun heq => by simp [heq]
        · exact .inr (List.mem_cons_of_mem file he)

end Survey

lemma progress_survey (interp : Interpreter) (fs : Files) (sel : Selection) (directory : Path)
    (patterns : List String) :
    (survey interp fs sel directory patterns).directory = directory ∧
      ∀ e ∈ (survey interp fs sel directory patterns).progress,
        e.1 ∈ sourceFiles fs directory := by
  rw [survey]
  split
  · exact ⟨rfl, by simp [Survey.start]⟩
  · obtain ⟨hdirectory, hprogress⟩ := Survey.progress_visitAll
      (visit interp fs sel (defaultExcludes ++ patterns) directory) 1 (sourceFiles fs directory)
      (.start directory (sourceFiles fs directory))
    exact ⟨hdirectory, fun e he => (hprogress e he).resolve_left List.not_mem_nil⟩

namespace Command

lemma safe_lastShown {interp : Interpreter} {fs : Files} {sel : Selection} {directory : Path}
    {patterns : List String} (hdirectory : OpensNothing directory.toString.toList)
    (hfiles : ∀ p ∈ sourceFiles fs directory, OpensNothing p.toString.toList) :
    Safe (lastShown (survey interp fs sel directory patterns)) := by
  obtain ⟨hsame, hprogress⟩ := progress_survey interp fs sel directory patterns
  rw [lastShown, hsame]
  split
  · next file number total hlast =>
    have hfile := hfiles file (hprogress _ (List.mem_of_getLast? hlast))
    exact safe_progressMarkup (opensNothing_relativeTo hfile directory) ⟨by decide, by decide⟩
  · exact safe_firstShown hdirectory

/-- The messages of a run that comes to its end are on faults that are reported. -/
lemma safe_errorLines {interp : Interpreter} {fs : Files} {sel : Selection} {directory : Path}
    {patterns : List String}
    (hcrash : (survey interp fs sel directory patterns).crash = none)
    (h : ∀ p ∈ sourceFiles fs directory, p.IsHarmless interp) :
    ∀ line ∈ errorLines (survey interp fs sel directory patterns).stats, Safe line := by
  intro line hline
  obtain ⟨e, he, rfl⟩ := List.mem_map.mp hline
  rw [errors_survey hcrash] at he
  obtain ⟨fault, hfault, rfl⟩ := List.mem_map.mp he
  obtain ⟨file, hfile, hfault⟩ := List.mem_filterMap.mp hfault
  have hreported : fault.isReported = true := by
    by_contra hnot
    refine (crash_survey_iff.mp hcrash).2 file hfile (exists_unreported_iff.mp ⟨fault, hfault, ?_⟩)
    simpa using hnot
  have hharmless := h file (List.mem_of_mem_filter hfile)
  exact safe_errorLine (opensNothing_message hfault hreported hharmless)

/-- **Names without tags are harmless**, wherever they are shown. -/
lemma safe_nameLines {host : Host} {fs : Files} {command : Command}
    (h : ∀ p ∈ command.shownPaths fs, p.IsHarmless host.interpreter) :
    ∀ line ∈ command.nameLines host fs, Safe line := by
  intro line hline
  cases command with
  | stubs path output function sel =>
      rw [nameLines] at hline
      split at hline
      · obtain ⟨file, hfile, hwrote⟩ := List.mem_filterMap.mp hline
        obtain ⟨fs', -, rfl⟩ := Option.map_eq_some_iff.mp hwrote
        exact safe_wroteLine (h file hfile).name
      · cases hline
  | branches path function sel json =>
      rw [nameLines] at hline
      split at hline
      · split_ifs at hline
        · rw [List.mem_singleton] at hline
          subst hline
          exact safe_noneLine (h path (List.mem_singleton_self path)).name
        · cases hline
      · cases hline
  | scan path excludes sel =>
      have hdirectory := (h (fs.resolve path) List.mem_cons_self).name
      have hfiles : ∀ p ∈ sourceFiles fs (fs.resolve path), p.IsHarmless host.interpreter :=
        fun p hp => h p (List.mem_cons_of_mem _ hp)
      rw [nameLines, List.mem_append, List.mem_cons] at hline
      rcases hline with hfirst | rfl | herror
      · split_ifs at hfirst
        · rw [List.mem_singleton] at hfirst
          subst hfirst
          exact safe_firstShown hdirectory
        · cases hfirst
      · exact safe_lastShown hdirectory fun p hp => (hfiles p hp).name
      · split_ifs at herror with hcrash
        · exact safe_errorLines (Option.isNone_iff_eq_none.mp hcrash) hfiles line herror
        · cases herror

end Command

/-! ### Ends of runs -/

/-- The run was broken off by an exception of the console, if there is one. Otherwise no such
exception has ended it, and it has come to its end if `success` holds. -/
structure Run.EndsBy (o : Run) (failure : Option Console.Failure) (success : Prop) : Prop where
  broken : ∀ e, failure = some e → o.exitCode = 1 ∧ o.crash = some (.console e)
  unbroken : failure = none → ∀ e, o.crash ≠ some (.console e)
  finished : failure = none → success → o.exitCode = 0 ∧ o.crash = none

namespace Run

variable {o : Run} {success : Prop}

/-- A run that has come to its end. -/
lemma EndsBy.of_finished (hcode : o.exitCode = 0) (hcrash : o.crash = none) :
    o.EndsBy none success where
  broken e he := by cases he
  unbroken _ e := by simp [hcrash]
  finished _ _ := ⟨hcode, hcrash⟩

/-- A run that something else has ended. -/
lemma EndsBy.of_other (hcrash : ∀ e, o.crash ≠ some (.console e)) (hfails : ¬ success) :
    o.EndsBy none success where
  broken e he := by cases he
  unbroken _ := hcrash
  finished _ hsuccess := absurd hsuccess hfails

lemma EndsBy.of_crashed (e : Console.Failure) :
    (o.crashed (.console e)).EndsBy (some e) success where
  broken e' he := by
    cases he
    exact ⟨rfl, rfl⟩
  unbroken h := by cases h
  finished h := by cases h

/-- It may have come to its end under a weaker condition. -/
lemma EndsBy.mono {failure : Option Console.Failure} {success' : Prop}
    (h : o.EndsBy failure success) (hsuccess : success' → success) :
    o.EndsBy failure success' where
  broken := h.broken
  unbroken := h.unbroken
  finished hnone hs := h.finished hnone (hsuccess hs)

/-- A run that shows lines in the end. -/
lemma EndsBy.of_showLines (hcode : o.exitCode = 0) (hcrash : o.crash = none) (c : Console)
    (markups : List String) :
    (o.showLines c markups).EndsBy (markups.findSome? c.failure?) success := by
  obtain ⟨text, htext⟩ := o.showLines_eq c markups
  rw [htext]
  cases markups.findSome? c.failure? with
  | none => exact of_finished hcode hcrash
  | some e => exact of_crashed e

/-- The message on a fault is escaped, so it breaks no run. -/
lemma crash_failed_ne {c : Console} (hc : c.Documented) {fs : Files} (log : List Event)
    (fault : Fault) (e : Console.Failure) :
    ((Run.start fs log).failed c fault).crash ≠ some (.console e) := by
  rw [Run.failed_start]
  dsimp only
  cases hreported : fault.isReported with
  | true =>
      have hreports : ((Run.start fs []).failed c fault).Reports c fs fault :=
        Run.reports_failed hc hreported
      rw [hreports.crash]
      exact Option.some_ne_none _ |>.symm
  | false =>
      rw [Run.failed, hreported, if_neg Bool.false_ne_true]
      simp [Run.crashed]

end Run

namespace Command

/-- A fault that is reported ends a run, and nothing else is shown. -/
lemma run_of_failsBy {host : Host} {fs : Files} {command : Command} {fault : Fault}
    (h : command.FailsBy host fs fault) (hreported : fault.isReported = true) :
    ∃ log, command.run host fs = (Run.start fs log).failed host.console fault := by
  cases command with
  | stubs path output function sel =>
      obtain ⟨log, -, hrun⟩ := analyze_of_fault (showStubs host.console output) h
      exact ⟨log, hrun⟩
  | branches path function sel json =>
      obtain ⟨log, -, hrun⟩ := analyze_of_fault (showBranches host.console path json) h
      exact ⟨log, hrun⟩
  | scan path excludes sel =>
      rw [isReported_of_crash_survey h] at hreported
      cases hreported

/-- A file that was written is shown by its name; one that cannot be written ends the run. -/
lemma endsBy_showStubs (console : Console) (fs : Files) (log : List Event) (a : Analysis)
    (output : Option Path) :
    (showStubs console output (Run.start fs log) a).EndsBy
      ((output.toList.filterMap fun file =>
        (fs.write file (stubModule a a.module)).toOption.map fun _ =>
          wroteLine file).findSome? console.failure?)
      (∀ file ∈ output, ∃ fs', fs.write file (stubModule a a.module) = .ok fs') := by
  cases output with
  | none => exact .of_finished rfl rfl
  | some file =>
      have hfiles : (Run.start fs log).files = fs := rfl
      rw [showStubs, hfiles, Option.toList_some, List.filterMap_cons, List.filterMap_nil]
      cases hwrite : fs.write file (stubModule a a.module) with
      | ok fs' => exact .of_showLines rfl rfl console [wroteLine file]
      | error reason =>
          refine .of_other (by simp [Run.crashed]) fun hwritten => ?_
          obtain ⟨fs', hfs⟩ := hwritten file rfl
          rw [hwrite] at hfs
          cases hfs

variable {host : Host} (hconsole : host.console.Documented) (fs : Files)

include hconsole

lemma endsBy_analyze {path : Path} {function : String} {sel : Selection}
    {next : Run → Analysis → Run} {lines : Analysis → List String} {success : Prop}
    (hfault : ∀ fault, fs.analysis host.interpreter sel path function = .error fault → ¬ success)
    (hnext : ∀ log a, fs.analysis host.interpreter sel path function = .ok a →
      (next (Run.start fs log) a).EndsBy ((lines a).findSome? host.console.failure?) success) :
    (analyze host fs path function sel next).EndsBy
      ((match fs.analysis host.interpreter sel path function with
        | .ok a => lines a
        | .error _ => []).findSome? host.console.failure?) success := by
  cases h : fs.analysis host.interpreter sel path function with
  | error fault =>
      obtain ⟨log, -, hrun⟩ := analyze_of_fault next h
      rw [hrun]
      exact .of_other (Run.crash_failed_ne hconsole log fault) (hfault fault h)
  | ok a =>
      obtain ⟨log, hrun⟩ := analyze_of_analysis next h
      rw [hrun]
      exact hnext log a h

lemma endsBy_showBranches {o : Run} (hcode : o.exitCode = 0) (hcrash : o.crash = none)
    {a : Analysis} (path : Path) (json : Bool) (h : ∀ r ∈ a.results, r.Tidy ∧ r.function.Sound)
    {success : Prop} :
    (showBranches host.console path json o a).EndsBy
      ((if !json && a.results.isEmpty then [noneLine path] else []).findSome?
        host.console.failure?) success := by
  rw [showBranches]
  cases json with
  | true => exact .of_finished hcode hcrash
  | false =>
      rw [if_neg Bool.false_ne_true]
      cases a.results.isEmpty with
      | true => exact .of_showLines hcode hcrash _ [noneLine path]
      | false =>
          -- no name of a file is in the listing, and all the rest is escaped
          have hsafe : ∀ line ∈ a.results.flatMap Accumulator.listing, Safe line := by
            intro line hline
            obtain ⟨r, hr, hline⟩ := List.mem_flatMap.mp hline
            obtain ⟨htidy, hsound⟩ := h r hr
            exact Accumulator.safe_listing htidy hsound line hline
          obtain ⟨text, htext⟩ := o.showLines_of_safe hconsole hsafe
          rw [if_neg Bool.false_ne_true, htext]
          exact .of_finished hcode hcrash

/-- What a progress display shows decides first, then the fault or the messages on faults. -/
lemma endsBy_showSurvey (s : Survey) :
    (showSurvey host.console fs s).EndsBy
      ((lastShown s :: if s.crash.isNone then errorLines s.stats else []).findSome?
        host.console.failure?) (s.crash = none) := by
  rw [showSurvey, List.findSome?_cons, Console.failure?]
  cases host.console.render (lastShown s) with
  | error e => exact .of_crashed e
  | ok shown =>
      dsimp only
      cases hcrash : s.crash with
      | some fault => exact .of_other (Run.crash_failed_ne hconsole _ fault) (by simp)
      | none =>
          obtain ⟨counts, hsummary, hcounts⟩ := summary_eq s.stats
          have hlines := hconsole.findSome?_append hcounts (errorLines s.stats)
          rw [← hsummary] at hlines
          rw [Option.isNone_none, if_pos rfl, ← hlines]
          exact .of_showLines rfl rfl _ _

lemma endsBy_scanDirectory (directory : Path) (excludes : List String) (sel : Selection) :
    let s := survey host.interpreter fs sel directory excludes
    (scanDirectory host fs directory excludes sel).EndsBy
      (((if host.console.isLive then [firstShown directory] else []) ++
        lastShown s :: if s.crash.isNone then errorLines s.stats else []).findSome?
          host.console.failure?) (s.crash = none) := by
  intro s
  rw [List.findSome?_append, ← Console.lines_snd, scanDirectory]
  cases host.console.lines (if host.console.isLive then [firstShown directory] else []) with
  | mk text failure =>
      cases failure with
      | some e => exact .of_crashed e
      | none => exact endsBy_showSurvey hconsole fs s

/-- **The lines that show names as they are decide how a run ends.** -/
lemma endsBy_run (command : Command) :
    (command.run host fs).EndsBy
      ((command.nameLines host fs).findSome? host.console.failure?)
      (command.Succeeds host fs) := by
  cases command with
  | stubs path output function sel =>
      refine endsBy_analyze hconsole fs ?_ fun log a ha => ?_
      · rintro fault hfault ⟨a, ha, -⟩
        rw [hfault] at ha
        cases ha
      · refine (endsBy_showStubs host.console fs log a output).mono ?_
        rintro ⟨a', ha', hwritten⟩
        rw [ha] at ha'
        cases ha'
        exact hwritten
  | branches path function sel json =>
      refine endsBy_analyze hconsole fs ?_ fun log a ha => ?_
      · rintro fault hfault ⟨a, ha⟩
        rw [hfault] at ha
        cases ha
      · exact endsBy_showBranches hconsole rfl rfl path json (forall_mem_results ha)
  | scan path excludes sel => exact endsBy_scanDirectory hconsole fs (fs.resolve path) excludes sel

end Command

/-! ### Names of files -/

/-- A tree with a file and a directory whose name is an opening bracket. -/
def bracketTree : Files :=
  ((Files.empty ["r"]).put ["r", "["] .directory).put ["r", "a.py"]
    (.file (Text.Utf8.encode "x = 1\n".toList))

end Branchwise
