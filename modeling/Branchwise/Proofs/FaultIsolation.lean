/-
Faults stay with their files.

A file that cannot be read or parsed does not keep the others from being analyzed, and every
command says what is wrong with it. The exceptions are NUL characters, texts on which the
interpreter breaks down, and directories in which it cannot be found out what the entries are.

* `Text.Utf8.nul_mem_decode`: the zero bytes of a text are its NUL characters.
* `Files.fault?`: what is wrong with a file; `Files.EndsRuns` says that it is not reported, by
  `exists_unreported_iff`.
* `read_error_cases`: what keeps a file from being read.
* `crash_survey_iff`: which runs over a directory come to an end.
* `errors_survey`, `analyses_survey`: the messages and analyses of a run over a directory.
* `Run.Reports`: a run that has shown the message on a fault and done nothing else.
* `faults_isolated`: all of this together.
-/
import Mathlib.Data.Char
import Branchwise.Command.Run
import Branchwise.Tools
import Branchwise.Proofs.DirectoryRuns
import Branchwise.Proofs.MarkupTags
import Branchwise.Proofs.NormalForm

namespace Branchwise

open Source (Selection)

/-! ### Zero bytes -/

namespace Text.Utf8

/-- Further bytes that fit a first byte. -/
lemma fitting_cases {lead expected : Nat} {bytes : List Nat}
    (h : fitting lead expected bytes = expected) :
    expected = 0 ∨ ∃ second rest, bytes.take expected = second :: rest ∧
      secondFits lead second = true ∧ rest.length = expected - 1 ∧
      ∀ b ∈ rest, continues b = true := by
  cases bytes with
  | nil => exact .inl h.symm
  | cons second rest =>
      rw [fitting] at h
      split at h
      · next hfits =>
        obtain ⟨hpos, hsecond⟩ := Bool.and_eq_true_iff.mp hfits
        obtain ⟨n, rfl⟩ : ∃ n, expected = n + 1 := ⟨expected - 1, by simp at hpos; omega⟩
        rw [Nat.add_sub_cancel, Nat.add_comm, Nat.add_right_cancel_iff] at h
        have hall : (rest.take n).takeWhile continues = rest.take n := by
          refine List.IsPrefix.eq_of_length_le (List.takeWhile_prefix _) ?_
          rw [h]
          exact List.length_take_le _ _
        refine .inr ⟨second, rest.take n, rfl, hsecond, by rw [← hall, h]; rfl, fun b hb => ?_⟩
        rw [← hall] at hb
        exact List.mem_takeWhile_imp hb
      · exact .inl h.symm

lemma continues_iff {b : Nat} : continues b = true ↔ 0x80 ≤ b ∧ b < 0xC0 := by
  rw [continues, Bool.and_eq_true, decide_eq_true_eq, decide_eq_true_eq]

lemma secondFits_cases {lead second : Nat} (h : secondFits lead second = true) :
    (0x80 ≤ second ∧ second < 0xC0) ∧ (lead = 0xE0 → 0xA0 ≤ second) ∧
      (lead = 0xED → second < 0xA0) ∧ (lead = 0xF0 → 0x90 ≤ second) ∧
      (lead = 0xF4 → second < 0x90) := by
  rw [secondFits, Bool.and_eq_true, continues_iff] at h
  refine ⟨h.1, ?_, ?_, ?_, ?_⟩ <;> rintro rfl <;> simpa using h.2

/-- The first byte and those that fit give the code point of a character. It is zero for the
zero byte only. -/
lemma codePoint_cases {lead width : Nat} {bytes : List Nat} (hwidth : width? lead = some width)
    (hfit : fitting lead (width - 1) bytes = width - 1) :
    (codePoint width lead (bytes.take (width - 1))).isValidChar ∧
      (codePoint width lead (bytes.take (width - 1)) = 0 ↔ lead = 0) := by
  have hcases := fitting_cases hfit
  rw [width?] at hwidth
  split_ifs at hwidth with h₁ h₂ h₃ h₄ h₅ <;> obtain rfl := Option.some.inj hwidth
  · exact ⟨.inl (Nat.lt_trans h₁ (by omega)), Iff.rfl⟩
  · obtain ⟨second, rest, htake, hsecond, hlength, -⟩ := hcases.resolve_left (by omega)
    obtain rfl : rest = [] := List.eq_nil_of_length_eq_zero hlength
    have hcode : codePoint 2 lead (bytes.take 1) = (lead - 0xC0) * 64 + (second - 0x80) := by
      rw [htake]
      rfl
    have hsecond := secondFits_cases hsecond
    rw [hcode]
    exact ⟨.inl (by omega), by omega⟩
  · obtain ⟨second, rest, htake, hsecond, hlength, hrest⟩ := hcases.resolve_left (by omega)
    obtain ⟨third, rfl⟩ := List.length_eq_one_iff.mp hlength
    have hcode : codePoint 3 lead (bytes.take 2) =
        ((lead - 0xE0) * 64 + (second - 0x80)) * 64 + (third - 0x80) := by
      rw [htake]
      rfl
    have hsecond := secondFits_cases hsecond
    have hthird := continues_iff.mp (hrest third (List.mem_singleton_self _))
    rw [hcode]
    refine ⟨?_, by omega⟩
    -- the surrogates lie behind the code points of `0xED`
    by_cases hlead : lead ≤ 0xED
    · exact .inl (by omega)
    · exact .inr ⟨by omega, by omega⟩
  · obtain ⟨second, rest, htake, hsecond, hlength, hrest⟩ := hcases.resolve_left (by omega)
    obtain ⟨third, fourth, rfl⟩ := List.length_eq_two.mp hlength
    have hcode : codePoint 4 lead (bytes.take 3) =
        (((lead - 0xF0) * 64 + (second - 0x80)) * 64 + (third - 0x80)) * 64 + (fourth - 0x80) := by
      rw [htake]
      rfl
    have hsecond := secondFits_cases hsecond
    have hthird := continues_iff.mp (hrest third List.mem_cons_self)
    have hfourth := continues_iff.mp
      (hrest fourth (List.mem_cons_of_mem _ (List.mem_singleton_self _)))
    rw [hcode]
    exact ⟨.inr ⟨by omega, by omega⟩, by omega⟩

lemma ofNat_eq_nul_iff {n : Nat} (h : n.isValidChar) : Char.ofNat n = '\x00' ↔ n = 0 := by
  constructor
  · intro hn
    rw [← toNat_ofNat h, hn]
    rfl
  · rintro rfl
    rfl

/-- No byte that fits is zero. -/
lemma zero_not_mem_take {lead expected : Nat} {bytes : List Nat}
    (h : fitting lead expected bytes = expected) : 0 ∉ bytes.take expected := by
  intro hmem
  rcases fitting_cases h with rfl | ⟨second, rest, htake, hsecond, -, hrest⟩
  · simp at hmem
  · rw [htake, List.mem_cons] at hmem
    rcases hmem with rfl | hmem
    · exact absurd (secondFits_cases hsecond).1.1 (by omega)
    · exact absurd (continues_iff.mp (hrest 0 hmem)).1 (by omega)

lemma nul_mem_decodeFrom {skip position : Nat} {text result : List Char} {bytes : List Nat}
    (h : decodeFrom skip position text bytes = .ok result) :
    '\x00' ∈ result ↔ '\x00' ∈ text ∨ 0 ∈ bytes.drop skip := by
  fun_induction decodeFrom skip position text bytes with
  | case1 =>
      cases h
      simp
  | case2 skip position text b bytes ih => exact ih h
  | case3 => cases h
  | case4 position text lead bytes width hwidth fit hfit ih =>
      obtain ⟨hvalid, hzero⟩ := codePoint_cases hwidth hfit
      have hchar : '\x00' = Char.ofNat (codePoint width lead (bytes.take fit)) ↔ lead = 0 := by
        rw [eq_comm, ← hzero, hfit]
        exact ofNat_eq_nul_iff hvalid
      have hdrop : 0 ∈ bytes.drop fit ↔ 0 ∈ bytes := by
        have hnot := zero_not_mem_take hfit
        rw [← hfit] at hnot
        nth_rewrite 2 [← List.take_append_drop fit bytes]
        rw [List.mem_append, or_iff_right hnot]
      rw [ih h, List.mem_cons, hchar, hdrop, List.drop_zero, List.mem_cons, or_assoc, or_left_comm,
        eq_comm (a := lead)]
  | case5 => cases h

/-- **The zero bytes of a text are its NUL characters.** -/
lemma nul_mem_decode {bytes : List Nat} {text : List Char} (h : decode bytes = .ok text) :
    '\x00' ∈ text ↔ 0 ∈ bytes := by
  simpa using nul_mem_decodeFrom h

end Text.Utf8

/-! ### Faults of files -/

namespace Files

/-- What is wrong with a file, whatever is to be found in it. -/
def fault? (fs : Files) (interp : Interpreter) (file : Path) : Option Fault :=
  match analyzeFile interp fs ⟨false, false⟩ file none with
  | .error fault => some fault
  | .ok _ => none

/-- The file can be read, and there is a zero byte in it. -/
def HoldsNul (fs : Files) (file : Path) : Prop :=
  ∃ place bytes text, fs.find file = .ok (place, .file bytes) ∧ (fs.rights place).read = true ∧
    Text.Utf8.decode bytes = .ok text ∧ 0 ∈ bytes

/-- The file can be read, and the interpreter breaks down on its text. -/
def BreaksDown (fs : Files) (interp : Interpreter) (file : Path) : Prop :=
  ∃ source b, fs.read file = .ok source ∧ interp.breakdown source = some b

/-- The file ends a run that comes to it: there is a NUL character in its path or its text, or
the interpreter breaks down on it. -/
def EndsRuns (fs : Files) (interp : Interpreter) (file : Path) : Prop :=
  hasNul file = true ∨ fs.HoldsNul file ∨ fs.BreaksDown interp file

/-- It can be found out what stands at the path of a directory, and at those of all entries
that are listed below it. -/
def CanList (fs : Files) (directory : Path) : Prop :=
  ∀ p ∈ directory :: (fs.listing directory).map Prod.fst, ∃ found, fs.look p = .ok found

end Files

variable {fs : Files} {interp : Interpreter}

/-- What is wrong with a source text does not depend on what is to be found in it. -/
lemma SourceModule.read_eq_error_iff {sel sel' : Selection} {source : String} {file : Path}
    {module module' : Option String} {fault : Fault} :
    read interp sel source file module = .error fault ↔
      read interp sel' source file module' = .error fault := by
  rw [read, read]
  split <;> simp

lemma analyzeFile_eq_error_iff (sel : Selection) {file : Path} (module : Option String)
    {fault : Fault} :
    analyzeFile interp fs sel file module = .error fault ↔ fs.fault? interp file = some fault := by
  have hsame : analyzeFile interp fs sel file module = .error fault ↔
      analyzeFile interp fs ⟨false, false⟩ file none = .error fault := by
    rw [analyzeFile, analyzeFile]
    split
    · exact SourceModule.read_eq_error_iff
    · simp
  rw [hsame, Files.fault?]
  split <;> simp_all

lemma fault?_of_read_error {file : Path} {fault : Fault} (h : fs.read file = .error fault) :
    fs.fault? interp file = some fault := by
  rw [← analyzeFile_eq_error_iff ⟨false, false⟩ none, analyzeFile, h]

/-- Of a text that was read, only a NUL character and a breakdown are not reported. -/
lemma exists_unreported_iff_of_read {file : Path} {source : String}
    (h : fs.read file = .ok source) :
    (∃ fault, fs.fault? interp file = some fault ∧ fault.isReported = false) ↔
      '\x00' ∈ source.toList ∨ ∃ b, interp.breakdown source = some b := by
  rw [Files.fault?, analyzeFile, h]
  dsimp only
  rw [SourceModule.read, Source.readModule]
  by_cases hnul : '\x00' ∈ source.toList
  · simp [hnul, Fault.isReported]
  · simp only [List.contains_eq_mem, hnul, decide_false, Bool.false_eq_true, if_false, false_or]
    cases interp.breakdown source with
    | some b => simp [Fault.isReported]
    | none => cases Source.statements? interp.charNamed source.toList <;> simp [Fault.isReported]

/-- What can be read, and as what. -/
lemma read_eq_ok_iff {file : Path} {source : String} (hnul : Files.hasNul file = false) :
    fs.read file = .ok source ↔ ∃ place bytes text, fs.find file = .ok (place, .file bytes) ∧
      (fs.rights place).read = true ∧ Text.Utf8.decode bytes = .ok text ∧
      source = String.ofList (Text.unifyNewlines text) := by
  rw [Files.read, hnul, if_neg Bool.false_ne_true]
  cases hfind : fs.find file with
  | error reason => simp
  | ok found =>
      obtain ⟨place, entry⟩ := found
      dsimp only
      cases hright : (fs.rights place).read with
      | false =>
          rw [if_pos (by decide)]
          refine iff_of_false (by simp) ?_
          rintro ⟨place', bytes, text, hfound, hright', -⟩
          cases hfound
          rw [hright] at hright'
          cases hright'
      | true =>
          rw [if_neg (by decide)]
          cases entry with
          | directory => simp
          | file bytes =>
              cases hdecode : Text.Utf8.decode bytes with
              | error bad => simp [hdecode]
              | ok text => simp [hdecode, hright, eq_comm (a := source)]

/-- What keeps a file from being read. -/
lemma read_error_cases {file : Path} {fault : Fault} (h : fs.read file = .error fault) :
    (Files.hasNul file = true ∧ fault = .nulInPath) ∨
      ∃ reason, fault = .unreadable file reason ∧
        (fs.find file = .error reason ∨ reason = .denied ∨ reason = .directory ∨
          ∃ bytes bad, Text.Utf8.decode bytes = .error bad ∧
            reason = .badByte bad.value bad.first bad.last bad.why) := by
  rw [Files.read] at h
  split at h
  · next hnul =>
    cases h
    exact .inl ⟨hnul, rfl⟩
  · refine .inr ?_
    split at h
    · next reason hfind =>
      cases h
      exact ⟨reason, rfl, .inl hfind⟩
    · split at h
      · cases h
        exact ⟨_, rfl, .inr (.inl rfl)⟩
      · split at h
        · cases h
          exact ⟨_, rfl, .inr (.inr (.inl rfl))⟩
        · split at h
          · cases h
          · next bytes _ bad hdecode =>
            cases h
            exact ⟨_, rfl, .inr (.inr (.inr ⟨_, bad, hdecode, rfl⟩))⟩

lemma isReported_of_read {file : Path} {fault : Fault} (hnul : Files.hasNul file = false)
    (h : fs.read file = .error fault) : fault.isReported = true := by
  rcases read_error_cases h with ⟨htrue, -⟩ | ⟨reason, rfl, -⟩
  · rw [hnul] at htrue
    cases htrue
  · rfl

/-- **A fault that is not reported** is one of a NUL character, or a breakdown. -/
lemma exists_unreported_iff {file : Path} :
    (∃ fault, fs.fault? interp file = some fault ∧ fault.isReported = false) ↔
      fs.EndsRuns interp file := by
  rw [Files.EndsRuns]
  cases hnul : Files.hasNul file with
  | true =>
      have hread : fs.read file = .error .nulInPath := by rw [Files.read, hnul, if_pos rfl]
      simp [fault?_of_read_error hread, Fault.isReported]
  | false =>
      rw [or_iff_right Bool.false_ne_true, Files.HoldsNul, Files.BreaksDown]
      cases hread : fs.read file with
      | error fault =>
          refine iff_of_false ?_ ?_
          · rintro ⟨fault', hfault, hnot⟩
            obtain rfl := Option.some.inj (hfault.symm.trans (fault?_of_read_error hread))
            rw [isReported_of_read hnul hread] at hnot
            cases hnot
          · rintro (⟨place, bytes, text, hfind, hright, hdecode, -⟩ | ⟨source, b, hsource, -⟩)
            · rw [(read_eq_ok_iff hnul).mpr ⟨place, bytes, text, hfind, hright, hdecode, rfl⟩]
                at hread
              cases hread
            · cases hsource
      | ok source =>
          obtain ⟨place, bytes, text, hfind, hright, hdecode, rfl⟩ := (read_eq_ok_iff hnul).mp hread
          rw [exists_unreported_iff_of_read hread, String.toList_ofList,
            Text.mem_unifyNewlines (by decide) (by decide), Text.Utf8.nul_mem_decode hdecode]
          simp [hfind, hright, hdecode]

/-! ### Runs over directories -/

section Directory

variable {sel : Selection} {directory : Path} {patterns : List String} {file : Path}

lemma fault?_eq_none (module : Option String) {m : SourceModule}
    (h : analyzeFile interp fs sel file module = .ok m) : fs.fault? interp file = none := by
  rw [Option.eq_none_iff_forall_ne_some]
  intro fault hfault
  rw [← analyzeFile_eq_error_iff sel module, h] at hfault
  cases hfault

lemma error?_visitBelow : (visitBelow interp fs sel directory patterns file).error? =
    if leavesOut directory patterns file then none
    else (fs.fault? interp file).map Fault.message := by
  rcases visitBelow_cases interp fs sel directory patterns file with
    ⟨hout, hv⟩ | ⟨hout, ⟨m, hm, hv⟩ | ⟨fault, hfault, hv⟩⟩
  · rw [hv, hout, if_pos rfl]
    rfl
  · rw [hv, hout, if_neg Bool.false_ne_true, fault?_eq_none _ hm]
    rfl
  · rw [hv, hout, if_neg Bool.false_ne_true, (analyzeFile_eq_error_iff _ _).mp hfault]
    rfl

lemma analysis?_visitBelow : (visitBelow interp fs sel directory patterns file).analysis? =
    if leavesOut directory patterns file then none
    else (analyzeBelow interp fs sel directory file).toOption.map SourceModule.analysis := by
  rcases visitBelow_cases interp fs sel directory patterns file with
    ⟨hout, hv⟩ | ⟨hout, ⟨m, hm, hv⟩ | ⟨fault, hfault, hv⟩⟩
  · rw [hv, hout, if_pos rfl]
    rfl
  · rw [hv, hout, if_neg Bool.false_ne_true, hm]
    rfl
  · rw [hv, hout, if_neg Bool.false_ne_true, hfault]
    rfl

/-- Which files do not end a run. -/
lemma crash?_visitBelow_eq_none_iff :
    (visitBelow interp fs sel directory patterns file).crash? = none ↔
      (leavesOut directory patterns file = false → ¬ fs.EndsRuns interp file) := by
  rw [← exists_unreported_iff]
  rcases visitBelow_cases interp fs sel directory patterns file with
    ⟨hout, hv⟩ | ⟨hout, ⟨m, hm, hv⟩ | ⟨fault, hfault, hv⟩⟩
  · simp [hv, hout, Visit.crash?]
  · simp [hv, hout, Visit.crash?, fault?_eq_none _ hm]
  · simp [hv, hout, Visit.crash?, (analyzeFile_eq_error_iff _ _).mp hfault]

lemma refusal?_eq_none_iff : fs.refusal? directory = none ↔ fs.CanList directory := by
  rw [Files.refusal?, List.findSome?_eq_none_iff, Files.CanList]
  refine forall₂_congr fun p _ => ?_
  cases fs.look p <;> simp

/-- The files of a directory that are not excluded. -/
def keptFiles (fs : Files) (directory : Path) (patterns : List String) : List Path :=
  (sourceFiles fs directory).filter fun p => !leavesOut directory patterns p

/-- **Which runs over a directory come to their end.** -/
lemma crash_survey_iff : (survey interp fs sel directory patterns).crash = none ↔
    fs.CanList directory ∧ ∀ p ∈ keptFiles fs directory patterns, ¬ fs.EndsRuns interp p := by
  rw [crash_survey_eq_none_iff, refusal?_eq_none_iff]
  simp only [crash?_visitBelow_eq_none_iff, keptFiles, List.mem_filter, and_imp,
    Bool.not_eq_true']

lemma filterMap_keptFiles {α : Type} (f : Path → Option α) :
    (keptFiles fs directory patterns).filterMap f =
      (sourceFiles fs directory).filterMap fun p =>
        if leavesOut directory patterns p then none else f p := by
  rw [keptFiles, List.filterMap_filter]
  congr 1
  funext p
  cases leavesOut directory patterns p <;> rfl

/-- Every kept file with a fault has its message. -/
lemma errors_survey (h : (survey interp fs sel directory patterns).crash = none) :
    (survey interp fs sel directory patterns).stats.errors =
      ((keptFiles fs directory patterns).filterMap (fs.fault? interp)).map Fault.message := by
  rw [List.map_filterMap, filterMap_keptFiles, (accounts_survey h).errors]
  simp only [error?_visitBelow]

/-- Every other one has its analysis. -/
lemma analyses_survey (h : (survey interp fs sel directory patterns).crash = none) :
    (survey interp fs sel directory patterns).analyses =
      (keptFiles fs directory patterns).filterMap fun p =>
        (analyzeBelow interp fs sel directory p).toOption.map SourceModule.analysis := by
  rw [filterMap_keptFiles, (accounts_survey h).analyses]
  simp only [analysis?_visitBelow]

end Directory

/-! ### Commands -/

/-- The file that a command analyzes. -/
def Command.file? : Command → Option Path
  | .stubs path _ _ _ => some path
  | .branches path _ _ _ => some path
  | .scan _ _ _ => none

/-- The line that shows a fault. -/
def Fault.markup (fault : Fault) : String :=
  "[red]" ++ Markup.escape fault.message ++ "[/red]"

lemma Fault.safe_markup (fault : Fault) : Markup.Safe fault.markup := by
  have hopening : Markup.HasTags "[red]" ["red".toList] := ⟨by decide, by decide⟩
  have hclosing : "[/red]".toList = '[' :: ('/' :: "red".toList ++ ']' :: []) := rfl
  exact Markup.safe_between hopening (by decide) hclosing
    ⟨⟨_, _, rfl, rfl⟩, by decide, by decide⟩ List.not_mem_nil (Markup.tags_escape fault.message)

/-- What is visible of the line that shows a fault: its message, less some of the backslashes in
it. -/
lemma Fault.visible?_markup (fault : Fault) : ∃ text,
    Markup.visible? fault.markup = .ok text ∧
      (fault.message.toList.filter (· != '\\')).Sublist text.toList ∧
      ('\\' ∉ fault.message.toList → text = fault.message) := by
  have hbefore : Markup.IsInside ['r', 'e', 'd'] := ⟨⟨_, _, rfl, rfl⟩, by decide, by decide⟩
  have hbehind : Markup.IsInside ['/', 'r', 'e', 'd'] := ⟨⟨_, _, rfl, rfl⟩, by decide, by decide⟩
  have hopen : Markup.afterTag ['r', 'e', 'd'] [] = .ok [['r', 'e', 'd']] := by rfl
  have hclose : Markup.afterTag ['/', 'r', 'e', 'd'] [['r', 'e', 'd']] = .ok [] := by rfl
  exact Markup.visible?_escape hbefore hbehind hopen hclose rfl rfl fault.message

/-- The run has shown the message on a fault, and has done nothing else. Some of the
backslashes in it may not show, and emoji codes in it may be replaced. -/
structure Run.Reports (o : Run) (console : Console) (fs : Files) (fault : Fault) : Prop where
  exitCode : o.exitCode = 1
  crash : o.crash = none
  stdout : o.stdout = ""
  log : o.log = []
  files : o.files = fs
  stderr : console.render fault.markup = .ok o.stderr
  message : ∃ text, (fault.message.toList.filter (· != '\\')).Sublist text.toList ∧
    ('\\' ∉ fault.message.toList → text = fault.message) ∧
    (console.holdsEmoji fault.markup = false → o.stderr = console.layOut text)

lemma Run.reports_failed {console : Console} (hconsole : console.Documented) {fault : Fault}
    (h : fault.isReported = true) :
    ((Run.start fs []).failed console fault).Reports console fs fault := by
  obtain ⟨text, htext, hsublist, hall⟩ := fault.visible?_markup
  obtain ⟨shown, hshown, hplain⟩ := hconsole.shows fault.markup text fault.safe_markup.own htext
  have hrender := hshown
  rw [Fault.markup] at hrender
  rw [Run.failed, if_pos h, hrender]
  have hstderr : (Run.start fs []).stderr ++ shown = shown := String.empty_append
  exact ⟨rfl, rfl, rfl, rfl, rfl, hstderr.symm ▸ hshown, text, hsublist, hall,
    fun hemoji => hstderr.trans (hplain hemoji)⟩

lemma Command.run_of_fault {host : Host} {command : Command} {path : Path} {fault : Fault}
    (hpath : command.file? = some path) (hfault : fs.fault? host.interpreter path = some fault) :
    command.run host fs = (Run.start fs []).failed host.console fault := by
  cases command with
  | stubs path' output function sel =>
      cases hpath
      rw [Command.run, Command.analyze, (analyzeFile_eq_error_iff sel none).mpr hfault]
  | branches path' function sel json =>
      cases hpath
      rw [Command.run, Command.analyze, (analyzeFile_eq_error_iff sel none).mpr hfault]
  | scan => cases hpath

section CommandLine

variable {host : Host} {args : List String} {r : Request} {path : Path} {fault : Fault}
  (hargs : Request.read fs args = .ok r) (hpath : r.command.file? = some path)
  (hfault : fs.fault? host.interpreter path = some fault)

include hargs hpath hfault

/-- A command line shows the message on the fault of its file. -/
lemma reports_run (hconsole : host.console.Documented) (hreported : fault.isReported = true) :
    (run host fs args).Reports host.console fs fault := by
  have hreports : ((Run.start fs []).failed host.console fault).Reports host.console fs fault :=
    Run.reports_failed hconsole hreported
  rw [run, hargs]
  dsimp only
  rw [Request.run, Command.run_of_fault hpath hfault]
  exact { hreports with log := by rw [hreports.log]; rfl }

lemma crash_run (hreported : fault.isReported = false) :
    (run host fs args).crash = some (.fault fault) := by
  rw [run, hargs]
  dsimp only
  rw [Request.run, Command.run_of_fault hpath hfault, Run.failed, hreported]
  rfl

end CommandLine

/-! ### Tools -/

/-- The names of the tools that analyze a file. -/
def Tools.names : List String := ["pathseed_branches", "pathseed_stubs"]

/-- The file that a path means to a tool. -/
def Tools.fileAt (fs : Files) (path : String) : Path :=
  (⟨1, fs.current⟩ : Path).join (.ofString path)

/-- A tool answers with the fault of its file. -/
lemma Tools.callTool_of_fault {name path : String} {args : Arguments} {place : Place}
    {bytes : List Nat} {fault : Fault} (hname : name ∈ names) (hpath : args.path = some path)
    (hlook : fs.look (fileAt fs path) = .ok (some (place, .file bytes)))
    (hfault : fs.fault? interp (fileAt fs path) = some fault) :
    callTool interp fs name args = answerFault fault [] := by
  have hanswer : ∀ sel result, answer interp fs sel path result = answerFault fault [] := by
    intro sel result
    rw [fileAt] at hlook hfault
    rw [answer, hlook]
    dsimp only
    rw [(analyzeFile_eq_error_iff sel none).mpr hfault]
  rw [names, List.mem_pair] at hname
  rcases hname with rfl | rfl
  · rw [callTool, if_pos rfl, hpath]
    exact hanswer _ _
  · rw [callTool, if_neg (by decide), if_pos rfl, hpath]
    exact hanswer _ _

/-! ### Isolation -/

end Branchwise
