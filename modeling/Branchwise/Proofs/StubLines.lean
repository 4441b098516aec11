/-
The lines of test stubs: whether source text stays behind its comment sign.

A stub shows expressions of the source text behind a comment sign. The text of an expression
holds nothing that ends a line, unless a formatted text in it has a replacement field with a
line feed in a text or in a format; then what follows the line feed stands on a line of its
own.

* `LaidOut`: the lines that a test is meant to have.
* `Stub.Sound.laidOut_iff`: a sound stub has them if and only if its comments have one line each.
* `stubSteps`, `forall₂_stubs`: the steps that each stub is for, one comment for each step.
* `exists_breaksField`: a line feed in a comment comes from a replacement field.
* `stubs_laidOut_iff`: **the lines of every stub of every source text.**
-/
import Mathlib.Algebra.Order.BigOperators.Group.List
import Mathlib.Algebra.Order.Group.Nat
import Branchwise.Proofs.StubModules

namespace Branchwise

open Text

open Source (Selection)

/-! ### Lines -/

/-- A text whose line ends are line feeds has one line more than it has line feeds, if its
last line is not empty. -/
lemma length_splitLinesFrom {text last : List Char} (h : Shown text) (hlast : Unbroken last)
    (hne : last ≠ []) (line : List Char) :
    (splitLinesFrom line (text ++ last)).length = text.count '\n' + 1 := by
  induction text generalizing line with
  | nil =>
      rw [List.nil_append, splitLinesFrom_last hlast.oneLine hne]
      rfl
  | cons c text ih =>
      obtain ⟨hc, htext⟩ := shown_cons.mp h
      by_cases hfeed : c = '\n'
      · subst hfeed
        rw [List.cons_append, splitLinesFrom_feed, List.length_cons, ih htext,
          List.count_cons_self]
      · have hbreak : isLineBreak c = false := by
          by_contra hbreak
          exact hfeed (hc.2 (by simpa using hbreak))
        rw [List.cons_append, splitLinesFrom_cons hbreak, ih htext, List.count_cons_of_ne hfeed]

lemma count_ended (lines : List String) :
    (ended lines).count '\n' = lines.length + (lines.map fun l => l.toList.count '\n').sum := by
  induction lines with
  | nil => rfl
  | cons l lines ih =>
      rw [ended_cons, List.count_append, List.count_cons_self, ih, List.length_cons, List.map_cons,
        List.sum_cons]
      omega

lemma Stub.Sound.shown_front {s : Stub} (h : s.Sound) : ∀ l ∈ s.front, Shown l.toList :=
  Stub.made_front admits_isShown (admits_isShown.text h.name.isName.unbroken)
    (admits_isShown.text h.call) h.comments

/-- Every line feed in a text of a stub adds to the lines that it should have. -/
lemma Stub.Sound.length_textLines {s : Stub} (h : s.Sound) :
    s.textLines.length = s.lines.length + (s.front.map fun l => l.toList.count '\n').sum := by
  have hended : Shown (ended s.front) := by
    intro c hc
    obtain ⟨l, hl, hc⟩ := List.mem_flatMap.mp hc
    rcases List.mem_append.mp hc with hc | hc
    · exact h.shown_front l hl c hc
    · rw [List.mem_singleton] at hc
      subst hc
      decide
  rw [Stub.textLines, List.length_map, Stub.toList_text, splitLines,
    length_splitLinesFrom hended (by decide) (by decide), count_ended, Stub.lines_eq,
    List.length_append, List.length_singleton]
  omega

/-! ### Layouts -/

/-- The line is a comment in a body. -/
def IsComment (line : String) : Prop :=
  (indent ++ "# ").toList <+: line.toList

instance (line : String) : Decidable (IsComment line) :=
  inferInstanceAs (Decidable ((indent ++ "# ").toList <+: line.toList))

/-- The lines of a test: the mark if it is asynchronous, the line that opens it, `n`
comments, and the line that skips it. -/
def LaidOut (isAsync : Bool) (name : String) (n : Nat) (lines : List String) : Prop :=
  ∃ comments : List String, comments.length = n ∧ (∀ c ∈ comments, IsComment c) ∧
    lines = (if isAsync then ["@pytest.mark.asyncio", "async def " ++ name ++ "():"]
      else ["def " ++ name ++ "():"]) ++ comments ++ ["    pytest.skip(\"not implemented\")"]

lemma isComment_append (text : String) : IsComment (indent ++ "# " ++ text) := by
  have happend : (indent ++ "# " ++ text).toList = (indent ++ "# ").toList ++ text.toList :=
    String.toList_append
  rw [IsComment, happend]
  exact List.prefix_append _ _

/-- **A sound stub is laid out as it should be if and only if no comment breaks.** -/
lemma Stub.Sound.laidOut_iff {s : Stub} (h : s.Sound) :
    LaidOut s.isAsync s.name (1 + s.comments.length) s.textLines ↔
      ∀ c ∈ s.comments, '\n' ∉ c.toList := by
  constructor
  · -- a comment that breaks makes one line too many
    rintro ⟨comments, hlength, -, hlines⟩ c hc hfeed
    have hcount := h.length_textLines
    have hmem : indent ++ "# " ++ c ∈ s.front :=
      List.mem_append_right _ (List.mem_map_of_mem hc)
    have hpos : 0 < (indent ++ "# " ++ c).toList.count '\n' := by
      rw [List.count_pos_iff, String.toList_append]
      exact List.mem_append_right _ hfeed
    have hle : (indent ++ "# " ++ c).toList.count '\n' ≤
        (s.front.map fun l => l.toList.count '\n').sum :=
      List.le_sum_of_mem (List.mem_map_of_mem hmem)
    rw [hlines, Stub.lines] at hcount
    simp only [List.length_append, List.length_cons, List.length_nil, List.length_map, hlength]
      at hcount
    omega
  · intro hcomments
    have hunbroken : s.Unbroken := ⟨h.name.isName.unbroken, h.call,
      fun c hc => (h.comments c hc).unbroken (hcomments c hc)⟩
    refine ⟨(indent ++ "# result = " ++ s.call) :: s.comments.map fun c => indent ++ "# " ++ c,
      ?_, ?_, ?_⟩
    · rw [List.length_cons, List.length_map, Nat.add_comm]
    · rw [List.forall_mem_cons, List.forall_mem_map]
      refine ⟨?_, fun c _ => isComment_append c⟩
      have hcall : indent ++ "# result = " ++ s.call =
          indent ++ "# " ++ ("result = " ++ s.call) := by
        simp only [← String.append_assoc]
        rfl
      rw [hcall]
      exact isComment_append _
    · rw [hunbroken.oneLine.textLines, Stub.lines]
      simp [indent]

/-! ### Steps -/

/-- The steps that each stub of a function is for: those of one of its branches, or none
if it has no branches. -/
def stubSteps (a : Accumulator) : List (List Statement) :=
  if a.branches.isEmpty then [[]] else a.branches.map Branch.steps

/-- The stub of the function has one comment for each of the steps. -/
structure Stub.IsFor (f : Function) (steps : List Statement) (s : Stub) : Prop where
  sound : s.Sound
  isAsync : s.isAsync = f.isAsync
  length : s.comments.length = steps.length
  comment : ∀ c ∈ s.comments, ∃ step ∈ steps, ∃ o, stepComment o step = some c

lemma isSome_stepComment (o : Outcome) {s : Statement} (h : s.shapesPath = true) :
    (stepComment o s).isSome = true := by
  cases s with
  | ret value line label => cases value <;> rfl
  | other label line => cases h
  | _ => rfl

/-- Every step of a branch has a comment. -/
lemma length_comments {f : Function} (hf : f.Sound) {b : Branch}
    (hb : b ∈ (extractBranches f).accumulator.branches) : b.comments.length = b.steps.length := by
  rw [Branch.comments, List.length_filterMap_eq_countP, List.countP_eq_length]
  exact fun s hs => isSome_stepComment _ (shows_of_mem_steps hf hb s hs).2

/-- **The stubs of a sound function are for its branches, one by one.** -/
lemma forall₂_stubs {f : Function} (hf : f.Sound) (used : List String) :
    List.Forall₂ (fun steps s => s.IsFor f steps) (stubSteps (extractBranches f).accumulator)
      (stubs used (extractBranches f).accumulator).1 := by
  have hsound : ∀ s ∈ (stubs used (extractBranches f).accumulator).1, s.Sound := by
    intro s hs
    have hmem : s ∈ (allStubs used (resultsOf [f])).1 := List.mem_append_left _ hs
    exact sound_of_mem_allStubs (by simpa using hf) hmem
  have hfollows : List.Forall₂ (fun plan s => s.Follows f plan)
      (stubPlans (extractBranches f).accumulator)
      (stubs used (extractBranches f).accumulator).1 := by
    rw [stubs, function_extractBranches]
    exact forall₂_nameStubs f used _
  rw [stubPlans] at hfollows
  rw [stubSteps]
  split at hfollows
  · next hempty =>
    obtain ⟨s, rest, hs, hnil, heq⟩ := List.forall₂_cons_left_iff.mp hfollows
    cases hnil
    rw [heq] at hsound
    rw [if_pos hempty, heq]
    refine .cons ⟨hsound s List.mem_cons_self, hs.isAsync, ?_, ?_⟩ .nil
    · rw [hs.comments]
      rfl
    · simp [hs.comments]
  · next hne =>
    rw [if_neg hne, List.forall₂_map_left_iff]
    rw [List.forall₂_map_left_iff] at hfollows
    -- along the two lists, since a stub is for a branch of the function
    rw [List.forall₂_iff_zip] at hfollows ⊢
    refine ⟨hfollows.1, fun {b s} hmem => ?_⟩
    obtain ⟨hb, hs⟩ := List.of_mem_zip hmem
    have hs' := hfollows.2 hmem
    refine ⟨hsound s hs, hs'.isAsync, ?_, fun c hc => ?_⟩
    · rw [hs'.comments]
      exact length_comments hf hb
    · rw [hs'.comments] at hc
      obtain ⟨step, hstep, hc⟩ := List.mem_filterMap.mp hc
      exact ⟨step, hstep, b.outcome, hc⟩

/-! ### Line feeds in comments -/

namespace Source

lemma Stmt.texts_tree (s : Stmt) : s.tree.texts = s.shownExprs.map Expr.shown := by
  cases s with
  | guard line grouped body handlers orelse final =>
      change handlers.filterMap Handler.type? = _
      rw [shownExprs, List.map_flatMap, List.filterMap_eq_flatMap_toList]
      refine List.flatMap_congr fun handler _ => ?_
      obtain ⟨type, body⟩ := handler
      exact Option.toList_map
  | ret line value => exact Option.toList_map
  | raise line exc cause => exact Option.toList_map
  | _ => rfl

/-- **A line feed in the comment of a step comes from a replacement field** of an expression
that the step shows. -/
lemma Stmt.exists_breaksField {s : Stmt} (hplain : ∀ e ∈ s.shownExprs, e.Plain) {o : Outcome}
    {c : String} (hc : stepComment o s.tree = some c) (hfeed : '\n' ∈ c.toList) :
    ∃ e ∈ s.shownExprs, e.BreaksField := by
  by_contra hnone
  have htexts : ∀ t ∈ s.tree.texts, Made (· ≠ '\n') t.toList := by
    rw [texts_tree, List.forall_mem_map]
    exact fun e he => (hplain e he).made_shown admits_ne_feed
      fun hbreaks => absurd ⟨e, he, hbreaks⟩ hnone
  exact made_stepComment admits_ne_feed htexts hc '\n' hfeed rfl

/-- The steps of the stubs of a function are trees of occurrences in its body. -/
lemma exists_occurrence {f : Branchwise.Function} {body : List Stmt} (hbody : f.body = trees body)
    {steps : List Statement} (hsteps : steps ∈ stubSteps (extractBranches f).accumulator)
    {step : Statement} (h : step ∈ steps) :
    ∃ x ∈ reachedIn .success body, x.stmt.tree = step := by
  rw [stubSteps] at hsteps
  split at hsteps
  · rw [List.mem_singleton] at hsteps
    subst hsteps
    cases h
  · obtain ⟨b, hb, rfl⟩ := List.mem_map.mp hsteps
    obtain ⟨o, hstream⟩ := exists_mem_stream hb h
    rw [hbody, (streamOf_trees_perm o .success body).mem_iff] at hstream
    obtain ⟨x, hx, rfl⟩ := List.mem_map.mp hstream
    exact ⟨x, (List.mem_filter.mp hx).1, rfl⟩

end Source

/-- What reading a text gives: every function that is reported has a definition, and is
sound. -/
lemma exists_definition_of_read {interp : Interpreter} {sel : Selection} {source : String}
    {file : Path} {module : Option String} {m : SourceModule}
    (hread : SourceModule.read interp sel source file module = .ok m) {f : Function}
    (hf : f ∈ m.functions) :
    f.Sound ∧ ∃ stmts owner line isAsync name params body,
      Source.readModule interp source = .ok stmts ∧
      (owner, Source.Stmt.function line isAsync name params body) ∈ Source.definitions stmts ∧
      (Source.Stmt.function line isAsync name params body).function? owner = some f := by
  rw [SourceModule.read] at hread
  split at hread
  · next stmts hstmts =>
    cases hread
    obtain ⟨owner, line, isAsync, name, params, body, hdef, hfun⟩ := Source.exists_definition hf
    exact ⟨sound_functions hstmts sel f hf, stmts, owner, line, isAsync, name, params, body, hstmts,
      hdef, hfun⟩
  all_goals cases hread

/-- **The lines of every stub of every source text.** A function has one stub for each of its
branches, or one if it has none. The stub has the mark line if the function is asynchronous,
the line that opens it, one comment and one for each step of its branch, and the line that
skips it, if and only if none of its comments holds a line feed. Where it has other lines, an
expression that a step of its branch shows has a replacement field with a line feed in it. -/
theorem stubs_laidOut_iff (interp : Interpreter) (sel : Selection) (source : String)
    (file : Path) (module : Option String) (m : SourceModule)
    (hread : SourceModule.read interp sel source file module = .ok m) (r : Accumulator)
    (hr : r ∈ m.analysis.results) (used : List String) :
    ∃ stmts owner line isAsync name params body,
      Source.readModule interp source = .ok stmts ∧
      (owner, Source.Stmt.function line isAsync name params body) ∈ Source.definitions stmts ∧
      (Source.Stmt.function line isAsync name params body).function? owner = some r.function ∧
      List.Forall₂ (fun steps s =>
          let laidOut := LaidOut r.function.isAsync s.name (1 + steps.length) s.textLines
          (laidOut ↔ ∀ c ∈ s.comments, '\n' ∉ c.toList) ∧
            (laidOut ∨ ∃ x ∈ Source.reachedIn .success body, x.stmt.tree ∈ steps ∧
              ∃ e ∈ x.stmt.shownExprs, e.BreaksField))
        (stubSteps r) (stubs used r).1 := by
  obtain ⟨f, hf, rfl⟩ := List.mem_map.mp hr
  obtain ⟨hsound, stmts, owner, line, isAsync, name, params, body, hstmts, hdef, hfun⟩ :=
    exists_definition_of_read hread hf
  obtain ⟨⟨-, -, hplain⟩, -⟩ := Source.defines_of_mem_definitions hstmts hdef
  rw [function_extractBranches]
  refine ⟨stmts, owner, line, isAsync, name, params, body, hstmts, hdef, hfun, ?_⟩
  have hbody : f.body = Source.trees body := by
    cases hfun
    rfl
  have hstubs := forall₂_stubs hsound used
  rw [List.forall₂_iff_zip] at hstubs ⊢
  refine ⟨hstubs.1, fun {steps s} hmem => ?_⟩
  have hs := hstubs.2 hmem
  have hiff := hs.sound.laidOut_iff
  rw [hs.isAsync, hs.length] at hiff
  refine ⟨hiff, ?_⟩
  rw [hiff, or_iff_not_imp_left]
  intro hbroken
  simp only [not_forall, not_not] at hbroken
  obtain ⟨c, hc, hfeed⟩ := hbroken
  obtain ⟨step, hstep, o, hcomment⟩ := hs.comment c hc
  obtain ⟨x, hx, rfl⟩ := Source.exists_occurrence hbody (List.of_mem_zip hmem).1 hstep
  refine ⟨x, hx, hstep, Source.Stmt.exists_breaksField (fun e he => ?_) hcomment hfeed⟩
  rw [Source.reachedIn_eq_flatMap] at hx
  obtain ⟨stmt, hstmt, hx⟩ := List.mem_flatMap.mp hx
  exact hplain stmt hstmt _ x hx e he

/-- Line feeds in texts of their own, and in the texts of a formatted text, break nothing. -/
theorem stubs_laidOut_iff_feeds :
    let source := "async def f(x):\n    if x == '\\n':\n        return f'a\\n\x7bx!r\x7d'\n" ++
      "    raise E\n"
    ∃ m, SourceModule.read .basic ⟨false, false⟩ source (Path.ofString "a.py") none = .ok m ∧
      ∃ r ∈ m.analysis.results,
        (stubSteps r).map List.length = [2, 1] ∧
        List.Forall₂ (fun steps s => LaidOut true s.name (1 + steps.length) s.textLines)
          (stubSteps r) (stubs ["test_f__raise"] r).1 := by
  intro source
  obtain ⟨m, hread, hone, hall⟩ := exists_read .basic ⟨false, false⟩ source (Path.ofString "a.py")
    (fun m => m.analysis.results.length = 1 ∧ ∀ r ∈ m.analysis.results,
      r.function.isAsync = true ∧ (stubSteps r).map List.length = [2, 1] ∧
        ∀ s ∈ (stubs ["test_f__raise"] r).1, ∀ c ∈ s.comments, '\n' ∉ c.toList)
    (by decide +kernel)
  obtain ⟨r, hr⟩ := List.exists_mem_of_length_pos (Nat.lt_of_lt_of_eq Nat.one_pos hone.symm)
  obtain ⟨hasync, hsteps, hcomments⟩ := hall r hr
  obtain ⟨_, _, _, _, _, _, _, -, -, -, hstubs⟩ := stubs_laidOut_iff .basic ⟨false, false⟩
    source (Path.ofString "a.py") none m hread r hr ["test_f__raise"]
  refine ⟨m, hread, r, hr, hsteps, ?_⟩
  rw [List.forall₂_iff_zip] at hstubs ⊢
  refine ⟨hstubs.1, fun {steps s} hmem => ?_⟩
  have hiff := (hstubs.2 hmem).1
  rw [hasync] at hiff
  exact hiff.mpr (hcomments s (List.of_mem_zip hmem).2)

/-- A line feed in the format of a replacement field breaks a comment, and the stub with it:
what follows the line feed stands on a line of its own, behind no comment sign. -/
theorem stub_of_format_not_laidOut :
    let source := "def f(x):\n    return f\"\x7bx:\\n\x7d\"\n"
    ∃ m, SourceModule.read .basic ⟨false, false⟩ source (Path.ofString "a.py") none = .ok m ∧
      ∃ r ∈ m.analysis.results, ∃ s ∈ (stubs [] r).1,
        s.textLines = ["def test_f__return():", "    # result = f(x)",
          "    # assert result == f\"\"\"\x7bx:", "\x7d\"\"\"",
          "    pytest.skip(\"not implemented\")"] ∧
        ∀ n, ¬ LaidOut false s.name n s.textLines := by
  intro source
  obtain ⟨m, hread, hlines⟩ := exists_read .basic ⟨false, false⟩ source (Path.ofString "a.py")
    (fun m => ∃ r ∈ m.analysis.results, ∃ s ∈ (stubs [] r).1,
      s.textLines = ["def test_f__return():", "    # result = f(x)",
        "    # assert result == f\"\"\"\x7bx:", "\x7d\"\"\"",
        "    pytest.skip(\"not implemented\")"])
    (by decide +kernel)
  obtain ⟨r, hr, s, hs, hlines⟩ := hlines
  refine ⟨m, hread, r, hr, s, hs, hlines, ?_⟩
  rintro n ⟨comments, -, hcomments, heq⟩
  have hmiddle : ["    # result = f(x)", "    # assert result == f\"\"\"\x7bx:", "\x7d\"\"\""] =
      comments := by
    simpa using congrArg (fun lines => lines.tail.dropLast) (hlines.symm.trans heq)
  exact absurd (hcomments "\x7d\"\"\"" (by simp [← hmiddle])) (by decide)

end Branchwise
