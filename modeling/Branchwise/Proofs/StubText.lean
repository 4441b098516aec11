/-
The text of a test module, line by line.

* `made_stepComment`, `made_callText`: what the comments of a stub are made of.
* `ended`, `splitLines_ended`: lines, each ended by a line feed, are lines again.
* `Stub.OneLine`, `Stub.OneLine.textLines`: a stub of texts without line ends has its own lines.
* `toList_stubModule_eq`: a module is its header and its stubs, every line ended by a
  line feed.
-/
import Branchwise.Proofs.StubNames

namespace Branchwise

open Text

/-! ### Comments -/

lemma function_extractBranches (f : Function) : (extractBranches f).accumulator.function = f := by
  rw [extractBranches_accumulator, Accumulator.function_feed]
  rfl

/-- Every step of a branch is an event of the stream of its outcome. -/
lemma exists_mem_stream {f : Function} {b : Branch} {s : Statement}
    (hb : b ∈ (extractBranches f).accumulator.branches) (hs : s ∈ b.steps) :
    ∃ o, s ∈ streamOf o .success f.body := by
  have hrows : ∀ o, ((extractBranches f).accumulator.collection o).rows.flatten =
      streamOf o .success f.body := by
    intro o
    rw [extractBranches_accumulator, Accumulator.collection_feed, Collection.flatten_rows_feed]
    cases o <;> rfl
  rw [Accumulator.branches, List.mem_filter, List.mem_append] at hb
  rcases hb.1 with hb | hb
  · obtain ⟨row, hrow, rfl⟩ := List.mem_map.mp hb
    exact ⟨.success, hrows .success ▸ List.mem_flatten.mpr ⟨row, hrow, hs⟩⟩
  · obtain ⟨row, hrow, rfl⟩ := List.mem_map.mp hb
    exact ⟨.failure, hrows .failure ▸ List.mem_flatten.mpr ⟨row, hrow, hs⟩⟩

/-- The steps of the branches of a sound function show their texts. -/
lemma shows_of_mem_steps {f : Function} (hf : f.Sound) {b : Branch}
    (hb : b ∈ (extractBranches f).accumulator.branches) :
    ∀ s ∈ b.steps, s.Shows ∧ s.shapesPath = true := by
  intro s hs
  obtain ⟨o, hs⟩ := exists_mem_stream hb hs
  rw [streamOf_eq_flatMap] at hs
  obtain ⟨t, ht, hs⟩ := List.mem_flatMap.mp hs
  exact ⟨hf.body t ht o _ s hs, (mem_stream hs).1⟩

/-- The texts of a statement that shapes branches. -/
def Statement.texts : Statement → List String
  | conditional test _ _ _ _ => [test]
  | guarded _ _ types _ _ => types
  | ret value _ _ => value.toList
  | throw exc _ _ => exc.toList
  | other _ _ => []

lemma Statement.Shows.texts {s : Statement} (h : s.Shows) : ∀ t ∈ s.texts, Shown t.toList := by
  cases s with
  | conditional test body orelse line label => simpa [Statement.texts] using h.1
  | guarded body handlers types line label => exact h.1
  | ret value line label => simpa [Statement.texts] using h.1
  | throw exc line label => simpa [Statement.texts] using h.1
  | other label line => simp [Statement.texts]

/-- What stands before the last separator is a part of the text. -/
lemma eq_of_splitLast {sep : Char} {cs before after : List Char}
    (h : splitLast sep cs = some (before, after)) : cs = before ++ sep :: after := by
  induction cs generalizing before with
  | nil => cases h
  | cons c cs ih =>
      rw [splitLast] at h
      split at h
      · next b a heq =>
        cases h
        rw [ih heq, List.cons_append]
      · split at h
        · next hc =>
          cases h
          rw [hc, List.nil_append]
        · cases h

lemma made_ownerOf {P : Char → Prop} {name : String} (h : Made P name.toList) :
    Made P (ownerOf name).toList := by
  rw [ownerOf]
  split
  · next owner rest heq =>
    rw [eq_of_splitLast heq, made_append] at h
    rw [String.toList_ofList]
    exact h.1
  · exact h

section Made

variable {P : Char → Prop} (hP : Admits P)

include hP

lemma made_exceptionName {exc : Option String} (h : ∀ t ∈ exc, Made P t.toList) :
    Made P (exceptionName exc).toList := by
  have hdefault : Unbroken "Exception".toList := by decide
  rw [exceptionName]
  split
  · next c cs heq =>
    obtain ⟨text, htext, hcs⟩ := Option.map_eq_some_iff.mp heq
    have hmade := hcs ▸ h text htext
    rw [made_cons] at hmade
    split
    · rw [String.toList_ofList, made_cons]
      exact ⟨hmade.1, hmade.2.sublist (List.takeWhile_sublist _)⟩
    · exact hP.text hdefault
  · exact hP.text hdefault

/-- The comment of a step is made of its texts and of words without line ends. -/
lemma made_stepComment {o : Outcome} {s : Statement} (h : ∀ t ∈ s.texts, Made P t.toList)
    {c : String} (hc : stepComment o s = some c) : Made P c.toList := by
  cases s with
  | conditional test body orelse line label =>
      have htest : Made P test.toList := h test (by simp [Statement.texts])
      cases o with
      | success =>
          cases hc
          exact htest
      | failure =>
          cases hc
          simp only [String.toList_append, made_append]
          exact ⟨⟨hP.text (by decide), htest⟩, hP.text (by decide)⟩
  | guarded body handlers types line label =>
      cases o with
      | success =>
          cases hc
          exact hP.text (by decide : Unbroken "try".toList)
      | failure =>
          cases hc
          change Made P
            (if types.isEmpty then "except" else "except " ++ joinWith ", " types).toList
          split
          · exact hP.text (by decide)
          · rw [String.toList_append, made_append, joinWith, String.toList_intercalate]
            refine ⟨hP.text (by decide), made_intercalate (hP.text (by decide)) ?_⟩
            exact List.forall_mem_map.mpr h
  | ret value line label =>
      cases value with
      | none =>
          cases hc
          exact hP.text (by decide : Unbroken "assert result is None".toList)
      | some value =>
          cases hc
          rw [String.toList_append, made_append]
          exact ⟨hP.text (by decide), h value (by simp [Statement.texts])⟩
  | throw exc line label =>
      cases hc
      have hexc : ∀ t ∈ exc, Made P t.toList := fun t ht => h t (Option.mem_toList.mpr ht)
      simp only [String.toList_append, made_append]
      exact ⟨⟨hP.text (by decide), made_exceptionName hP hexc⟩, hP.text (by decide)⟩
  | other label line => cases hc

/-- A call is made of the names and parameters of its function. -/
lemma made_callText {f : Function} (hname : Made P f.name.toList)
    (hqualified : Made P f.qualifiedName.toList)
    (hparameters : ∀ p ∈ f.parameters, Made P p.toList) : Made P (callText f).toList := by
  have htarget : Made P
      (if f.isMethod then ownerOf f.qualifiedName ++ "(...)." ++ f.name else f.name).toList := by
    split
    · simp only [String.toList_append, made_append]
      exact ⟨⟨made_ownerOf hqualified, hP.text (by decide)⟩, hname⟩
    · exact hname
  have hparams : Made P (joinWith ", " f.parameters).toList := by
    rw [joinWith, String.toList_intercalate]
    exact made_intercalate (hP.text (by decide)) (List.forall_mem_map.mpr hparameters)
  rw [callText]
  generalize (if f.isMethod then ownerOf f.qualifiedName ++ "(...)." ++ f.name else f.name)
    = target at htarget ⊢
  have hcall : Made P (target ++ "(" ++ joinWith ", " f.parameters ++ ")").toList := by
    simp only [String.toList_append, made_append]
    exact ⟨⟨⟨htarget, hP.text (by decide)⟩, hparams⟩, hP.text (by decide)⟩
  split
  · rw [String.toList_append, made_append]
    exact ⟨hP.text (by decide), hcall⟩
  · exact hcall

end Made

lemma Function.Sound.unbroken_qualifiedName {f : Function} (h : f.Sound) :
    Unbroken f.qualifiedName.toList := by
  rcases h.qualified with ⟨-, hq⟩ | ⟨-, owner, howner, hq⟩
  · rw [hq]
    exact h.name.unbroken
  · rw [hq]
    simp only [String.toList_append, unbroken_append]
    exact ⟨⟨howner.unbroken, by decide⟩, h.name.unbroken⟩

lemma unbroken_callText {f : Function} (h : f.Sound) : Unbroken (callText f).toList :=
  made_callText (fun _ hnul hbreak => ⟨hnul, hbreak⟩) h.name.unbroken h.unbroken_qualifiedName
    h.parameters

/-- The stub has a name of its own kind, an unbroken call, and comments that are
shown. -/
structure Stub.Sound (s : Stub) : Prop where
  name : IsStubName s.name.toList
  call : Unbroken s.call.toList
  comments : ∀ c ∈ s.comments, Shown c.toList

/-- The branches of functions, as the results of an analysis. -/
def resultsOf (fs : List Function) : List Accumulator :=
  fs.map fun f => (extractBranches f).accumulator

/-- **The stubs of sound functions are sound.** -/
lemma sound_of_mem_allStubs {fs : List Function} (h : ∀ f ∈ fs, f.Sound) {used : List String}
    {s : Stub} (hs : s ∈ (allStubs used (resultsOf fs)).1) : s.Sound := by
  obtain ⟨a, ha, plan, hplan, hfollows⟩ := exists_follows hs
  obtain ⟨f, hf, rfl⟩ := List.mem_map.mp ha
  rw [function_extractBranches] at hfollows
  have hsound := h f hf
  -- the wished-for name and the comments of the plan
  have hplan : IsStubName plan.1.toList ∧ ∀ c ∈ plan.2, Shown c.toList := by
    rw [stubPlans, function_extractBranches] at hplan
    split at hplan
    · rw [List.mem_singleton] at hplan
      subst hplan
      exact ⟨isStubName_baseName hsound, by simp⟩
    · obtain ⟨b, hb, rfl⟩ := List.mem_map.mp hplan
      have hsteps := shows_of_mem_steps hsound hb
      refine ⟨isStubName_branchName hsound hsteps, fun c hc => ?_⟩
      obtain ⟨step, hstep, hc⟩ := List.mem_filterMap.mp hc
      exact made_stepComment admits_isShown (hsteps step hstep).1.texts hc
  refine ⟨?_, hfollows.call ▸ unbroken_callText hsound, hfollows.comments ▸ hplan.2⟩
  rcases hfollows.name with hname | ⟨n, hname⟩
  · rw [hname]
    exact hplan.1
  · rw [hname]
    exact isStubName_numbered hplan.1 n

lemma topOf_of_isName {name : String} (h : Source.IsName name) : topOf name = name := by
  have htake : (name.toList ++ []).takeWhile (· != '.') = name.toList ++ [] :=
    List.takeWhile_append_of_pos fun c hc => bne_iff_ne.mpr (h.ne_dot c hc)
  rw [List.append_nil] at htake
  rw [topOf, htake, String.ofList_toList]

lemma topOf_dotted {owner : String} (h : Source.IsName owner) (name : String) :
    topOf (owner ++ "." ++ name) = owner := by
  rw [topOf, String.toList_append, String.toList_append, List.append_assoc,
    List.takeWhile_append_of_pos fun c hc => bne_iff_ne.mpr (h.ne_dot c hc)]
  simp

/-- The names to import are names. -/
lemma isName_topOf {f : Function} (h : f.Sound) : Source.IsName (topOf f.qualifiedName) := by
  rcases h.qualified with ⟨-, hq⟩ | ⟨-, owner, howner, hq⟩
  · rw [hq, topOf_of_isName h.name]
    exact h.name
  · rw [hq, topOf_dotted howner]
    exact howner

/-! ### Lines -/

lemma splitLinesFrom_cons {c : Char} (h : isLineBreak c = false) (line rest : List Char) :
    splitLinesFrom line (c :: rest) = splitLinesFrom (c :: line) rest := by
  rw [splitLinesFrom.eq_def]
  split
  · next heq => cases heq
  · next heq =>
    cases heq
    simp [isLineBreak] at h
  · next heq =>
    cases heq
    rw [h, if_neg Bool.false_ne_true]

lemma splitLinesFrom_append {text : List Char} (h : OneLine text) (line rest : List Char) :
    splitLinesFrom line (text ++ rest) = splitLinesFrom (text.reverse ++ line) rest := by
  induction text generalizing line with
  | nil => rfl
  | cons c cs ih =>
      obtain ⟨hc, hcs⟩ := List.forall_mem_cons.mp h
      rw [List.cons_append, splitLinesFrom_cons hc, ih hcs, List.reverse_cons, List.append_assoc]
      rfl

/-- Lines, each ended by a line feed. -/
def ended (lines : List String) : List Char :=
  lines.flatMap fun l => l.toList ++ ['\n']

lemma ended_append (a b : List String) : ended (a ++ b) = ended a ++ ended b :=
  List.flatMap_append

lemma ended_cons (l : String) (ls : List String) :
    ended (l :: ls) = l.toList ++ '\n' :: ended ls := by
  simp [ended]

/-- Lines joined by line feeds are ended but for the last. -/
lemma toList_joinWith_concat (lines : List String) (last : String) :
    (joinWith "\n" (lines ++ [last])).toList = ended lines ++ last.toList := by
  rw [joinWith, String.toList_intercalate, List.map_append]
  induction lines with
  | nil => simp [ended]
  | cons l lines ih =>
      obtain ⟨w, ws, hws⟩ : ∃ w ws, lines.map String.toList ++ [last].map String.toList = w :: ws :=
        List.exists_cons_of_ne_nil (by simp)
      rw [List.map_cons, List.cons_append, hws, List.intercalate_cons_cons, ← hws, ih, ended_cons]
      simp

lemma splitLinesFrom_last {last : List Char} (h : OneLine last) (hne : last ≠ [])
    (line : List Char) : splitLinesFrom line last = [line.reverse ++ last] := by
  have := splitLinesFrom_append h line []
  rw [List.append_nil] at this
  rw [this, splitLinesFrom]
  simp [hne]

lemma splitLinesFrom_feed (line rest : List Char) :
    splitLinesFrom line ('\n' :: rest) = line.reverse :: splitLinesFrom [] rest := rfl

/-- Lines without line breaks in them, ended by line feeds, are lines again. -/
lemma splitLines_ended {lines : List String} (h : ∀ l ∈ lines, OneLine l.toList)
    (rest : List Char) :
    splitLines (ended lines ++ rest) = lines.map String.toList ++ splitLines rest := by
  induction lines with
  | nil => rfl
  | cons l lines ih =>
      obtain ⟨hl, hlines⟩ := List.forall_mem_cons.mp h
      rw [ended_cons, List.append_assoc, List.cons_append, splitLines, splitLinesFrom_append hl,
        splitLinesFrom_feed, ← splitLines, ih hlines]
      simp

/-- A line end that is not the first half of another one. -/
lemma splitLinesFrom_break {c : Char} (h : isLineBreak c = true) (line : List Char)
    {rest : List Char} (hpair : ∀ tail, c = '\r' → rest ≠ '\n' :: tail) :
    splitLinesFrom line (c :: rest) = line.reverse :: splitLinesFrom [] rest := by
  rw [splitLinesFrom.eq_def]
  split
  · next heq => cases heq
  · next heq =>
    cases heq
    exact absurd rfl (hpair _ rfl)
  · next heq =>
    cases heq
    rw [h, if_pos rfl]

/-- A text that ends in something else than a line end has it at the end of its last line. -/
lemma exists_splitLinesFrom_concat {c : Char} (h : isLineBreak c = false) (line text : List Char) :
    ∃ lines last, splitLinesFrom line (text ++ [c]) = lines ++ [last ++ [c]] := by
  fun_induction splitLinesFrom line text with
  | case1 line | case2 line =>
      refine ⟨[], line.reverse, ?_⟩
      rw [List.nil_append, splitLinesFrom_cons h, splitLinesFrom]
      simp
  | case3 line rest ih =>
      obtain ⟨lines, last, hlast⟩ := ih
      exact ⟨line.reverse :: lines, last, by simp [splitLinesFrom, hlast]⟩
  | case4 line d rest hpair hbreak ih =>
      obtain ⟨lines, last, hlast⟩ := ih
      refine ⟨line.reverse :: lines, last, ?_⟩
      rw [List.cons_append, splitLinesFrom_break hbreak, hlast, List.cons_append]
      rintro tail rfl heq
      cases rest with
      | nil =>
          obtain ⟨rfl, -⟩ := List.cons.inj heq
          cases h
      | cons e rest =>
          obtain ⟨rfl, -⟩ := List.cons.inj heq
          exact hpair _ rfl rfl
  | case5 line d rest _ hbreak ih =>
      rw [List.cons_append, splitLinesFrom_cons (by simpa using hbreak)]
      exact ih

/-- No line of a text holds what ends lines. -/
lemma oneLine_of_mem_splitLinesFrom {line text l : List Char} (hline : OneLine line)
    (h : l ∈ splitLinesFrom line text) : OneLine l := by
  have hreverse : OneLine line.reverse := fun c hc => hline c (List.mem_reverse.mp hc)
  fun_induction splitLinesFrom line text with
  | case1 line => cases h
  | case2 line => exact List.mem_singleton.mp h ▸ hreverse
  | case3 line rest ih | case4 line d rest _ _ ih =>
      rcases List.mem_cons.mp h with rfl | h
      · exact hreverse
      · exact ih made_nil h made_nil
  | case5 line d rest _ hbreak ih =>
      have hmore : OneLine (d :: line) := made_cons.mpr ⟨by simpa using hbreak, hline⟩
      exact ih hmore h fun c hc => hmore c (List.mem_reverse.mp hc)

lemma trimEnd_concat {c : Char} (h : isSpace c = false) (text : List Char) :
    trimEnd (text ++ [c, '\n']) = text ++ [c] := by
  have hfeed : isSpace '\n' = true := by decide
  simp [trimEnd, hfeed, h]

/-! ### Stubs -/

/-- The texts of the stub hold no line breaks. -/
structure Stub.Unbroken (s : Stub) : Prop where
  name : Branchwise.Unbroken s.name.toList
  call : Branchwise.Unbroken s.call.toList
  comments : ∀ c ∈ s.comments, Branchwise.Unbroken c.toList

/-- The texts of the stub hold nothing that ends a line. -/
structure Stub.OneLine (s : Stub) : Prop where
  name : Branchwise.OneLine s.name.toList
  call : Branchwise.OneLine s.call.toList
  comments : ∀ c ∈ s.comments, Branchwise.OneLine c.toList

lemma Stub.Unbroken.oneLine {s : Stub} (h : s.Unbroken) : s.OneLine :=
  ⟨h.name.oneLine, h.call.oneLine, fun c hc => (h.comments c hc).oneLine⟩

/-- The last line of every stub. -/
def skipLine : String := indent ++ "pytest.skip(\"not implemented\")"

/-- The lines of a stub in front of the last. -/
def Stub.front (s : Stub) : List String :=
  (if s.isAsync then ["@pytest.mark.asyncio", "async def " ++ s.name ++ "():"]
    else ["def " ++ s.name ++ "():"])
  ++ [indent ++ "# result = " ++ s.call]
  ++ s.comments.map (fun c => indent ++ "# " ++ c)

lemma Stub.lines_eq (s : Stub) : s.lines = s.front ++ [skipLine] := rfl

/-- The lines of a stub are made of its texts and of words without line ends. -/
lemma Stub.made_front {P : Char → Prop} (hP : Admits P) {s : Stub} (hname : Made P s.name.toList)
    (hcall : Made P s.call.toList) (hcomments : ∀ c ∈ s.comments, Made P c.toList) :
    ∀ l ∈ s.front, Made P l.toList := by
  have hdef : ∀ lead : String, Branchwise.Unbroken lead.toList →
      Made P (lead ++ s.name ++ "():").toList := by
    intro lead hlead
    simp only [String.toList_append, made_append]
    exact ⟨⟨hP.text hlead, hname⟩, hP.text (by decide)⟩
  rw [Stub.front, List.forall_mem_append, List.forall_mem_append]
  refine ⟨⟨?_, ?_⟩, ?_⟩
  · split
    · rw [List.forall_mem_cons, List.forall_mem_singleton]
      exact ⟨hP.text (by decide), hdef _ (by decide)⟩
    · rw [List.forall_mem_singleton]
      exact hdef _ (by decide)
  · rw [List.forall_mem_singleton]
    simp only [String.toList_append, made_append]
    exact ⟨⟨hP.text (by decide), hP.text (by decide)⟩, hcall⟩
  · refine List.forall_mem_map.mpr fun c hc => ?_
    simp only [String.toList_append, made_append]
    exact ⟨⟨hP.text (by decide), hP.text (by decide)⟩, hcomments c hc⟩

lemma Stub.Unbroken.front {s : Stub} (h : s.Unbroken) :
    ∀ l ∈ s.front, Branchwise.Unbroken l.toList :=
  Stub.made_front (fun _ hnul hbreak => ⟨hnul, hbreak⟩) h.name h.call h.comments

lemma Stub.OneLine.front {s : Stub} (h : s.OneLine) :
    ∀ l ∈ s.front, Branchwise.OneLine l.toList :=
  Stub.made_front admits_oneLine h.name h.call h.comments

lemma Stub.toList_text (s : Stub) : s.text.toList = ended s.front ++ skipLine.toList := by
  rw [Stub.text, Stub.lines_eq, toList_joinWith_concat]

/-- The lines of the text of a stub. -/
def Stub.textLines (s : Stub) : List String :=
  (splitLines s.text.toList).map String.ofList

lemma Stub.oneLine_of_mem_textLines {s : Stub} {l : String} (h : l ∈ s.textLines) :
    Branchwise.OneLine l.toList := by
  obtain ⟨line, hline, rfl⟩ := List.mem_map.mp h
  rw [String.toList_ofList]
  exact oneLine_of_mem_splitLinesFrom made_nil hline

/-- A stub of texts without line ends has its own lines. -/
lemma Stub.OneLine.textLines {s : Stub} (h : s.OneLine) : s.textLines = s.lines := by
  have hskip : splitLines skipLine.toList = [skipLine.toList] :=
    splitLinesFrom_last (by decide) (by decide) []
  rw [Stub.textLines, Stub.toList_text, splitLines_ended h.front, hskip, Stub.lines_eq,
    List.map_append, List.map_map]
  simp

/-- Whatever its texts hold, the text of a stub ends with its last line. -/
lemma Stub.exists_textLines_eq (s : Stub) :
    ∃ lines last, s.textLines = lines ++ [String.ofList (last ++ [')'])] := by
  have hskip : skipLine.toList = skipLine.toList.dropLast ++ [')'] := by decide
  obtain ⟨lines, last, hlines⟩ := exists_splitLinesFrom_concat (c := ')') (by decide) []
    (ended s.front ++ skipLine.toList.dropLast)
  refine ⟨lines.map String.ofList, last, ?_⟩
  rw [Stub.textLines, Stub.toList_text, hskip, ← List.append_assoc, splitLines, hlines]
  simp

/-! ### Modules -/

/-- The lines above the stubs, without the empty one that ends them. -/
def headLines (a : Analysis) (module : String) : List String :=
  ["\"\"\"Test stubs for " ++ (if module = "" then a.file.name else module) ++ ".\"\"\"", "",
    "import pytest"]
  ++ (if isImportable module && !(importNames a).isEmpty then
      ["", "from " ++ module ++ " import " ++ joinWith ", " (importNames a)]
    else [])

lemma headerLines_eq (a : Analysis) (module : String) :
    headerLines a module = headLines a module ++ [""] := by
  rw [headerLines, headLines]
  cases isImportable module && !(importNames a).isEmpty
  · rfl
  · rfl

/-- The lines of stubs, each behind two empty ones. -/
def bodyLines (ss : List Stub) : List String :=
  ss.flatMap fun s => "" :: "" :: s.lines

/-- The lines of the texts of stubs, each behind two empty ones. -/
def bodyTextLines (ss : List Stub) : List String :=
  ss.flatMap fun s => "" :: "" :: s.textLines

lemma bodyTextLines_eq {ss : List Stub} (h : ∀ s ∈ ss, s.OneLine) :
    bodyTextLines ss = bodyLines ss :=
  List.flatMap_congr fun s hs => by rw [(h s hs).textLines]

/-- The empty line behind a stub can be counted to the next one. -/
lemma cons_flatMap_block (ss : List Stub) :
    "" :: ss.flatMap Stub.block = bodyTextLines ss ++ [""] := by
  induction ss with
  | nil => rfl
  | cons s ss ih =>
      have hblock : s.block = "" :: (s.textLines ++ [""]) := rfl
      rw [List.flatMap_cons, hblock, bodyTextLines, List.flatMap_cons, List.append_assoc,
        ← bodyTextLines, ← ih]
      simp

/-- A function that has a stub is tested. -/
lemma allStubs_ne_nil {used : List String} {as : List Accumulator} (h : as ≠ []) :
    (allStubs used as).1 ≠ [] := by
  obtain ⟨a, as, rfl⟩ := List.exists_cons_of_ne_nil h
  have hlength : 0 < (stubs used a).1.length := by
    rw [stubs, length_nameStubs, length_stubPlans]
    omega
  rw [allStubs_cons]
  intro hnil
  rw [List.append_eq_nil_iff] at hnil
  rw [hnil.1] at hlength
  simp at hlength

lemma ended_concat {l : String} {text : List Char} {c : Char} (h : l.toList = text ++ [c])
    (lines : List String) : ended (lines ++ [l]) = (ended lines ++ text) ++ [c, '\n'] := by
  rw [ended_append, ended_cons, h]
  simp [ended]

/-- The last line of a module is never blank: it ends the last stub, or imports. -/
lemma exists_ended_eq_concat (a : Analysis) (module : String) :
    ∃ text c, isSpace c = false ∧
      ended (headLines a module ++ bodyTextLines (allStubs [] a.results).1) =
        text ++ [c, '\n'] := by
  rcases List.eq_nil_or_concat (allStubs [] a.results).1 with hnil | ⟨ss, s, hss⟩
  · have hresults : a.results = [] := by
      by_contra hne
      exact allStubs_ne_nil hne hnil
    have hnames : importNames a = [] := by
      rw [importNames, hresults]
      rfl
    have himport : "import pytest".toList = "import pytes".toList ++ ['t'] := by decide
    rw [hnil, headLines, hnames]
    simp only [List.isEmpty_nil, Bool.not_true, Bool.and_false, if_neg Bool.false_ne_true,
      bodyTextLines, List.flatMap_nil, List.append_nil]
    exact ⟨_, 't', by decide, ended_concat himport [_, ""]⟩
  · obtain ⟨lines, last, hlines⟩ := s.exists_textLines_eq
    have hbody : headLines a module ++ bodyTextLines (ss ++ [s]) =
        headLines a module ++ bodyTextLines ss ++ "" :: "" :: lines
          ++ [String.ofList (last ++ [')'])] := by
      simp [bodyTextLines, hlines]
    rw [hss, List.concat_eq_append, hbody]
    exact ⟨_, ')', by decide, ended_concat (String.toList_ofList) _⟩

/-- **A module is its header and the texts of its stubs, every line ended by a line feed.** -/
lemma toList_stubModule_eq (a : Analysis) (module : String) :
    (stubModule a module).toList =
      ended (headLines a module ++ bodyTextLines (allStubs [] a.results).1) := by
  obtain ⟨text, c, hc, htext⟩ := exists_ended_eq_concat a module
  have hlines : headerLines a module ++ (allStubs [] a.results).1.flatMap Stub.block =
      headLines a module ++ bodyTextLines (allStubs [] a.results).1 ++ [""] := by
    rw [headerLines_eq, List.append_assoc, List.singleton_append, cons_flatMap_block,
      List.append_assoc]
  rw [stubModule, hlines, String.toList_append, String.toList_ofList, toList_joinWith_concat,
    String.toList_empty, List.append_nil, htext, trimEnd_concat hc]
  simp

/-- A module ends with one line feed, behind something that is not blank. -/
lemma exists_toList_stubModule_eq (a : Analysis) (module : String) :
    ∃ text c, isSpace c = false ∧ (stubModule a module).toList = text ++ [c, '\n'] := by
  rw [toList_stubModule_eq]
  exact exists_ended_eq_concat a module

/-- Stubs of texts without line ends stand in a module with their own lines. -/
lemma toList_stubModule {a : Analysis} (h : ∀ s ∈ (allStubs [] a.results).1, s.OneLine)
    (module : String) :
    (stubModule a module).toList =
      ended (headLines a module ++ bodyLines (allStubs [] a.results).1) := by
  rw [toList_stubModule_eq, bodyTextLines_eq h]

end Branchwise
