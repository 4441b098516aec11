/-
The layout of a test module.

* `oneLine_toLower`: lower case brings no line ends into a text.
* `Analysis.OneLine`: no text that a test module shows holds what ends a line.
* `Accumulator.tested`: what the stubs of a function are for, in order.
* `opensDefinition`: the lines that open a definition at the left margin.
* `stubModule_layout`: the header, then each stub as it is, behind two blank lines; the
  definitions are those of the stubs.
-/
import Branchwise.Proofs.Imports

namespace Branchwise

open Text

/-! ### Lower case -/

namespace Text

/-- What the members of the run are mapped to keeps clear of all that ends lines. -/
def Span.ClearOfBreaks (s : Span) : Prop :=
  ∀ i ∈ s.image, 32 ≤ i ∧ (i + (s.last - s.first) < 0x80 ∨ 0x9F < i) ∧
    (i + (s.last - s.first) < 0x2028 ∨ 0x2029 < i)

instance (s : Span) : Decidable s.ClearOfBreaks :=
  List.decidableBAll (fun i => 32 ≤ i ∧ (i + (s.last - s.first) < 0x80 ∨ 0x9F < i) ∧
    (i + (s.last - s.first) < 0x2028 ∨ 0x2029 < i)) s.image

lemma clearOfBreaks_ofRows {rows : List String} {spelling : List (List Char)}
    (h : Spelled rows spelling) (hclear : ∀ s ∈ spansOf spelling, s.ClearOfBreaks) :
    ∀ s ∈ (SpanTable.ofRows rows).spans.toList, s.ClearOfBreaks := by
  rwa [h.spans_ofRows]

set_option maxRecDepth 100000 in
lemma smallLetters_clearOfBreaks : ∀ s ∈ smallLetters.spans.toList, s.ClearOfBreaks := by
  unfold smallLetters
  refine clearOfBreaks_ofRows (by repeat constructor) ?_
  decide +kernel

lemma isLineBreak_ofNat {n : Nat} (h : 32 ≤ n) (h' : n < 0x80 ∨ 0x9F < n)
    (h'' : n < 0x2028 ∨ 0x2029 < n) : isLineBreak (Char.ofNat n) = false := by
  by_cases hvalid : n.isValidChar
  · have hn := toNat_ofNat hvalid
    exact (unbroken_of_toNat (by omega) (by omega) (by omega)).2
  · rw [Char.ofNat, dif_neg hvalid]
    rfl

lemma isLineBreak_toLower_ascii : ∀ n < 128,
    isLineBreak (Char.ofNat n) = false → isLineBreak (Char.ofNat n).toLower = false := by
  decide

end Text

lemma oneLine_lowerChar {c : Char} (h : isLineBreak c = false) : OneLine (lowerChar c) := by
  rw [lowerChar]
  split
  · next hascii =>
    have := isLineBreak_toLower_ascii c.toNat hascii
    rw [Char.ofNat_toNat] at this
    exact made_cons.mpr ⟨this h, made_nil⟩
  · split
    · decide
    · split
      · next image himage =>
        obtain ⟨s, hs, rfl⟩ := Option.map_eq_some_iff.mp himage
        obtain ⟨hmem, hhas⟩ := SpanTable.mem_of_find? hs
        have hlast : c.toNat - s.first ≤ s.last - s.first := by
          simp only [Span.has, Bool.and_eq_true, decide_eq_true_eq] at hhas
          omega
        intro d hd
        obtain ⟨n, hn, rfl⟩ := List.mem_map.mp hd
        obtain ⟨i, hi, rfl⟩ := List.mem_map.mp hn
        obtain ⟨hlow, hcontrol, hseparator⟩ := smallLetters_clearOfBreaks s hmem i hi
        exact isLineBreak_ofNat (by omega) (by omega) (by omega)
      · exact made_cons.mpr ⟨h, made_nil⟩

/-- Lower case brings no line ends into a text. -/
lemma oneLine_toLower {text : List Char} (h : OneLine text) : OneLine (toLower text) := by
  rw [toLower]
  generalize ([] : List Char) = earlier
  induction text generalizing earlier with
  | nil => exact made_nil
  | cons c cs ih =>
      obtain ⟨hc, hcs⟩ := made_cons.mp h
      rw [toLowerFrom]
      refine made_append.mpr ⟨?_, ih hcs _⟩
      split
      · rw [made_cons, and_iff_left made_nil]
        split
        · rfl
        · rfl
      · exact oneLine_lowerChar hc

/-! ### Texts without line ends -/

lemma oneLine_baseName {f : Function} (h : OneLine f.qualifiedName.toList) :
    OneLine (baseName f).toList := by
  rw [baseName, String.toList_append]
  refine made_append.mpr ⟨admits_oneLine.text (by decide), fun c hc => ?_⟩
  rw [String.toList_ofList] at hc
  obtain ⟨d, hd, rfl⟩ := List.mem_map.mp hc
  split
  · rfl
  · exact h d hd

lemma oneLine_branchName {f : Function} {b : Branch} (h : OneLine f.qualifiedName.toList)
    (hlabels : ∀ s ∈ b.steps, OneLine s.label.toList) : OneLine (branchName f b).toList := by
  have hjoined : OneLine (joinWith "_"
      (b.steps.map fun s => String.ofList (toLower s.label.toList))).toList := by
    rw [joinWith, String.toList_intercalate]
    refine made_intercalate (admits_oneLine.text (by decide)) ?_
    rw [List.forall_mem_map, List.forall_mem_map]
    intro s hs
    rw [String.toList_ofList]
    exact oneLine_toLower (hlabels s hs)
  rw [branchName]
  simp only [String.toList_append, OneLine, made_append]
  refine ⟨⟨⟨oneLine_baseName h, admits_oneLine.text (by decide)⟩, hjoined⟩, ?_⟩
  cases b.outcome with
  | success => exact admits_oneLine.text (by decide : Unbroken "".toList)
  | failure => exact admits_oneLine.text (by decide : Unbroken "__failure".toList)

lemma oneLine_numbered {name : String} (h : OneLine name.toList) (n : Nat) :
    OneLine (numbered name n).toList := by
  rw [toList_numbered]
  refine made_append.mpr ⟨h, made_cons.mpr ⟨rfl, fun c hc => ?_⟩⟩
  have hdigit := Nat.isDigit_of_mem_toDigits (by omega) (by omega) hc
  simp only [Char.isDigit, Bool.and_eq_true, decide_eq_true_eq, ge_iff_le, UInt32.le_iff_toNat_le]
    at hdigit
  have hlow : 48 ≤ c.toNat := hdigit.1
  have hhigh : c.toNat ≤ 57 := hdigit.2
  exact (unbroken_of_ascii (by omega) (by omega)).2

/-- No text that a test module shows holds what ends a line: no name of a file, a module or a
function, no parameter, and no label or text of a step. -/
structure Analysis.OneLine (a : Analysis) (module : String) : Prop where
  file : Branchwise.OneLine a.file.name.toList
  module : Branchwise.OneLine module.toList
  name : ∀ r ∈ a.results, Branchwise.OneLine r.function.name.toList
  qualifiedName : ∀ r ∈ a.results, Branchwise.OneLine r.function.qualifiedName.toList
  parameters : ∀ r ∈ a.results, ∀ p ∈ r.function.parameters, Branchwise.OneLine p.toList
  steps : ∀ r ∈ a.results, ∀ b ∈ r.branches, ∀ s ∈ b.steps,
    Branchwise.OneLine s.label.toList ∧ ∀ t ∈ s.texts, Branchwise.OneLine t.toList

namespace Analysis.OneLine

variable {a : Analysis} {module : String} (h : a.OneLine module)
include h

/-- Nor do the plans for the stubs. -/
lemma stubPlans {r : Accumulator} (hr : r ∈ a.results) {plan : String × List String}
    (hplan : plan ∈ stubPlans r) :
    Branchwise.OneLine plan.1.toList ∧ ∀ c ∈ plan.2, Branchwise.OneLine c.toList := by
  rw [Branchwise.stubPlans] at hplan
  split at hplan
  · rw [List.mem_singleton] at hplan
    subst hplan
    exact ⟨oneLine_baseName (h.qualifiedName r hr), by simp⟩
  · obtain ⟨b, hb, rfl⟩ := List.mem_map.mp hplan
    have hsteps := h.steps r hr b hb
    refine ⟨oneLine_branchName (h.qualifiedName r hr) fun s hs => (hsteps s hs).1, ?_⟩
    intro c hc
    obtain ⟨s, hs, hc⟩ := List.mem_filterMap.mp hc
    exact made_stepComment admits_oneLine (hsteps s hs).2 hc

lemma stubs : ∀ s ∈ (allStubs [] a.results).1, s.OneLine := by
  intro s hs
  obtain ⟨r, hr, plan, hplan, hfollows⟩ := exists_follows hs
  obtain ⟨hwish, hcomments⟩ := h.stubPlans hr hplan
  refine ⟨?_, ?_, hfollows.comments ▸ hcomments⟩
  · rcases hfollows.name with hname | ⟨n, hname⟩
    · rw [hname]
      exact hwish
    · rw [hname]
      exact oneLine_numbered hwish n
  · rw [hfollows.call]
    exact made_callText admits_oneLine (h.name r hr) (h.qualifiedName r hr) (h.parameters r hr)

lemma headLines : ∀ l ∈ headLines a module, Branchwise.OneLine l.toList := by
  refine oneLine_headLines ?_ fun n hn => ?_
  · split
    · exact h.file
    · exact h.module
  · obtain ⟨r, hr, rfl⟩ := List.mem_map.mp (mem_of_mem_distinct hn)
    rw [topOf, String.toList_ofList]
    exact (h.qualifiedName r hr).sublist (List.takeWhile_sublist _)

end Analysis.OneLine

/-! ### What is tested -/

/-- What the stubs of a function are for, in order: its branches that are not empty, success
before failure, or the function alone if there is none. -/
def Accumulator.tested (r : Accumulator) : List (Option Branch) :=
  match r.success.branches.filter (!·.steps.isEmpty)
    ++ r.failure.branches.filter (!·.steps.isEmpty) with
  | [] => [none]
  | b :: bs => (b :: bs).map some

/-- The wished-for name and the comments of a stub for a branch, or for a function alone. -/
def planFor (f : Function) : Option Branch → String × List String
  | none => (baseName f, [])
  | some b => (branchName f b, b.comments)

lemma stubPlans_eq (r : Accumulator) : stubPlans r = r.tested.map (planFor r.function) := by
  rw [stubPlans, Accumulator.tested, Accumulator.branches, List.filter_append]
  generalize r.success.branches.filter (!·.steps.isEmpty)
    ++ r.failure.branches.filter (!·.steps.isEmpty) = bs
  cases bs with
  | nil => rfl
  | cons b bs => simp [planFor]

/-- One stub for each that is tested, in the same order. -/
lemma forall₂_allStubs (used : List String) (rs : List Accumulator) :
    List.Forall₂ (fun t s => Stub.Follows t.1 (planFor t.1 t.2) s)
      (rs.flatMap fun r => r.tested.map (r.function, ·)) (allStubs used rs).1 := by
  induction rs generalizing used with
  | nil => exact .nil
  | cons r rs ih =>
      have hfirst : List.Forall₂ (fun t s => Stub.Follows t.1 (planFor t.1 t.2) s)
          (r.tested.map (r.function, ·)) (stubs used r).1 := by
        have hplans := forall₂_nameStubs r.function used (stubPlans r)
        rw [stubs, List.forall₂_map_left_iff]
        generalize nameStubs r.function used (stubPlans r) = named at hplans ⊢
        rwa [stubPlans_eq, List.forall₂_map_left_iff] at hplans
      rw [allStubs_cons, List.flatMap_cons]
      exact List.rel_append hfirst (ih _)

/-! ### Lines of a module -/

/-- The line holds nothing but white space. -/
def IsBlank (line : String) : Prop :=
  ∀ c ∈ line.toList, isSpace c = true

instance (line : String) : Decidable (IsBlank line) :=
  List.decidableBAll (isSpace · = true) line.toList

lemma not_isBlank_append {lead : String} (h : ¬ IsBlank lead) (rest : String) :
    ¬ IsBlank (lead ++ rest) := by
  intro hblank
  rw [IsBlank, String.toList_append, List.forall_mem_append] at hblank
  exact h hblank.1

/-- Does the line open a definition at the left margin? -/
def opensDefinition (line : String) : Bool :=
  "def ".toList.isPrefixOf line.toList || "async def ".toList.isPrefixOf line.toList

/-- A definition opens with one of two letters. -/
lemma opensDefinition_append {lead : String}
    (h : (lead.toList.head?.any fun c => c != 'd' && c != 'a') = true) (rest : String) :
    opensDefinition (lead ++ rest) = false := by
  rw [opensDefinition, String.toList_append]
  cases hlead : lead.toList with
  | nil =>
      rw [hlead] at h
      cases h
  | cons c cs =>
      rw [hlead, List.head?_cons, Option.any_some, Bool.and_eq_true, bne_iff_ne, bne_iff_ne] at h
      simp [List.isPrefixOf, h.1.symm, h.2.symm]

namespace Stub

/-- The line of a stub that opens its definition. -/
def defLine (s : Stub) : String :=
  (if s.isAsync then "async def " else "def ") ++ s.name ++ "():"

lemma not_isBlank_of_mem_lines {s : Stub} : ∀ l ∈ s.lines, ¬ IsBlank l := by
  have hdef : ∀ {lead : String}, ¬ IsBlank lead → ¬ IsBlank (lead ++ s.name ++ "():") :=
    fun hlead => not_isBlank_append (not_isBlank_append hlead _) _
  simp only [Stub.lines, List.forall_mem_append, List.forall_mem_singleton, List.forall_mem_map]
  refine ⟨⟨⟨?_, not_isBlank_append (by decide) _⟩, fun c _ => not_isBlank_append (by decide) _⟩,
    by decide⟩
  split
  · rw [List.forall_mem_cons, List.forall_mem_singleton]
    exact ⟨by decide, hdef (by decide)⟩
  · rw [List.forall_mem_singleton]
    exact hdef (by decide)

/-- One line of a stub opens a definition; the others start with a blank or with the mark. -/
lemma filter_lines (s : Stub) : s.lines.filter opensDefinition = [s.defLine] := by
  have hopen : (if s.isAsync then ["@pytest.mark.asyncio", "async def " ++ s.name ++ "():"]
      else ["def " ++ s.name ++ "():"]).filter opensDefinition = [s.defLine] := by
    rw [defLine]
    cases s.isAsync with
    | false => simp [opensDefinition, List.isPrefixOf]
    | true => simp [opensDefinition, List.isPrefixOf]
  have hcall : opensDefinition (indent ++ "# result = " ++ s.call) = false :=
    opensDefinition_append (by decide) _
  have hcomments : (s.comments.map fun c => indent ++ "# " ++ c).filter opensDefinition = [] := by
    rw [List.filter_eq_nil_iff, List.forall_mem_map]
    intro c _
    rw [opensDefinition_append (by decide)]
    exact Bool.false_ne_true
  have hskip : opensDefinition skipLine = false := by decide
  rw [Stub.lines_eq, Stub.front, List.filter_append, List.filter_append, List.filter_append, hopen,
    hcomments, List.filter_singleton, List.filter_singleton, hcall, hskip]
  rfl

end Stub

lemma ended_bodyLines (ss : List Stub) :
    ended (bodyLines ss) = ss.flatMap fun s => "\n\n".toList ++ s.text.toList ++ ['\n'] := by
  rw [ended, bodyLines, List.flatMap_assoc]
  refine List.flatMap_congr fun s _ => ?_
  rw [← ended, ended_cons, ended_cons, Stub.lines_eq, ended_append, Stub.toList_text]
  simp [ended]

section Header

variable (a : Analysis) (module : String)

/-- The last line above the stubs imports something. -/
lemma not_isBlank_getLast?_headLines : ∀ l ∈ (headLines a module).getLast?, ¬ IsBlank l := by
  have hfrom : ¬ IsBlank ("from " ++ module ++ " import " ++ joinWith ", " (importNames a)) :=
    not_isBlank_append (not_isBlank_append (not_isBlank_append (by decide) _) _) _
  have hpytest : ¬ IsBlank "import pytest" := by decide
  intro l hl
  rw [headLines] at hl
  cases himport : isImportable module && !(importNames a).isEmpty with
  | true =>
      rw [himport, if_pos rfl] at hl
      exact (Option.some.inj hl : _ = l) ▸ hfrom
  | false =>
      rw [himport, if_neg Bool.false_ne_true] at hl
      exact (Option.some.inj hl : _ = l) ▸ hpytest

lemma filter_headLines : (headLines a module).filter opensDefinition = [] := by
  have htitle : opensDefinition ("\"\"\"Test stubs for "
      ++ (if module = "" then a.file.name else module) ++ ".\"\"\"") = false := by
    rw [String.append_assoc]
    exact opensDefinition_append (by decide) _
  have himport : opensDefinition
      ("from " ++ module ++ " import " ++ joinWith ", " (importNames a)) = false := by
    simp only [String.append_assoc]
    exact opensDefinition_append (by decide) _
  have hothers : opensDefinition "" = false ∧ opensDefinition "import pytest" = false := by decide
  rw [headLines, List.filter_append, List.append_eq_nil_iff]
  constructor
  · simp [htitle, hothers]
  · split
    · simp [himport, hothers]
    · rfl

end Header

lemma filter_bodyLines (ss : List Stub) :
    (bodyLines ss).filter opensDefinition = ss.map Stub.defLine := by
  have hempty : opensDefinition "" = false := by decide
  rw [bodyLines, List.filter_flatMap, List.map_eq_flatMap]
  refine List.flatMap_congr fun s _ => ?_
  rw [List.filter_cons_of_neg (by simp [hempty]), List.filter_cons_of_neg (by simp [hempty]),
    s.filter_lines]

/-- **The layout of a test module**, for every analysis and module name without line ends in its
texts. The text is the header, in which the import stands just if the module can be imported
and something is tested, and then each stub as it is, behind two blank lines and not more. It
ends with one line feed. The lines that open a definition at the left margin are those of the
stubs: one for each branch that is not empty, success before failure, and one for a function
without branches. -/
theorem stubModule_layout (a : Analysis) (module : String) (h : a.OneLine module) :
    let ss := (allStubs [] a.results).1
    let header :=
      ["\"\"\"Test stubs for " ++ (if module = "" then a.file.name else module) ++ ".\"\"\"", "",
        "import pytest"]
      ++ (if isImportable module && !a.results.isEmpty then
          ["", "from " ++ module ++ " import " ++ joinWith ", " (importNames a)]
        else [])
    let text := (stubModule a module).toList
    let lines := (splitLines text).map String.ofList
    text = ended header ++ ss.flatMap (fun s => "\n\n".toList ++ s.text.toList ++ ['\n']) ∧
    lines = header ++ ss.flatMap (fun s => "" :: "" :: s.lines) ∧
    (∀ l ∈ header.getLast?, ¬ IsBlank l) ∧ (∀ s ∈ ss, ∀ l ∈ s.lines, ¬ IsBlank l) ∧
    (∃ front c, isSpace c = false ∧ text = front ++ [c, '\n']) ∧
    lines.filter opensDefinition = ss.map Stub.defLine ∧
    List.Forall₂ (fun t s => Stub.Follows t.1 (planFor t.1 t.2) s)
      (a.results.flatMap fun r => r.tested.map (r.function, ·)) ss ∧
    (ss.map Stub.name).Nodup := by
  intro ss header text lines
  have hheader : headLines a module = header := by
    rw [headLines, isEmpty_importNames]
  have hlines : lines = header ++ bodyLines ss := by
    have hback : ∀ ls : List String, (ls.map String.toList).map String.ofList = ls := by simp
    have hsplit := splitLines_stubModule h.headLines
    rw [bodyTextLines_eq h.stubs, hheader] at hsplit
    exact (congrArg (List.map String.ofList) hsplit).trans (hback _)
  refine ⟨?_, hlines, ?_, fun s _ => s.not_isBlank_of_mem_lines,
    exists_toList_stubModule_eq a module, ?_, forall₂_allStubs [] a.results,
    nodup_allStubs List.nodup_nil a.results⟩
  · rw [← ended_bodyLines, ← ended_append, ← hheader]
    exact toList_stubModule h.stubs module
  · rw [← hheader]
    exact not_isBlank_getLast?_headLines a module
  · rw [hlines, List.filter_append, ← hheader, filter_headLines, List.nil_append, filter_bodyLines]

/-- An awaited method with a branch of each outcome and an empty one, and a function without
branches. -/
def shopAnalysis : Analysis :=
  ⟨Path.ofString "shop.py", "shop",
    [⟨⟨"f", "A.f", ["x"], [], 1, true, true⟩,
      ⟨.success, [[.conditional "x" [] [] 2 "If", .other "Pass" 3], []]⟩,
      ⟨.failure, [[.conditional "x" [] [] 2 "If", .throw (some "E(x)") 4 "Raise"]]⟩⟩,
     ⟨⟨"g", "g", [], [], 5, false, false⟩, .empty .success, .empty .failure⟩]⟩

/-- A method with two branches and a function without any: the lines that open their stubs. -/
theorem stubModule_layout_shop :
    shopAnalysis.OneLine "pkg.shop" ∧
    ((splitLines (stubModule shopAnalysis "pkg.shop").toList).map String.ofList).filter
        opensDefinition =
      ["async def test_A_f__if_pass():", "async def test_A_f__if_raise__failure():",
        "def test_g():"] := by
  have honeLine : shopAnalysis.OneLine "pkg.shop" :=
    ⟨by decide, by decide, by decide, by decide, by decide, by decide⟩
  obtain ⟨-, -, -, -, -, hdefs, -, -⟩ := stubModule_layout shopAnalysis "pkg.shop" honeLine
  refine ⟨honeLine, hdefs.trans ?_⟩
  decide +kernel

end Branchwise
