/-
What a test module imports, and what its stubs call.

* `calledName`: the name that a call starts with.
* `calledName_callText`: it is the first part of the qualified name of the function.
* `ListsFirstUses`: a list of names holds each used name once, in the order of first uses.
* `importNames_cover_calls`: what is imported is what is called, for every source text.
-/
import Branchwise.Proofs.StubLines

namespace Branchwise

open Text

/-! ### First uses -/

/-- The names are those that are used, each once and in the order of their first uses. -/
structure ListsFirstUses (names uses : List String) : Prop where
  nodup : names.Nodup
  mem_iff : ∀ n, n ∈ names ↔ n ∈ uses
  ordered : names.Pairwise fun x y => uses.idxOf x < uses.idxOf y

lemma mem_distinct {x : String} {ss : List String} : x ∈ distinct ss ↔ x ∈ ss := by
  refine ⟨mem_of_mem_distinct, fun h => ?_⟩
  induction ss with
  | nil => cases h
  | cons s ss ih =>
      rw [distinct, List.mem_cons, List.mem_filter]
      by_cases hx : x = s
      · exact .inl hx
      · exact .inr ⟨ih (List.mem_of_ne_of_mem hx h), bne_iff_ne.mpr hx⟩

lemma nodup_distinct (ss : List String) : (distinct ss).Nodup := by
  induction ss with
  | nil => exact List.nodup_nil
  | cons s ss ih =>
      rw [distinct, List.nodup_cons]
      exact ⟨by simp, ih.filter _⟩

lemma ordered_distinct (ss : List String) :
    (distinct ss).Pairwise fun x y => ss.idxOf x < ss.idxOf y := by
  induction ss with
  | nil => exact .nil
  | cons s ss ih =>
      have hlater : ∀ {x}, x ∈ (distinct ss).filter (· != s) →
          (s :: ss).idxOf x = ss.idxOf x + 1 := fun hx =>
        List.idxOf_cons_ne ss (bne_iff_ne.mp (List.mem_filter.mp hx).2).symm
      rw [distinct, List.pairwise_cons]
      refine ⟨fun x hx => ?_, (ih.filter _).imp_of_mem fun hx hy hxy => ?_⟩
      · rw [List.idxOf_cons_self, hlater hx]
        omega
      · rw [hlater hx, hlater hy]
        omega

lemma listsFirstUses_distinct (ss : List String) : ListsFirstUses (distinct ss) ss :=
  ⟨nodup_distinct ss, fun _ => mem_distinct, ordered_distinct ss⟩

/-- Uses that follow the same one at once are no first uses. -/
lemma distinct_replicate_append (s : String) (n : Nat) (ss : List String) :
    distinct (List.replicate (max 1 n) s ++ ss) = s :: (distinct ss).filter (· != s) := by
  have hsucc : ∀ k, distinct (List.replicate (k + 1) s ++ ss) =
      s :: (distinct ss).filter (· != s) := by
    intro k
    induction k with
    | zero => rfl
    | succ k ih =>
        rw [List.replicate_succ, List.cons_append, distinct, ih]
        simp
  obtain ⟨k, hk⟩ : ∃ k, max 1 n = k + 1 := ⟨max 1 n - 1, by omega⟩
  rw [hk, hsucc]

lemma distinct_flatMap_replicate {α : Type} (count : α → Nat) (name : α → String) (as : List α) :
    distinct (as.flatMap fun a => List.replicate (max 1 (count a)) (name a)) =
      distinct (as.map name) := by
  induction as with
  | nil => rfl
  | cons a as ih => rw [List.flatMap_cons, distinct_replicate_append, ih, List.map_cons, distinct]

/-! ### Calls -/

/-- The call without the word that awaits it. -/
def unawaited (call : List Char) : List Char :=
  if "await ".toList.isPrefixOf call then call.drop 6 else call

/-- The name that a call starts with, behind the word that awaits it. -/
def calledName (call : String) : String :=
  String.ofList ((unawaited call.toList).takeWhile isIdentifierPart)

/-- A call of a name does not start with the word that awaits it: it would have a blank where
its bracket opens. -/
lemma unawaited_eq_self {name rest : List Char} (h : ∀ c ∈ name, isIdentifierPart c = true) :
    unawaited (name ++ '(' :: rest) = name ++ '(' :: rest := by
  rw [unawaited, if_neg]
  intro hprefix
  obtain ⟨tail, htail⟩ := List.isPrefixOf_iff_prefix.mp hprefix
  have hdrop := congrArg (List.dropWhile isIdentifierPart) htail
  rw [List.dropWhile_append_of_pos h] at hdrop
  have hawait : ("await ".toList ++ tail).dropWhile isIdentifierPart = ' ' :: tail := rfl
  have hbracket : ('(' :: rest).dropWhile isIdentifierPart = '(' :: rest := rfl
  rw [hawait, hbracket] at hdrop
  cases hdrop

lemma unawaited_append (call : List Char) : unawaited ("await ".toList ++ call) = call := by
  rw [unawaited, if_pos (List.isPrefixOf_iff_prefix.mpr (List.prefix_append _ _))]
  rfl

/-- The last dot is the one before a name. -/
lemma splitLast_append {sep : Char} {before after : List Char} (h : sep ∉ after) :
    splitLast sep (before ++ sep :: after) = some (before, after) := by
  have hnone : ∀ {cs : List Char}, sep ∉ cs → splitLast sep cs = none := by
    intro cs hcs
    induction cs with
    | nil => rfl
    | cons c cs ih =>
        rw [List.mem_cons, not_or] at hcs
        rw [splitLast, ih hcs.2]
        exact if_neg (Ne.symm hcs.1)
  induction before with
  | nil => simp [splitLast, hnone h]
  | cons c cs ih => rw [List.cons_append, splitLast, ih]

lemma ownerOf_dotted (owner : String) {name : String} (h : Source.IsName name) :
    ownerOf (owner ++ "." ++ name) = owner := by
  have hsplit : splitLast '.' (owner ++ "." ++ name).toList = some (owner.toList, name.toList) := by
    rw [String.toList_append, String.toList_append, List.append_assoc]
    exact splitLast_append fun hmem => h.ne_dot '.' hmem rfl
  rw [ownerOf, hsplit]
  exact String.ofList_toList

/-- A call of a sound function is its top name and what follows an open bracket, maybe
awaited: a method is called on an object that its class makes. -/
lemma exists_callText_eq {f : Function} (h : f.Sound) :
    ∃ rest, (callText f).toList =
      (if f.isAsync then "await ".toList else [])
        ++ ((topOf f.qualifiedName).toList ++ '(' :: rest) := by
  have hcall : ∃ rest,
      ((if f.isMethod then ownerOf f.qualifiedName ++ "(...)." ++ f.name else f.name)
        ++ "(" ++ joinWith ", " f.parameters ++ ")").toList =
      (topOf f.qualifiedName).toList ++ '(' :: rest := by
    have hopen : "(".toList = ['('] := by decide
    have hmade : "(...).".toList = '(' :: "...).".toList := by decide
    rcases h.qualified with ⟨hmethod, hq⟩ | ⟨hmethod, owner, howner, hq⟩
    · refine ⟨(joinWith ", " f.parameters).toList ++ ")".toList, ?_⟩
      rw [hmethod, hq, topOf_of_isName h.name, if_neg Bool.false_ne_true]
      simp only [String.toList_append, List.append_assoc, hopen, List.cons_append, List.nil_append]
    · refine ⟨"...).".toList ++ (f.name.toList
        ++ '(' :: ((joinWith ", " f.parameters).toList ++ ")".toList)), ?_⟩
      rw [hmethod, hq, topOf_dotted howner, ownerOf_dotted owner h.name, if_pos rfl]
      simp only [String.toList_append, List.append_assoc, hopen, hmade, List.cons_append,
        List.nil_append]
  obtain ⟨rest, hrest⟩ := hcall
  refine ⟨rest, ?_⟩
  rw [callText]
  cases f.isAsync with
  | false =>
      rw [if_neg Bool.false_ne_true, if_neg Bool.false_ne_true, List.nil_append]
      exact hrest
  | true =>
      rw [if_pos rfl, if_pos rfl, String.toList_append]
      exact congrArg _ hrest

/-- **A call of a sound function starts with the first part of its qualified name.** -/
lemma calledName_callText {f : Function} (h : f.Sound) :
    calledName (callText f) = topOf f.qualifiedName := by
  obtain ⟨rest, hrest⟩ := exists_callText_eq h
  have hparts := Source.forall_part_of_isIdentifier (isName_topOf h).identifier
  have htake : ((topOf f.qualifiedName).toList ++ '(' :: rest).takeWhile isIdentifierPart =
      (topOf f.qualifiedName).toList := by
    rw [List.takeWhile_append_of_pos hparts]
    exact List.append_nil _
  have hunawaited :
      unawaited (callText f).toList = (topOf f.qualifiedName).toList ++ '(' :: rest := by
    rw [hrest]
    cases f.isAsync with
    | false => rw [if_neg Bool.false_ne_true, List.nil_append, unawaited_eq_self hparts]
    | true => rw [if_pos rfl, unawaited_append]
  rw [calledName, hunawaited, htake, String.ofList_toList]

/-! ### Modules -/

section Module

variable {a : Analysis} (h : ∀ r ∈ a.results, r.function.Sound)
include h

lemma importNames_eq_distinct :
    importNames a = distinct (a.results.map fun r => calledName (callText r.function)) := by
  rw [importNames]
  congr 1
  exact List.map_congr_left fun r hr => (calledName_callText (h r hr)).symm

/-- The names to import are the first uses in the calls of the functions. -/
lemma listsFirstUses_results : ListsFirstUses (importNames a)
    (a.results.map fun r => calledName (callText r.function)) := by
  rw [importNames_eq_distinct h]
  exact listsFirstUses_distinct _

/-- They are the first uses in the stubs too, though a function may have several. -/
lemma listsFirstUses_stubs : ListsFirstUses (importNames a)
    ((allStubs [] a.results).1.map fun s => calledName s.call) := by
  have hcalls : (allStubs [] a.results).1.map (fun s => calledName s.call) =
      a.results.flatMap fun r =>
        List.replicate (max 1 r.branches.length) (calledName (callText r.function)) :=
    map_allStubs (fun f plan s hs => congrArg calledName hs.call) [] a.results
  rw [importNames_eq_distinct h, hcalls,
    ← distinct_flatMap_replicate fun r : Accumulator => r.branches.length]
  exact listsFirstUses_distinct _

end Module

lemma oneLine_headLines {a : Analysis} {module : String}
    (htitle : OneLine (if module = "" then a.file.name else module).toList)
    (hnames : ∀ n ∈ importNames a, OneLine n.toList) :
    ∀ l ∈ headLines a module, OneLine l.toList := by
  rw [headLines, List.forall_mem_append]
  constructor
  · rw [List.forall_mem_cons, List.forall_mem_cons, List.forall_mem_singleton]
    refine ⟨?_, by decide, by decide⟩
    simp only [String.toList_append, OneLine, made_append]
    exact ⟨⟨admits_oneLine.text (by decide), htitle⟩, admits_oneLine.text (by decide)⟩
  · split
    · next himport =>
      rw [Bool.and_eq_true] at himport
      rw [List.forall_mem_cons, List.forall_mem_singleton]
      exact ⟨by decide, made_importLine admits_oneLine himport.1 hnames⟩
    · simp

lemma isEmpty_importNames (a : Analysis) : (importNames a).isEmpty = a.results.isEmpty := by
  rw [importNames]
  cases a.results with
  | nil => rfl
  | cons r rs => rfl

/-- A module that can be imported, with something to test, has five lines above its stubs. -/
lemma headLines_of_isImportable {a : Analysis} {module : String} (h : isImportable module = true)
    (hresults : a.results ≠ []) :
    headLines a module =
      ["\"\"\"Test stubs for " ++ module ++ ".\"\"\"", "", "import pytest", "",
        "from " ++ module ++ " import " ++ joinWith ", " (importNames a)] := by
  have hmodule : module ≠ "" := by
    rintro rfl
    exact absurd h (by decide)
  rw [headLines, isEmpty_importNames, List.isEmpty_eq_false_iff.mpr hresults, h, if_neg hmodule]
  rfl

/-- A module whose header has no line ends within its lines is split into its lines. -/
lemma splitLines_stubModule {a : Analysis} {module : String}
    (hhead : ∀ l ∈ headLines a module, OneLine l.toList) :
    splitLines (stubModule a module).toList =
      (headLines a module ++ bodyTextLines (allStubs [] a.results).1).map String.toList := by
  have hbody : ∀ l ∈ bodyTextLines (allStubs [] a.results).1, OneLine l.toList := by
    intro l hl
    obtain ⟨s, -, hl⟩ := List.mem_flatMap.mp hl
    rcases List.mem_cons.mp hl with rfl | hl
    · decide
    rcases List.mem_cons.mp hl with rfl | hl
    · decide
    exact Stub.oneLine_of_mem_textLines hl
  have hlines := splitLines_ended (List.forall_mem_append.mpr ⟨hhead, hbody⟩) []
  rw [List.append_nil] at hlines
  rw [toList_stubModule_eq, hlines]
  exact List.append_nil _

/-- Whatever its other comments hold, a stub shows its call on a line of its own. -/
lemma Stub.mem_textLines_call {s : Stub} (hname : Branchwise.OneLine s.name.toList)
    (hcall : Branchwise.OneLine s.call.toList) :
    indent ++ "# result = " ++ s.call ∈ s.textLines := by
  have hopen : Stub.OneLine { s with comments := [] } := ⟨hname, hcall, by simp⟩
  have hfront : s.front = Stub.front { s with comments := [] }
      ++ s.comments.map fun c => indent ++ "# " ++ c := by
    rw [Stub.front, Stub.front, List.map_nil, List.append_nil]
  rw [Stub.textLines, Stub.toList_text, hfront, ended_append, List.append_assoc,
    splitLines_ended hopen.front, List.map_append, List.map_map]
  refine List.mem_append_left _ ?_
  simp [Stub.front]

/-- **Imports cover calls.** For every source text that can be read, whatever is selected, the
names that a test module imports are identifiers, and they are the names that calls of the
functions start with, each once and in the order of their first uses; so are they for the
stubs. Where the module has a line that imports, every call that a stub shows starts with a
name that stands in that line once. -/
theorem importNames_cover_calls (interp : Interpreter) (sel : Source.Selection)
    (source : String) (file : Path) (module : Option String) (m : SourceModule)
    (hread : SourceModule.read interp sel source file module = .ok m) :
    let a := m.analysis
    let stubs := (allStubs [] a.results).1
    ListsFirstUses (importNames a) (a.results.map fun r => calledName (callText r.function)) ∧
    ListsFirstUses (importNames a) (stubs.map fun s => calledName s.call) ∧
    (∀ n ∈ importNames a, isIdentifier n.toList = true) ∧
    ∀ name, isImportable name = true → a.results ≠ [] →
      let lines := splitLines (stubModule a name).toList
      lines[4]? = some ("from " ++ name ++ " import " ++ joinWith ", " (importNames a)).toList ∧
      ∀ s ∈ stubs, (indent ++ "# result = " ++ s.call).toList ∈ lines ∧
        (importNames a).count (calledName s.call) = 1 := by
  intro a stubs
  have hfunctions : ∀ f ∈ m.functions, f.Sound := fun f hf => (exists_definition_of_read hread hf).1
  have hsound : ∀ r ∈ a.results, r.function.Sound := by
    intro r hr
    obtain ⟨f, hf, rfl⟩ := List.mem_map.mp hr
    rw [function_extractBranches]
    exact hfunctions f hf
  have hstubs := listsFirstUses_stubs hsound
  have hnames := isName_of_mem_importNames hfunctions
  refine ⟨listsFirstUses_results hsound, hstubs, fun n hn => (hnames n hn).identifier, ?_⟩
  intro name himportable hresults lines
  have hlines : lines = (headLines a name ++ bodyTextLines stubs).map String.toList := by
    refine splitLines_stubModule (oneLine_headLines ?_ fun n hn => (hnames n hn).unbroken.oneLine)
    split
    · next hempty => exact absurd himportable (by rw [hempty]; decide)
    · exact (unbroken_of_isImportable himportable).oneLine
  refine ⟨?_, fun s hs => ⟨?_, ?_⟩⟩
  · rw [hlines, headLines_of_isImportable himportable hresults]
    rfl
  · have hsound := sound_of_mem_allStubs hfunctions hs
    have hcall := Stub.mem_textLines_call hsound.name.isName.unbroken.oneLine hsound.call.oneLine
    rw [hlines]
    refine List.mem_map_of_mem (List.mem_append_right _ (List.mem_flatMap.mpr ⟨s, hs, ?_⟩))
    exact List.mem_cons_of_mem _ (List.mem_cons_of_mem _ hcall)
  · exact List.count_eq_one_of_mem hstubs.nodup
      ((hstubs.mem_iff _).mpr (List.mem_map_of_mem hs))

/-- Two methods, one of them awaited, a function that is awaited and one that is named like the
class. -/
theorem importNames_cover_calls_class :
    let source := "class A:\n    def f(self):\n        return 1\n    async def g(self, x):\n" ++
      "        return x\nasync def h():\n    return 2\ndef A():\n    return 3\n"
    ∃ m, SourceModule.read .basic ⟨false, true⟩ source (Path.ofString "shop.py") none = .ok m ∧
      m.analysis.results.map (fun r => callText r.function) =
        ["A(...).f()", "await A(...).g(x)", "await h()", "A()"] ∧
      importNames m.analysis = ["A", "h"] ∧
      (splitLines (stubModule m.analysis "pkg.shop").toList)[4]? =
        some "from pkg.shop import A, h".toList ∧
      ∀ s ∈ (allStubs [] m.analysis.results).1,
        (importNames m.analysis).count (calledName s.call) = 1 := by
  intro source
  obtain ⟨m, hread, hcalls, htops⟩ := exists_read .basic ⟨false, true⟩ source
    (Path.ofString "shop.py")
    (fun m =>
      m.analysis.results.map (fun r => callText r.function) =
        ["A(...).f()", "await A(...).g(x)", "await h()", "A()"] ∧
      m.analysis.results.map (fun r => topOf r.function.qualifiedName) = ["A", "A", "h", "A"])
    (by decide +kernel)
  have hnames : importNames m.analysis = ["A", "h"] := by
    rw [importNames, htops]
    decide
  have hresults : m.analysis.results ≠ [] := by
    intro hnil
    rw [hnil] at hcalls
    cases hcalls
  obtain ⟨-, -, -, hmodule⟩ := importNames_cover_calls _ _ _ _ _ m hread
  obtain ⟨hline, hstubs⟩ := hmodule "pkg.shop" (by decide +kernel) hresults
  refine ⟨m, hread, hcalls, hnames, ?_, fun s hs => (hstubs s hs).2⟩
  rw [hline, hnames]
  decide

end Branchwise
