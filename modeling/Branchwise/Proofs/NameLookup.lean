/-
Which function a name selects.

The results of an analysis are searched once, from the first to the last, and each answers
to its name and to its qualified name. The qualified name of a method holds a dot, so no
other result answers to it. A function at module level has one name for both, and a method
of that name that is reported before it answers in its place.

* `Analysis.get_eq_ok_iff`, `Analysis.get_eq_error_iff`: what a search finds.
* `Analysis.get_or_get`: a search for a qualified name that only one result has.
* `Function.Sound.name_ne_qualifiedName`: no name is the qualified name of a method.
* `IsHidden`: a method answers in place of the function.
* `get_qualifiedName_iff`: **a qualified name selects its function, unless that is hidden**.
-/
import Branchwise.Proofs.StubModules

namespace Branchwise

open Source (Selection)

/-! ### Searching -/

namespace Analysis

lemma isCalled_iff {name : String} {r : Accumulator} :
    isCalled name r = true ↔ r.function.name = name ∨ r.function.qualifiedName = name := by
  rw [isCalled, Bool.or_eq_true, beq_iff_eq, beq_iff_eq, eq_comm, eq_comm (a := name)]

variable {a : Analysis}

lemma get_eq_ok_iff {name : String} {r : Accumulator} :
    a.get name = .ok r ↔ a.results.find? (isCalled name) = some r := by
  rw [get]
  cases a.results.find? (isCalled name) <;> simp

/-- A search fails exactly if no result answers to the name. -/
lemma get_eq_error_iff {name : String} {fault : Fault} :
    a.get name = .error fault ↔ fault = .noFunction name a.file ∧
      ∀ r ∈ a.results, r.function.name ≠ name ∧ r.function.qualifiedName ≠ name := by
  have hnone : a.results.find? (isCalled name) = none ↔
      ∀ r ∈ a.results, r.function.name ≠ name ∧ r.function.qualifiedName ≠ name := by
    simp only [List.find?_eq_none, isCalled_iff, not_or]
  rw [get, ← hnone]
  cases a.results.find? (isCalled name) <;> simp [eq_comm]

/-- Only one result has the qualified name. A search for it finds that result, or an earlier
one of that name. -/
lemma get_or_get {before after : List Accumulator} {r : Accumulator}
    (hresults : a.results = before ++ r :: after)
    (hunique : ∀ t ∈ before, t.function.qualifiedName ≠ r.function.qualifiedName) :
    (a.get r.function.qualifiedName = .ok r ∧
      ∀ t ∈ before, t.function.name ≠ r.function.qualifiedName) ∨
    ∃ t ∈ before, t.function.name = r.function.qualifiedName ∧
      a.get r.function.qualifiedName = .ok t := by
  rw [get_eq_ok_iff, hresults, List.find?_append]
  cases hfind : before.find? (isCalled r.function.qualifiedName) with
  | none =>
      have hself : isCalled r.function.qualifiedName r = true := isCalled_iff.mpr (.inr rfl)
      refine .inl ⟨by simp [hself], fun t ht hname => ?_⟩
      exact List.find?_eq_none.mp hfind t ht (isCalled_iff.mpr (.inl hname))
  | some t =>
      have ht := List.mem_of_find?_eq_some hfind
      have hcalled := isCalled_iff.mp (List.find?_some hfind)
      refine .inr ⟨t, ht, hcalled.resolve_right (hunique t ht), ?_⟩
      rw [get_eq_ok_iff, hresults, List.find?_append, hfind]
      rfl

/-- A name that is not empty selects what a search for it finds. -/
lemma select_eq_ok_iff {name : String} (hname : name ≠ "") {r : Accumulator} :
    a.select name = .ok { a with results := [r] } ↔ a.get name = .ok r := by
  rw [select, if_neg hname]
  cases a.get name <;> simp

end Analysis

/-! ### Names and qualified names -/

namespace Function.Sound

variable {f g : Function}

/-- No name is the qualified name of a method. -/
lemma name_ne_qualifiedName (hf : f.Sound) (hg : g.Sound) (hmethod : g.isMethod = true) :
    f.name ≠ g.qualifiedName := by
  rcases hg.qualified with ⟨hnot, -⟩ | ⟨-, owner, -, hq⟩
  · rw [hmethod] at hnot
    cases hnot
  · intro heq
    have hdot : '.' ∈ f.name.toList := by simp [heq, hq]
    exact hf.name.ne_dot '.' hdot rfl

/-- A function at module level has one name for both. -/
lemma qualifiedName_eq (hf : f.Sound) (hfunction : f.isMethod = false) :
    f.qualifiedName = f.name := by
  rcases hf.qualified with ⟨-, hq⟩ | ⟨hmethod, -⟩
  · exact hq
  · rw [hfunction] at hmethod
    cases hmethod

lemma qualifiedName_ne_empty (hf : f.Sound) : f.qualifiedName ≠ "" := by
  have hname : f.name ≠ "" := by
    intro hempty
    have hidentifier := hf.name.identifier
    rw [hempty] at hidentifier
    cases hidentifier
  rcases hf.qualified with ⟨-, hq⟩ | ⟨-, owner, -, hq⟩
  · rwa [hq]
  · intro hempty
    rw [hq, String.append_eq_empty_iff] at hempty
    exact hname hempty.2

end Function.Sound

/-- Methods are reported on demand only. -/
lemma Source.includeMethods_of_mem_functions {sel : Selection} {module : List Source.Stmt}
    {f : Function} (h : f ∈ Source.functions sel module) (hmethod : f.isMethod = true) :
    sel.includeMethods = true := by
  obtain ⟨includePrivate, includeMethods⟩ := sel
  cases includeMethods with
  | true => rfl
  | false =>
      rw [Source.functions_withoutMethods, List.mem_filter, hmethod] at h
      exact absurd h.2 Bool.false_ne_true

/-- What is reported of a source text: the results are those of sound functions, and there are
methods among them on demand only. -/
lemma SourceModule.of_mem_results {interp : Interpreter} {sel : Selection} {source : String}
    {file : Path} {module : Option String} {m : SourceModule}
    (hread : SourceModule.read interp sel source file module = .ok m) {r : Accumulator}
    (hr : r ∈ m.analysis.results) :
    r.function.Sound ∧ (r.function.isMethod = true → sel.includeMethods = true) := by
  obtain ⟨f, hf, rfl⟩ := List.mem_map.mp hr
  rw [function_extractBranches]
  rw [SourceModule.read] at hread
  split at hread
  · next stmts hstmts =>
    cases hread
    exact ⟨sound_functions hstmts sel f hf, Source.includeMethods_of_mem_functions hf⟩
  all_goals cases hread

/-! ### Hidden functions -/

/-- A method that is reported before a function at module level answers to its name. -/
structure IsHidden (before : List Accumulator) (r : Accumulator) : Prop where
  function : r.function.isMethod = false
  method : ∃ t ∈ before, t.function.isMethod = true ∧ t.function.name = r.function.name

/-- An earlier result answers to a qualified name that only a later one has exactly if it is a
method that hides the later one. -/
lemma name_eq_qualifiedName_iff {r t : Accumulator} (hr : r.function.Sound)
    (ht : t.function.Sound) (hne : t.function.qualifiedName ≠ r.function.qualifiedName) :
    t.function.name = r.function.qualifiedName ↔
      r.function.isMethod = false ∧ t.function.isMethod = true ∧
        t.function.name = r.function.name := by
  cases hmethod : r.function.isMethod with
  | true => simp [ht.name_ne_qualifiedName hr hmethod]
  | false =>
      rw [hr.qualifiedName_eq hmethod] at hne ⊢
      constructor
      · intro hname
        refine ⟨rfl, ?_, hname⟩
        by_contra hfunction
        rw [ht.qualifiedName_eq (by simpa using hfunction)] at hne
        exact hne hname
      · exact fun h => h.2.2

/-- A search for a qualified name that only one result has finds the result, or a method that
hides it. -/
lemma Analysis.get_cases {a : Analysis} {before after : List Accumulator} {r : Accumulator}
    (hresults : a.results = before ++ r :: after)
    (hsound : ∀ t ∈ a.results, t.function.Sound)
    (hunique : ∀ t ∈ before, t.function.qualifiedName ≠ r.function.qualifiedName) :
    (a.get r.function.qualifiedName = .ok r ∧ ¬ IsHidden before r) ∨
    (IsHidden before r ∧ ∃ t ∈ before, t.function.isMethod = true ∧
      t.function.name = r.function.name ∧ a.get r.function.qualifiedName = .ok t) := by
  have hnames : ∀ t ∈ before, t.function.name = r.function.qualifiedName ↔
      r.function.isMethod = false ∧ t.function.isMethod = true ∧
        t.function.name = r.function.name := fun t ht =>
    name_eq_qualifiedName_iff (hsound r (by simp [hresults])) (hsound t (by simp [hresults, ht]))
      (hunique t ht)
  rcases get_or_get hresults hunique with ⟨hget, hnone⟩ | ⟨t, ht, hname, hget⟩
  · refine .inl ⟨hget, ?_⟩
    rintro ⟨hfunction, t, ht, hhides⟩
    exact hnone t ht ((hnames t ht).mpr ⟨hfunction, hhides⟩)
  · obtain ⟨hfunction, hmethod, hname⟩ := (hnames t ht).mp hname
    exact .inr ⟨⟨hfunction, t, ht, hmethod, hname⟩, t, ht, hmethod, hname, hget⟩

/-- The search finds the result exactly if it is not hidden. -/
lemma Analysis.get_eq_ok_iff_not_isHidden {a : Analysis} {before after : List Accumulator}
    {r : Accumulator} (hresults : a.results = before ++ r :: after)
    (hsound : ∀ t ∈ a.results, t.function.Sound)
    (hunique : ∀ t ∈ before, t.function.qualifiedName ≠ r.function.qualifiedName) :
    a.get r.function.qualifiedName = .ok r ↔ ¬ IsHidden before r := by
  rcases get_cases hresults hsound hunique with ⟨hget, hnot⟩ | ⟨hhidden, t, ht, -, -, hget⟩
  · simp [hget, hnot]
  · have hne : t ≠ r := by
      rintro rfl
      exact hunique t ht rfl
    simp [hget, hhidden, hne]

/-- **A qualified name selects its function, unless that is hidden.** Let a source text be read
under any selection, and let one result alone have its qualified name. A search for that name
finds the result, and the name selects it, exactly if no method hides it; where one does, the
search finds such a method. Methods are never hidden, and nothing is if methods are not
selected. A search fails, with the one fault that there is, exactly if no result has the name
or qualified name. -/
theorem get_qualifiedName_iff (interp : Interpreter) (sel : Selection) (source : String)
    (file : Path) (module : Option String) (m : SourceModule)
    (hread : SourceModule.read interp sel source file module = .ok m) :
    (∀ before r after, m.analysis.results = before ++ r :: after →
      (∀ t ∈ before ++ after, t.function.qualifiedName ≠ r.function.qualifiedName) →
      (m.analysis.get r.function.qualifiedName = .ok r ↔ ¬ IsHidden before r) ∧
      (m.analysis.select r.function.qualifiedName = .ok { m.analysis with results := [r] } ↔
        ¬ IsHidden before r) ∧
      (IsHidden before r → ∃ t ∈ before, t.function.isMethod = true ∧
        t.function.name = r.function.name ∧ m.analysis.get r.function.qualifiedName = .ok t) ∧
      (r.function.isMethod = true ∨ sel.includeMethods = false → ¬ IsHidden before r)) ∧
    ∀ name fault, m.analysis.get name = .error fault ↔
      fault = .noFunction name m.analysis.file ∧
        ∀ r ∈ m.analysis.results, r.function.name ≠ name ∧ r.function.qualifiedName ≠ name := by
  refine ⟨fun before r after hresults hunique => ?_, fun name fault => Analysis.get_eq_error_iff⟩
  have hsound : ∀ t ∈ m.analysis.results, t.function.Sound :=
    fun t ht => (SourceModule.of_mem_results hread ht).1
  have hne : ∀ t ∈ before, t.function.qualifiedName ≠ r.function.qualifiedName :=
    fun t ht => hunique t (List.mem_append_left after ht)
  have hiff := Analysis.get_eq_ok_iff_not_isHidden hresults hsound hne
  have hempty := (hsound r (by simp [hresults])).qualifiedName_ne_empty
  refine ⟨hiff, (Analysis.select_eq_ok_iff hempty).trans hiff, fun hhidden => ?_, ?_⟩
  · exact ((Analysis.get_cases hresults hsound hne).resolve_left fun h => h.2 hhidden).2
  · rintro hreached ⟨hfunction, t, ht, hmethod, -⟩
    rcases hreached with hr | hsel
    · rw [hfunction] at hr
      cases hr
    · have hmem : t ∈ m.analysis.results := by simp [hresults, ht]
      have hdemand := (SourceModule.of_mem_results hread hmem).2 hmethod
      rw [hsel] at hdemand
      cases hdemand

/-- A function, and a method of the same name behind it. -/
theorem get_qualifiedName_iff_behind :
    let source := "def f():\n    return 2\n\nclass C:\n    def f(self):\n        return 1\n"
    ∃ m r t, SourceModule.read .basic ⟨false, true⟩ source (Path.ofString "a.py") none = .ok m ∧
      m.analysis.results = [r, t] ∧
      r.function.qualifiedName = "f" ∧ t.function.qualifiedName = "C.f" ∧
      m.analysis.get "f" = .ok r ∧ m.analysis.get "C.f" = .ok t := by
  intro source
  obtain ⟨m, hread, hnames⟩ := exists_read .basic ⟨false, true⟩ source (Path.ofString "a.py")
    (fun m => m.analysis.results.map (fun r => (r.function.qualifiedName, r.function.isMethod)) =
      [("f", false), ("C.f", true)]) (by decide +kernel)
  obtain ⟨r, rest, hresults, hr, hrest⟩ := List.map_eq_cons_iff.mp hnames
  obtain ⟨t, rfl, ht⟩ := List.map_eq_singleton_iff.mp hrest
  obtain ⟨hqualified, -⟩ := Prod.mk.inj hr
  obtain ⟨hqualified', hmethod⟩ := Prod.mk.inj ht
  obtain ⟨hget, -⟩ := get_qualifiedName_iff _ _ source _ none m hread
  obtain ⟨hfirst, -⟩ := hget [] r [t] hresults (by simp [hqualified, hqualified'])
  obtain ⟨hsecond, -, -, hnever⟩ := hget [r] t [] hresults (by simp [hqualified, hqualified'])
  refine ⟨m, r, t, hread, hresults, hqualified, hqualified', ?_, ?_⟩
  · rw [← hqualified]
    exact hfirst.mpr fun h => by simpa using h.method
  · rw [← hqualified']
    exact hsecond.mpr (hnever (.inl hmethod))

/-- A method in a class above a function of the same name hides the function: the name of the
function, which no other result has for its qualified name, selects the method. -/
theorem get_hidden_function :
    let source := "class C:\n    def f(self):\n        return 1\n\ndef f():\n    return 2\n"
    ∃ m r t, SourceModule.read .basic ⟨false, true⟩ source (Path.ofString "a.py") none = .ok m ∧
      m.analysis.results = [r, t] ∧
      r.function.qualifiedName = "C.f" ∧ t.function.qualifiedName = "f" ∧
      m.analysis.get "f" = .ok r ∧ m.analysis.get "f" ≠ .ok t := by
  intro source
  obtain ⟨m, hread, hnames⟩ := exists_read .basic ⟨false, true⟩ source (Path.ofString "a.py")
    (fun m => m.analysis.results.map (fun r => (r.function.name, r.function.qualifiedName)) =
      [("f", "C.f"), ("f", "f")]) (by decide +kernel)
  obtain ⟨r, rest, hresults, hr, hrest⟩ := List.map_eq_cons_iff.mp hnames
  obtain ⟨t, rfl, ht⟩ := List.map_eq_singleton_iff.mp hrest
  obtain ⟨hname, hqualified⟩ := Prod.mk.inj hr
  obtain ⟨-, hqualified'⟩ := Prod.mk.inj ht
  have hget : m.analysis.get "f" = .ok r := by
    rw [Analysis.get_eq_ok_iff, hresults,
      List.find?_cons_of_pos (Analysis.isCalled_iff.mpr (.inl hname))]
  refine ⟨m, r, t, hread, hresults, hqualified, hqualified', hget, fun hother => ?_⟩
  obtain rfl : r = t := Except.ok.inj (hget.symm.trans hother)
  rw [hqualified] at hqualified'
  revert hqualified'
  decide

end Branchwise
