/-
What a report determines.

The report of a function leaves out what lies below its steps, its body and its empty
branches, and nothing else. So functions with the same report have the same bare
branches, and every other view of them is the same.

* `Statement.Alike`: statements of one kind with the same line, label and text.
* `Statement.report_eq_iff`: statements are reported alike exactly if they are alike.
* `Branch.report_eq_iff`, `Accumulator.report_eq_iff`: the same for branches and for the
  branches of a function.
* `stubs_eq_of_bare`, `callText_eq_of_bare`, `Accumulator.markups_eq_of_bare`,
  `Accumulator.listing_eq_of_bare`, `Stats.addResult_eq_of_bare`: the other views show no more
  than that.
* `report_determines_views`: **a report carries all that the other views use**.
-/
import Mathlib.Data.List.Forall2
import Branchwise.Proofs.Views

namespace Branchwise

/-! ### Values -/

namespace Json

@[simp] lemma texts_inj {us vs : List String} : texts us = texts vs ↔ us = vs := by
  rw [texts, texts, array.injEq, List.map_inj_right fun _ _ => text.inj]

@[simp] lemma optional_inj {u v : Option String} : optional u = optional v ↔ u = v := by
  cases u <;> cases v <;> simp [optional]

end Json

@[simp] lemma Outcome.word_inj {o p : Outcome} : o.word = p.word ↔ o = p := by
  cases o <;> cases p <;> decide

/-! ### Statements -/

namespace Statement

/-- Statements of one kind that have the same line, label and text of their own. What lies
below them may differ. -/
inductive Alike : Statement → Statement → Prop
  | conditional (test : String) (line : Int) (label : String) (body orelse body' orelse' :
      List Statement) :
      Alike (.conditional test body orelse line label) (.conditional test body' orelse' line label)
  | guarded (types : List String) (line : Int) (label : String) (body handlers body' handlers' :
      List Statement) :
      Alike (.guarded body handlers types line label) (.guarded body' handlers' types line label)
  | ret (value : Option String) (line : Int) (label : String) :
      Alike (.ret value line label) (.ret value line label)
  | throw (exc : Option String) (line : Int) (label : String) :
      Alike (.throw exc line label) (.throw exc line label)
  | other (label : String) (line : Int) : Alike (.other label line) (.other label line)

lemma Alike.report_eq {s t : Statement} (h : s.Alike t) : s.report = t.report := by
  cases h <;> rfl

lemma Alike.bare_eq {s t : Statement} (h : s.Alike t) : s.bare = t.bare := by
  cases h <;> rfl

/-- The fields of a report, one by one. -/
lemma fields_of_report_eq {s t : Statement} (h : s.report = t.report) :
    s.kind = t.kind ∧ s.label = t.label ∧ s.line = t.line ∧ s.payload = t.payload := by
  simpa [report, fields] using h

/-- The fields of a report leave nothing open but what lies below the statement. -/
lemma alike_of_report_eq {s t : Statement} (h : s.report = t.report) : s.Alike t := by
  obtain ⟨hkind, hlabel, hline, hpayload⟩ := fields_of_report_eq h
  cases s with
  | conditional test body orelse line label =>
      cases t <;> simp [kind] at hkind
      obtain rfl : test = _ := by simpa [payload] using hpayload
      obtain rfl : line = _ := hline
      obtain rfl : label = _ := hlabel
      exact .conditional ..
  | guarded body handlers types line label =>
      cases t <;> simp [kind] at hkind
      obtain rfl : types = _ := by simpa [payload] using hpayload
      obtain rfl : line = _ := hline
      obtain rfl : label = _ := hlabel
      exact .guarded ..
  | ret value line label =>
      cases t <;> simp [kind] at hkind
      obtain rfl : value = _ := by simpa [payload] using hpayload
      obtain rfl : line = _ := hline
      obtain rfl : label = _ := hlabel
      exact .ret ..
  | throw exc line label =>
      cases t <;> simp [kind] at hkind
      obtain rfl : exc = _ := by simpa [payload] using hpayload
      obtain rfl : line = _ := hline
      obtain rfl : label = _ := hlabel
      exact .throw ..
  | other label line =>
      cases t <;> simp [kind] at hkind
      obtain rfl : line = _ := hline
      obtain rfl : label = _ := hlabel
      exact .other ..

/-- **Statements are reported alike exactly if they are alike.** -/
lemma report_eq_iff {s t : Statement} : s.report = t.report ↔ s.Alike t :=
  ⟨alike_of_report_eq, Alike.report_eq⟩

end Statement

/-! ### Branches -/

/-- What one view of the members of a list shows, another one that shows less shows too. -/
lemma map_eq_map_of_factors {α β γ : Type} {f : α → β} {g : α → γ}
    (h : ∀ x y, f x = f y → g x = g y) {l l' : List α} (hl : l.map f = l'.map f) :
    l.map g = l'.map g := by
  rw [← List.forall₂_eq_eq_eq, List.forall₂_map_left_iff, List.forall₂_map_right_iff] at hl ⊢
  exact hl.imp h

/-- Branches are reported alike exactly if they are the same without what lies below their
steps. -/
lemma Branch.report_eq_iff {b c : Branch} : b.report = c.report ↔ b.bare = c.bare := by
  constructor
  · intro h
    have hfields : b.outcome = c.outcome ∧ b.label = c.label ∧ b.isComplete = c.isComplete ∧
        b.steps.map Statement.report = c.steps.map Statement.report := by
      simpa [report] using h
    obtain ⟨houtcome, -, -, hsteps⟩ := hfields
    have hbare : b.steps.map Statement.bare = c.steps.map Statement.bare :=
      map_eq_map_of_factors (fun _ _ hs => (Statement.alike_of_report_eq hs).bare_eq) hsteps
    rw [bare, bare, houtcome, hbare]
  · intro h
    rw [← b.report_bare, h, c.report_bare]

namespace Accumulator

lemma fields_function_eq_iff {f g : Function} : f.fields = g.fields ↔ f.bare = g.bare := by
  simp [Function.fields, Function.bare]

/-- Functions are reported alike exactly if they are the same without their bodies, and so
are their branches. -/
lemma report_eq_iff {a b : Accumulator} :
    a.report = b.report ↔ a.function.bare = b.function.bare ∧
      a.branches.map Branch.bare = b.branches.map Branch.bare := by
  constructor
  · intro h
    obtain ⟨hfunction, hbranches⟩ := List.append_inj (Json.object.inj h) rfl
    have hreports : a.branches.map Branch.report = b.branches.map Branch.report := by
      simpa using hbranches
    exact ⟨fields_function_eq_iff.mp hfunction,
      map_eq_map_of_factors (fun _ _ hb => Branch.report_eq_iff.mp hb) hreports⟩
  · rintro ⟨hfunction, hbranches⟩
    have hreports : a.branches.map Branch.report = b.branches.map Branch.report :=
      map_eq_map_of_factors (fun _ _ hb => Branch.report_eq_iff.mpr hb) hbranches
    rw [report, report, fields_function_eq_iff.mpr hfunction, hreports]

end Accumulator

/-! ### The other views -/

section SameBare

variable {a b : Accumulator} (hfunction : a.function.bare = b.function.bare)
  (hbranches : a.branches.map Branch.bare = b.branches.map Branch.bare)

include hbranches

lemma Accumulator.markups_eq_of_bare :
    a.branches.map Branch.markup = b.branches.map Branch.markup := by
  rw [← a.markups_bare, ← b.markups_bare, a.branches_bare, b.branches_bare, hbranches]

/-- The same bare branches count alike. -/
lemma Stats.addResult_eq_of_bare (s : Stats) : s.addResult a = s.addResult b := by
  rw [← s.addResult_bare, ← s.addResult_bare b, addResult, addResult, a.branches_bare,
    b.branches_bare, hbranches]

include hfunction

lemma stubPlans_eq_of_bare : stubPlans a = stubPlans b := by
  rw [← stubPlans_bare a, ← stubPlans_bare b, stubPlans, stubPlans, Accumulator.branches_bare,
    Accumulator.branches_bare, hbranches]
  simp only [Accumulator.bare, hfunction]

/-- The same bare branches have the same stubs, whatever names are in use. -/
lemma stubs_eq_of_bare (used : List String) : stubs used a = stubs used b := by
  rw [stubs, stubs, stubPlans_eq_of_bare hfunction hbranches, ← nameStubs_bare a.function,
    ← nameStubs_bare b.function, hfunction]

/-- The same bare branches are listed alike. -/
lemma Accumulator.listing_eq_of_bare : a.listing = b.listing := by
  rw [← a.listing_bare, ← b.listing_bare, listing, listing, a.branches_bare, b.branches_bare,
    hbranches]
  simp only [bare, hfunction]

end SameBare

lemma callText_eq_of_bare {f g : Function} (h : f.bare = g.bare) : callText f = callText g := by
  have hbare : callText f.bare = callText g.bare := by rw [h]
  exact hbare

/-- **A report carries all that the other views use.** Functions with the same report, whatever
the steps of their branches are, have the same stubs for any names in use, with the same names
in use afterwards, the same call, the same markup of each branch, the same listing and the same
share in the counts. Two statements have the same report exactly if they are of one kind and
have the same line, label and text. -/
theorem report_determines_views :
    (∀ a b : Accumulator, a.report = b.report →
      (∀ used, stubs used a = stubs used b) ∧
      callText a.function = callText b.function ∧
      a.branches.map Branch.markup = b.branches.map Branch.markup ∧
      a.listing = b.listing ∧
      ∀ s : Stats, s.addResult a = s.addResult b) ∧
    ∀ s t : Statement, s.report = t.report ↔ s.Alike t := by
  refine ⟨fun a b h => ?_, fun s t => Statement.report_eq_iff⟩
  obtain ⟨hfunction, hbranches⟩ := Accumulator.report_eq_iff.mp h
  exact ⟨stubs_eq_of_bare hfunction hbranches, callText_eq_of_bare hfunction,
    Accumulator.markups_eq_of_bare hbranches, Accumulator.listing_eq_of_bare hfunction hbranches,
    Stats.addResult_eq_of_bare hbranches⟩

/-- Two accumulators that differ in the body of the function, in what lies below a step and in
their empty branches, with a step that shapes nothing. Only their own counts tell them apart. -/
theorem report_determines_views_raw :
    let step (body : List Statement) := Statement.conditional "x" body [] 2 "If"
    let leaf := Statement.ret none 3 "Return"
    let make (body : List Statement) : Function := ⟨"f", "C.f", ["x"], body, 1, true, true⟩
    let a : Accumulator :=
      ⟨make [step [leaf]], ⟨.success, [[step [leaf], .other "Pass" 4, leaf], []]⟩, ⟨.failure, []⟩⟩
    let b : Accumulator :=
      ⟨make [], ⟨.success, [[step [], .other "Pass" 4, leaf]]⟩, ⟨.failure, [[], []]⟩⟩
    a.success.size ≠ b.success.size ∧ a.report = b.report ∧
      (∀ used, stubs used a = stubs used b) ∧
      a.branches.map Branch.markup = b.branches.map Branch.markup ∧
      ∀ s : Stats, s.addResult a = s.addResult b := by
  intro step leaf make a b
  have h : a.report = b.report := Accumulator.report_eq_iff.mpr ⟨rfl, rfl⟩
  obtain ⟨hstubs, -, hmarkups, -, hcounts⟩ := report_determines_views.1 a b h
  exact ⟨by decide, h, hstubs, hmarkups, hcounts⟩

end Branchwise
