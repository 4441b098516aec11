/-
What the views of a branch depend on.

Reports, listings, stubs and counts look at each step of a branch by itself, and at
no statement below it. A bare statement is what they see.

* `Statement.bare`, `Branch.bare`, `Collection.bare`, `Accumulator.bare`: without the
  statements below.
* `Accumulator.branches_bare`: the branches of a bare accumulator.
* `Accumulator.report_bare`, `Accumulator.describe_bare`, `Accumulator.markups_bare`,
  `Accumulator.listing_bare`, `stubs_bare`, `Stats.addResult_bare`: the views see bare
  accumulators.
-/
import Mathlib.Tactic.Common
import Branchwise.Analysis.Directory
import Branchwise.Listing
import Branchwise.Report
import Branchwise.Stub

namespace Branchwise

/-! ### Bare statements -/

namespace Statement

/-- A statement without the statements below it. -/
def bare : Statement → Statement
  | conditional test _ _ line label => conditional test [] [] line label
  | guarded _ _ types line label => guarded [] [] types line label
  | s => s

variable (s : Statement)

@[simp] lemma label_bare : s.bare.label = s.label := by cases s <;> rfl

@[simp] lemma isTerminal_bare : s.bare.isTerminal = s.isTerminal := by cases s <;> rfl

@[simp] lemma report_bare : s.bare.report = s.report := by cases s <;> rfl

@[simp] lemma markup_bare (o : Outcome) : s.bare.markup o = s.markup o := by cases s <;> rfl

@[simp] lemma stepComment_bare (o : Outcome) : stepComment o s.bare = stepComment o s := by
  cases s <;> rfl

end Statement

/-! ### Bare branches -/

namespace Branch

/-- A branch of bare statements. -/
def bare (b : Branch) : Branch := { b with steps := b.steps.map Statement.bare }

variable (b : Branch)

@[simp] lemma steps_bare : b.bare.steps = b.steps.map Statement.bare := rfl

@[simp] lemma outcome_bare : b.bare.outcome = b.outcome := rfl

@[simp] lemma label_bare : b.bare.label = b.label := by
  simp [label, Function.comp_def]

@[simp] lemma isComplete_bare : b.bare.isComplete = b.isComplete := by
  simp only [isComplete, terminal?, steps_bare, List.getLast?_map]
  cases b.steps.getLast? with
  | none => rfl
  | some s => cases h : s.isTerminal <;> simp [Option.filter, h]

@[simp] lemma report_bare : b.bare.report = b.report := by
  rw [report, label_bare, isComplete_bare]
  simp [report, Function.comp_def]

@[simp] lemma markup_bare : b.bare.markup = b.markup := by
  simp [markup, Function.comp_def]

@[simp] lemma listing_bare : b.bare.listing = b.listing := by
  rw [listing, markup_bare, outcome_bare, listing]

@[simp] lemma comments_bare : b.bare.comments = b.comments := by
  rw [comments, steps_bare, outcome_bare, List.filterMap_map, Function.comp_def]
  simp only [Statement.stepComment_bare]
  rfl

@[simp] lemma branchName_bare (f : Function) : branchName f b.bare = branchName f b := by
  simp [branchName, Function.comp_def]

end Branch

/-! ### Bare accumulators -/

namespace Collection

/-- A collection of bare statements. -/
def bare (c : Collection) : Collection :=
  { c with rows := c.rows.map (List.map Statement.bare) }

lemma rows_bare (c : Collection) : c.bare.rows = c.rows.map (List.map Statement.bare) := rfl

lemma branches_bare (c : Collection) : c.bare.branches = c.branches.map Branch.bare := by
  rw [branches, branches, List.map_map, rows_bare, List.map_map]
  rfl

lemma size_bare (c : Collection) : c.bare.size = c.size := by
  rw [size, rows_bare, List.length_map, size]

end Collection

/-- A function without its body. -/
def Function.bare (f : Function) : Function := { f with body := [] }

namespace Accumulator

/-- An accumulator of bare statements, for a function without its body. -/
def bare (a : Accumulator) : Accumulator :=
  ⟨a.function.bare, a.success.bare, a.failure.bare⟩

variable (a : Accumulator)

/-- The branches of a bare accumulator are the bare branches. -/
lemma branches_bare : a.bare.branches = a.branches.map Branch.bare := by
  have hempty : (fun b : Branch => !b.bare.steps.isEmpty) = fun b => !b.steps.isEmpty := by
    funext b
    rw [Branch.steps_bare, List.isEmpty_map]
  have hs : a.bare.success.branches = a.success.branches.map Branch.bare :=
    a.success.branches_bare
  have hf : a.bare.failure.branches = a.failure.branches.map Branch.bare :=
    a.failure.branches_bare
  rw [branches, hs, hf, ← List.map_append, List.filter_map, Function.comp_def, hempty, branches]

lemma report_bare : a.bare.report = a.report := by
  rw [report, branches_bare, List.map_map, Function.comp_def]
  simp only [Branch.report_bare]
  rfl

lemma describe_bare : a.bare.describe = a.describe := by
  have hs : a.bare.success.size = a.success.size := a.success.size_bare
  have hf : a.bare.failure.size = a.failure.size := a.failure.size_bare
  unfold describe
  rw [hs, hf]
  rfl

lemma markups_bare : a.bare.branches.map Branch.markup = a.branches.map Branch.markup := by
  rw [branches_bare, List.map_map, Function.comp_def]
  simp only [Branch.markup_bare]

lemma listing_bare : a.bare.listing = a.listing := by
  rw [listing, branches_bare, List.isEmpty_map, List.map_map, Function.comp_def]
  simp only [Branch.listing_bare]
  rfl

end Accumulator

lemma stubPlans_bare (a : Accumulator) : stubPlans a.bare = stubPlans a := by
  rw [stubPlans, Accumulator.branches_bare, List.isEmpty_map, List.map_map, Function.comp_def]
  simp only [Branch.branchName_bare, Branch.comments_bare]
  rfl

/-- The stubs of a function depend on its plans and on its name, parameters and flags. -/
lemma nameStubs_bare (f : Function) (used : List String) (plans : List (String × List String)) :
    nameStubs f.bare used plans = nameStubs f used plans := by
  induction plans generalizing used with
  | nil => rfl
  | cons plan plans ih =>
      rw [nameStubs, nameStubs, ih]
      rfl

lemma stubs_bare (used : List String) (a : Accumulator) : stubs used a.bare = stubs used a := by
  rw [stubs, stubPlans_bare]
  exact nameStubs_bare a.function used (stubPlans a)

lemma Stats.addResult_bare (s : Stats) (a : Accumulator) : s.addResult a.bare = s.addResult a := by
  rw [addResult, Accumulator.branches_bare, List.foldl_map]
  rfl

end Branchwise
