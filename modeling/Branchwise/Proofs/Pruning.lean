/-
Statements that shape no branch leave no mark.

A tree is pruned by leaving out, at every depth, the statements that shape nothing.
The walk commutes with pruning: a pruned tree leaves the same trace, and the pruned
forms of the same steps.

* `Statement.pruned`, `prune`, `Function.pruned`: pruned trees.
* `Collection.pruned`, `Accumulator.pruned`, `Walked.pruned`: what the walk of a
  pruned tree leaves behind.
* `Walked.enter_pruned`, `Walked.finish_pruned`: one step of the walk.
* `walkStatement_pruned`, `walkSide_pruned`: the walk of a tree.
* `extractBranches_eq_of_pruned`: **functions that are the same when pruned** cannot be
  told apart by what is shown of their branches.
-/
import Branchwise.Proofs.Streams
import Branchwise.Proofs.Views

namespace Branchwise

/-! ### Pruned trees -/

mutual

/-- A statement without the statements below it that shape nothing. -/
def Statement.pruned : Statement → Statement
  | .conditional test body orelse line label =>
    .conditional test (prune body) (prune orelse) line label
  | .guarded body handlers types line label =>
    .guarded (prune body) (prune handlers) types line label
  | .ret value line label => .ret value line label
  | .throw exc line label => .throw exc line label
  | .other label line => .other label line

/-- Statements without those, at any depth, that shape nothing. -/
def prune : List Statement → List Statement
  | [] => []
  | s :: ss => if s.shapesPath then s.pruned :: prune ss else prune ss

end

/-- A function with its body pruned. -/
def Function.pruned (f : Function) : Function := { f with body := prune f.body }

namespace Statement

variable (s : Statement)

@[simp] lemma bare_pruned : s.pruned.bare = s.bare := by cases s <;> rfl

@[simp] lemma shapesPath_pruned : s.pruned.shapesPath = s.shapesPath := by
  cases s <;> rfl

@[simp] lemma isDecision_pruned : s.pruned.isDecision = s.isDecision := by
  cases s <;> rfl

@[simp] lemma isTerminal_pruned : s.pruned.isTerminal = s.isTerminal := by
  cases s <;> rfl

@[simp] lemma describe_pruned : s.pruned.describe = s.describe := by
  cases s <;> rfl

@[simp] lemma contextOn_pruned (side : Outcome) : s.pruned.contextOn side = s.contextOn side := by
  cases s <;> rfl

@[simp] lemma onSuccess_pruned : s.pruned.onSuccess = prune s.onSuccess := by
  cases s <;> rfl

@[simp] lemma onFailure_pruned : s.pruned.onFailure = prune s.onFailure := by
  cases s <;> rfl

end Statement

/-- Pruning leaves out what shapes nothing, and prunes the rest. -/
lemma prune_eq (ss : List Statement) :
    prune ss = (ss.filter Statement.shapesPath).map Statement.pruned := by
  induction ss with
  | nil => rfl
  | cons s ss ih =>
      rw [prune, List.filter_cons, ih]
      split <;> rfl

/-- Pruning keeps the number of statements that shape branches. -/
lemma shapingCount_prune (ss : List Statement) : shapingCount (prune ss) = shapingCount ss := by
  rw [shapingCount, prune_eq, List.countP_map, List.countP_filter, shapingCount]
  refine List.countP_congr fun s _ => ?_
  simp

/-! ### What the walk of a pruned tree leaves behind -/

/-- A collection of pruned statements. -/
def Collection.pruned (c : Collection) : Collection :=
  { c with rows := c.rows.map (List.map Statement.pruned) }

/-- An accumulator of pruned statements, for a pruned function. -/
def Accumulator.pruned (a : Accumulator) : Accumulator :=
  ⟨a.function.pruned, a.success.pruned, a.failure.pruned⟩

/-- A walk with a pruned accumulator and the same trace. -/
def Walked.pruned (w : Walked) : Walked := { w with accumulator := w.accumulator.pruned }

namespace Collection

lemma bare_pruned (c : Collection) : c.pruned.bare = c.bare := by
  simp only [bare, pruned, List.map_map, Function.comp_def, Statement.bare_pruned]

lemma extend_pruned (c : Collection) (s : Statement) :
    c.pruned.extend s.pruned = (c.extend s).pruned := by
  simp only [extend, pruned, map_appendToLast]

lemma close_pruned (c : Collection) : c.pruned.close = c.close.pruned := by
  simp [close, pruned]

end Collection

lemma Accumulator.bare_pruned (a : Accumulator) : a.pruned.bare = a.bare := by
  simp only [bare, pruned, Collection.bare_pruned]
  rfl

namespace Walked

variable (w : Walked)

/-- Entering a decision commutes with pruning. -/
lemma enter_pruned (s : Statement) (context : Context) (depth : Int)
    (body failing : List Statement) :
    w.pruned.enter s.pruned context depth (prune body) (prune failing) =
      (w.enter s context depth body failing).pruned := by
  simp only [enter, pruned, shapingCount_prune, Statement.describe_pruned, Accumulator.modify]
  split
  · simp only [Accumulator.pruned, Collection.extend_pruned]
  · simp only [Accumulator.pruned, Collection.extend_pruned]

/-- Recording a terminal commutes with pruning. -/
lemma finish_pruned (side : Outcome) (s : Statement) :
    w.pruned.finish side s.pruned = (w.finish side s).pruned := by
  cases side <;>
    simp only [finish, pruned, Accumulator.modify, Accumulator.pruned, Collection.extend_pruned,
      Collection.close_pruned]

end Walked

/-! ### The walk commutes with pruning -/

/-- If the walk of every statement of a side commutes with pruning, so does the walk of the
side. -/
lemma walkSide_pruned_of_forall (side : Outcome) (depth : Int) {ss : List Statement}
    (h : ∀ s ∈ ss, ∀ (context : Context) (depth : Int) (w : Walked),
      walkStatement side context depth s.pruned w.pruned =
        (walkStatement side context depth s w).pruned) (w : Walked) :
    walkSide side depth (prune ss) w.pruned = (walkSide side depth ss w).pruned := by
  induction ss generalizing w with
  | nil => rfl
  | cons s ss ih =>
      have hs := h s (by simp) (s.contextOn side) (depth + 1) w
      have hss := ih fun t ht => h t (by simp [ht])
      rw [prune, walkSide]
      split
      · rw [walkSide, Statement.contextOn_pruned, hs, hss]
      · next hshapes =>
        rw [walkStatement_of_not_shapesPath side _ _ (by simpa using hshapes), hss]

/-- The walk of a statement commutes with pruning. -/
lemma walkStatement_pruned (side : Outcome) (context : Context) (depth : Int) (s : Statement)
    (w : Walked) :
    walkStatement side context depth s.pruned w.pruned =
      (walkStatement side context depth s w).pruned := by
  induction s using Statement.treeInd generalizing side context depth w with
  | decision s h ihb ihf =>
      have hb := walkSide_pruned_of_forall .success depth
        fun t ht context depth w => ihb t ht .success context depth w
      have hf := walkSide_pruned_of_forall .failure depth
        fun t ht context depth w => ihf t ht .failure context depth w
      rw [walkStatement_of_isDecision side context depth h,
        walkStatement_of_isDecision side context depth (by simpa using h),
        Statement.onSuccess_pruned, Statement.onFailure_pruned, w.enter_pruned, hb, hf]
  | terminal s h =>
      rw [walkStatement_of_isTerminal side context depth h,
        walkStatement_of_isTerminal side context depth (by simpa using h), w.finish_pruned]
  | other s h =>
      rw [walkStatement_of_not_shapesPath side context depth h,
        walkStatement_of_not_shapesPath side context depth (by simpa using h)]

/-- The walk of a side commutes with pruning. -/
lemma walkSide_pruned (side : Outcome) (depth : Int) (ss : List Statement) (w : Walked) :
    walkSide side depth (prune ss) w.pruned = (walkSide side depth ss w).pruned :=
  walkSide_pruned_of_forall side depth
    (fun s _ context depth w => walkStatement_pruned side context depth s w) w

/-- The branches of a pruned function are the pruned branches, and its trace is the same. -/
lemma extractBranches_pruned (f : Function) :
    extractBranches f.pruned = (extractBranches f).pruned := by
  rw [extractBranches, extractBranches, walkFunction, walkFunction, ← walkSide_pruned]
  simp only [Function.pruned, shapingCount_prune]
  rfl

section SamePruned

variable {f g : Function} (h : f.pruned = g.pruned)

include h

/-- Functions that are the same when pruned leave the same trace. -/
lemma trace_eq_of_pruned : (extractBranches f).trace = (extractBranches g).trace := by
  have hf : (extractBranches f.pruned).trace = (extractBranches f).trace := by
    rw [extractBranches_pruned]; rfl
  have hg : (extractBranches g.pruned).trace = (extractBranches g).trace := by
    rw [extractBranches_pruned]; rfl
  rw [← hf, ← hg, h]

/-- Functions that are the same when pruned have the same bare branches. -/
lemma bare_eq_of_pruned :
    (extractBranches f).accumulator.bare = (extractBranches g).accumulator.bare := by
  have hf : (extractBranches f.pruned).accumulator = (extractBranches f).accumulator.pruned := by
    rw [extractBranches_pruned]; rfl
  have hg : (extractBranches g.pruned).accumulator = (extractBranches g).accumulator.pruned := by
    rw [extractBranches_pruned]; rfl
  rw [← Accumulator.bare_pruned, ← hf, h, hg, Accumulator.bare_pruned]

end SamePruned

/-- **Statements that shape nothing are invisible.** Let two functions be the same once
the statements that shape nothing are left out at every depth. Their branches then have
the same report, number, stubs (whatever names are in use), listing and share in the
counts, and the walks leave the same trace. -/
theorem extractBranches_eq_of_pruned {f g : Function} (h : f.pruned = g.pruned) :
    let a := (extractBranches f).accumulator
    let b := (extractBranches g).accumulator
    a.report = b.report ∧
    a.describe = b.describe ∧
    (∀ used, stubs used a = stubs used b) ∧
    a.branches.map Branch.markup = b.branches.map Branch.markup ∧
    (∀ s : Stats, s.addResult a = s.addResult b) ∧
    (extractBranches f).trace = (extractBranches g).trace := by
  intro a b
  have hbare : a.bare = b.bare := bare_eq_of_pruned h
  refine ⟨?_, ?_, fun used => ?_, ?_, fun s => ?_, trace_eq_of_pruned h⟩
  · rw [← a.report_bare, hbare, b.report_bare]
  · rw [← a.describe_bare, hbare, b.describe_bare]
  · rw [← stubs_bare, hbare, stubs_bare]
  · rw [← a.markups_bare, hbare, b.markups_bare]
  · rw [← s.addResult_bare, hbare, s.addResult_bare]

/-- A failure side on which nothing shapes a branch counts as none, also below another
decision. -/
theorem extractBranches_eq_of_pruned_nested :
    let leaf := Statement.ret (some "x") 5 "Return"
    let f : Function :=
      ⟨"f", "f", ["x"], [.other "Expr" 2, .guarded [.conditional "x" [.other "Pass" 4, leaf]
        [.other "Pass" 7] 4 "If"] [.other "Pass" 9, .throw none 9 "Raise"] ["E"] 3 "Try"], 1,
        false, false⟩
    let g : Function :=
      ⟨"f", "f", ["x"], [.guarded [.conditional "x" [leaf] [] 4 "If", .other "While" 8]
        [.throw none 9 "Raise"] ["E"] 3 "Try"], 1, false, false⟩
    f.pruned = g.pruned ∧
      (extractBranches f).accumulator.describe = (extractBranches g).accumulator.describe ∧
      (extractBranches f).trace = (extractBranches g).trace := by
  intro leaf f g
  have h : f.pruned = g.pruned := by rfl
  obtain ⟨-, hdescribe, -, -, -, htrace⟩ := extractBranches_eq_of_pruned h
  exact ⟨h, hdescribe, htrace⟩

end Branchwise
