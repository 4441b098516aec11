/-
From the statements of a source text to branches: nothing is lost and nothing
comes twice.

The occurrences of a body are the statements that branch extraction looks at: an
`if`, a `try`, a `return` or a `raise` that is reached through bodies, `else`
parts and handlers. What a `finally`, a loop, a `with`, a `match` or a nested
definition holds is not reached. An occurrence lies on the failure side if it
stands directly in the `else` part of an `if` or in a handler, and on the
success side otherwise.

* `Stmt.reached`, `reachedIn`, `reachedInHandlers`: the occurrences, in the
  order of the text.
* `Exit`, `Occurrence.exit?`, `Branch.exit?`: a `return` or a `raise`, as it
  stands in the source text and as it ends a branch.
* `streamOf_trees_perm`: the streams hold the occurrences, up to order.
* `definitions`, `exists_definition`: the definition behind each function.
* `branches_exact`: **the branches of a function hold exactly the occurrences
  of its body**.
-/
import Mathlib.Data.List.Basic
import Branchwise.Proofs.Tidy
import Branchwise.Source.Functions

namespace Branchwise.Source

/-! ### Occurrences -/

namespace Stmt

/-- Does the statement shape branches? -/
def shapesPath : Stmt → Bool
  | ifElse .. | guard .. | ret .. | raise .. => true
  | _ => false

/-- Does the statement have two sides? -/
def isDecision : Stmt → Bool
  | ifElse .. | guard .. => true
  | _ => false

/-- Does the `else` part of an `if`, or some handler of a `try`, hold a statement
that shapes branches? -/
def canFail : Stmt → Bool
  | ifElse _ _ _ orelse => orelse.any shapesPath
  | guard _ _ _ handlers _ _ => handlers.any fun
    | .mk _ body => body.any shapesPath
  | _ => false

end Stmt

/-- A statement and the side of the list that directly encloses it. -/
structure Occurrence where
  side : Outcome
  stmt : Stmt

mutual

/-- The occurrences in a statement that stands on the given side, itself
first. -/
def Stmt.reached (side : Outcome) : Stmt → List Occurrence
  | s@(.ifElse _ _ body orelse) =>
    ⟨side, s⟩ :: (reachedIn .success body ++ reachedIn .failure orelse)
  | s@(.guard _ _ body handlers orelse _) =>
    ⟨side, s⟩ ::
      (reachedIn .success body ++ reachedInHandlers handlers ++ reachedIn .success orelse)
  | s@(.ret ..) => [⟨side, s⟩]
  | s@(.raise ..) => [⟨side, s⟩]
  | _ => []

/-- The occurrences in the statements of one side. -/
def reachedIn (side : Outcome) : List Stmt → List Occurrence
  | [] => []
  | s :: ss => s.reached side ++ reachedIn side ss

/-- The occurrences in handlers. -/
def reachedInHandlers : List Handler → List Occurrence
  | [] => []
  | .mk _ body :: hs => reachedIn .failure body ++ reachedInHandlers hs

end

namespace Occurrence

/-- Is the occurrence recorded for the outcome? A terminal is if it lies on that
side. A decision is recorded for success, and for failure too if it can fail. -/
def countsFor (o : Outcome) (x : Occurrence) : Bool :=
  if x.stmt.isDecision then o = .success || x.stmt.canFail else x.side = o

end Occurrence

/-! ### Streams of source statements -/

lemma trees_eq_map (ss : List Stmt) : trees ss = ss.map Stmt.tree := by
  induction ss with
  | nil => rw [trees, List.map_nil]
  | cons s ss ih => rw [trees, ih, List.map_cons]

lemma handlerTrees_cons (type : Option Expr) (body : List Stmt) (hs : List Handler) :
    handlerTrees (.mk type body :: hs) = trees body ++ handlerTrees hs := by
  rw [handlerTrees]

@[simp] lemma Stmt.shapesPath_tree (s : Stmt) : s.tree.shapesPath = s.shapesPath := by
  cases s <;> rfl

@[simp] lemma Stmt.isDecision_tree (s : Stmt) : s.tree.isDecision = s.isDecision := by
  cases s <;> rfl

lemma any_shapesPath_trees (ss : List Stmt) :
    (trees ss).any Statement.shapesPath = ss.any Stmt.shapesPath := by
  rw [trees_eq_map, List.any_map]
  congr 1
  funext s
  exact s.shapesPath_tree

lemma any_shapesPath_handlerTrees (hs : List Handler) :
    (handlerTrees hs).any Statement.shapesPath = hs.any fun
      | .mk _ body => body.any Stmt.shapesPath := by
  induction hs with
  | nil => rw [handlerTrees]; rfl
  | cons h hs ih =>
      obtain ⟨type, body⟩ := h
      rw [handlerTrees_cons, List.any_append, any_shapesPath_trees, ih, List.any_cons]

@[simp] lemma Stmt.canFail_tree (s : Stmt) : s.tree.canFail = s.canFail := by
  cases s with
  | ifElse line test body orelse => exact any_shapesPath_trees orelse
  | guard line grouped body handlers orelse final => exact any_shapesPath_handlerTrees handlers
  | _ => rfl

/-- The occurrences that count for an outcome, as the walker sees them. -/
def recorded (o : Outcome) (xs : List Occurrence) : List Statement :=
  (xs.filter (Occurrence.countsFor o)).map fun x => x.stmt.tree

lemma recorded_append (o : Outcome) (xs ys : List Occurrence) :
    recorded o (xs ++ ys) = recorded o xs ++ recorded o ys := by
  rw [recorded, List.filter_append, List.map_append]; rfl

lemma recorded_cons (o : Outcome) (x : Occurrence) (xs : List Occurrence) :
    recorded o (x :: xs) = (if x.countsFor o then [x.stmt.tree] else []) ++ recorded o xs := by
  rw [recorded, List.filter_cons]
  split <;> rfl

lemma streamOf_append (o side : Outcome) (ss ts : List Statement) :
    streamOf o side (ss ++ ts) = streamOf o side ss ++ streamOf o side ts := by
  simp only [streamOf_eq_flatMap, List.flatMap_append]

mutual

/-- The stream of a statement holds its occurrences. Their order differs where a
`try` has an `else` part, which continues the body but stands behind the
handlers. -/
lemma Stmt.stream_tree_perm (o side : Outcome) : ∀ s : Stmt,
    (s.tree.stream o side).Perm (recorded o (s.reached side))
  | .ifElse line test body orelse => by
      have hb := streamOf_trees_perm o .success body
      have ho := streamOf_trees_perm o .failure orelse
      rw [Statement.stream_of_isDecision o side (by rfl), Stmt.canFail_tree,
        Stmt.reached, recorded_cons, recorded_append, List.append_assoc]
      exact List.Perm.append_left _ (hb.append ho)
  | .guard line grouped body handlers orelse final => by
      have hb := streamOf_trees_perm o .success body
      have ho := streamOf_trees_perm o .success orelse
      have hh := streamOf_handlerTrees_perm o handlers
      rw [Statement.stream_of_isDecision o side (by rfl), Stmt.canFail_tree,
        Stmt.reached, recorded_cons, recorded_append, recorded_append, List.append_assoc]
      refine List.Perm.append_left _ ?_
      have hsides : (streamOf o .success (trees body ++ trees orelse)
          ++ streamOf o .failure (handlerTrees handlers)).Perm
          (recorded o (reachedIn .success body) ++ (recorded o (reachedIn .success orelse)
            ++ recorded o (reachedInHandlers handlers))) := by
        rw [streamOf_append, List.append_assoc]
        exact hb.append (ho.append hh)
      refine hsides.trans ?_
      rw [List.append_assoc]
      exact List.Perm.append_left _ List.perm_append_comm
  | .ret line value => by
      rw [Statement.stream_of_isTerminal o side rfl, Stmt.reached, recorded_cons]
      simp [recorded, Occurrence.countsFor, Stmt.isDecision]
  | .raise line exc cause => by
      rw [Statement.stream_of_isTerminal o side rfl, Stmt.reached, recorded_cons]
      simp [recorded, Occurrence.countsFor, Stmt.isDecision]
  | .function .. => List.Perm.nil
  | .classDef .. => List.Perm.nil
  | .assign .. => List.Perm.nil
  | .annotated .. => List.Perm.nil
  | .block .. => List.Perm.nil
  | .simple .. => List.Perm.nil

/-- The stream of one side holds the occurrences on it. -/
lemma streamOf_trees_perm (o side : Outcome) : ∀ ss : List Stmt,
    (streamOf o side (trees ss)).Perm (recorded o (reachedIn side ss))
  | [] => List.Perm.nil
  | s :: ss => by
      rw [trees, streamOf, reachedIn, recorded_append]
      exact (s.stream_tree_perm o side).append (streamOf_trees_perm o side ss)

/-- The stream of a failure side made of handlers holds their occurrences. -/
lemma streamOf_handlerTrees_perm (o : Outcome) : ∀ hs : List Handler,
    (streamOf o .failure (handlerTrees hs)).Perm (recorded o (reachedInHandlers hs))
  | [] => List.Perm.nil
  | .mk type body :: hs => by
      rw [handlerTrees_cons, streamOf_append, reachedInHandlers, recorded_append]
      exact (streamOf_trees_perm o .failure body).append (streamOf_handlerTrees_perm o hs)

end

end Branchwise.Source

namespace Branchwise

/-! ### Exits -/

/-- A `return` or a `raise`: the side it lies on, which of the two it is, the text
of what it returns or raises, if there is one, and its line. -/
structure Exit where
  side : Outcome
  raises : Bool
  text : Option String
  line : Int

/-- The exit that an occurrence is, if it is one. -/
def Source.Occurrence.exit? (x : Source.Occurrence) : Option Exit :=
  match x.stmt with
  | .ret line value => some ⟨x.side, false, value.map Source.Expr.shown, line⟩
  | .raise line exc _ => some ⟨x.side, true, exc.map Source.Expr.shown, line⟩
  | _ => none

/-- The exit that a step of a branch of the given outcome is, if it is one. -/
def Statement.exit? (o : Outcome) : Statement → Option Exit
  | ret value line _ => some ⟨o, false, value, line⟩
  | throw exc line _ => some ⟨o, true, exc, line⟩
  | _ => none

/-- The exit that ends a branch. -/
def Branch.exit? (b : Branch) : Option Exit :=
  b.terminal?.bind (Statement.exit? b.outcome)

/-- The exits among the steps of a branch. -/
def Branch.exits (b : Branch) : List Exit :=
  b.steps.filterMap (Statement.exit? b.outcome)

/-- The decisions among the steps of the branches of an outcome. -/
def decisionSteps (o : Outcome) (bs : List Branch) : List Statement :=
  (bs.filter fun b => b.outcome = o).flatMap fun b => b.steps.filter Statement.isDecision

lemma Statement.isSome_exit? (o : Outcome) (s : Statement) :
    (s.exit? o).isSome = s.isTerminal := by
  cases s <;> rfl

lemma Statement.exit?_eq_none {s : Statement} (o : Outcome) (h : s.isTerminal = false) :
    s.exit? o = none := by
  rw [← Option.not_isSome_iff_eq_none, isSome_exit?, h]
  simp

lemma Branch.isSome_exit? (b : Branch) : b.exit?.isSome = b.isComplete := by
  rw [exit?, isComplete]
  cases h : b.terminal? with
  | none => rfl
  | some t =>
      have ht : t.isTerminal = true := (Option.filter_eq_some_iff.mp h).2
      rw [Option.bind_some, Statement.isSome_exit?, ht]
      rfl

/-- A closed row has one exit, at its end. -/
lemma Closed.exits_eq {row : List Statement} (h : Closed row) (o : Outcome) :
    (Branch.mk o row).exits = (Branch.mk o row).exit?.toList := by
  obtain ⟨before, t, rfl, ht, hbefore⟩ := h
  have hnone : before.filterMap (Statement.exit? o) = [] :=
    List.filterMap_eq_nil_iff.mpr fun s hs => s.exit?_eq_none o (hbefore s hs)
  have hterm : (Branch.mk o (before ++ [t])).terminal? = some t := by
    simp [Branch.terminal?, ht]
  rw [Branch.exits, Branch.exit?, hterm, List.filterMap_append, hnone, List.nil_append]
  cases h : t.exit? o <;> simp [h]

/-- A row without terminals has no exit. -/
lemma exits_eq_of_no_terminal {row : List Statement} (h : ∀ s ∈ row, s.isTerminal = false)
    (o : Outcome) : (Branch.mk o row).exits = (Branch.mk o row).exit?.toList := by
  have hnone : row.filterMap (Statement.exit? o) = [] :=
    List.filterMap_eq_nil_iff.mpr fun s hs => s.exit?_eq_none o (h s hs)
  have hterm : (Branch.mk o row).terminal? = none := by
    rw [Branch.terminal?, Option.filter_eq_none_iff]
    intro s hs
    simp [h s (List.mem_of_getLast? hs)]
  rw [Branch.exits, Branch.exit?, hterm]
  exact hnone

/-- In a tidy collection exits stand at the ends of branches only. -/
lemma Collection.Tidy.exits_eq {c : Collection} (h : c.Tidy) {b : Branch}
    (hb : b ∈ c.branches) : b.exits = b.exit?.toList := by
  obtain ⟨row, hrow, rfl⟩ := List.mem_map.mp hb
  rcases List.eq_nil_or_concat c.rows with hnil | ⟨rows, last, hrows⟩
  · simp [hnil] at hrow
  · rw [List.concat_eq_append] at hrows
    rw [hrows, List.mem_append, List.mem_singleton] at hrow
    rcases hrow with hrow | rfl
    · exact (h.closed row (by rwa [hrows, List.dropLast_concat])).exits_eq c.outcome
    · exact exits_eq_of_no_terminal
        (h.open_last row (by rw [hrows, List.getLast?_concat]; rfl)) c.outcome

namespace Accumulator.Tidy

variable {a : Accumulator}

/-- The steps of the branches of an outcome are what its collection recorded. -/
lemma flatMap_steps (h : a.Tidy) (o : Outcome) :
    ((a.branches.filter fun b => b.outcome = o).flatMap Branch.steps) =
      (a.collection o).rows.flatten := by
  rw [h.filter_branches, Collection.branches, List.filter_map, List.flatMap_map]
  induction (a.collection o).rows with
  | nil => rfl
  | cons row rows ih =>
      cases row with
      | nil => simpa using ih
      | cons s row => simpa using ih

/-- All steps that are exits are found at the ends of branches. -/
lemma flatMap_exits (h : a.Tidy) :
    a.branches.flatMap Branch.exits = a.branches.filterMap Branch.exit? := by
  rw [List.filterMap_eq_flatMap_toList]
  refine List.flatMap_congr fun b hb => ?_
  have hmem := (List.mem_filter.mp hb).1
  rw [List.mem_append] at hmem
  rcases hmem with hmem | hmem
  · exact (h.collection .success).exits_eq hmem
  · exact (h.collection .failure).exits_eq hmem

/-- The exits among the branches, outcome by outcome. -/
lemma flatMap_exits_eq (h : a.Tidy) :
    a.branches.flatMap Branch.exits =
      a.success.rows.flatten.filterMap (Statement.exit? .success)
        ++ a.failure.rows.flatten.filterMap (Statement.exit? .failure) := by
  have hside : ∀ o, (a.branches.filter fun b => b.outcome = o).flatMap Branch.exits =
      (a.collection o).rows.flatten.filterMap (Statement.exit? o) := by
    intro o
    rw [← h.flatMap_steps o, List.filterMap_flatMap]
    refine List.flatMap_congr fun b hb => ?_
    have ho : b.outcome = o := by simpa using (List.mem_filter.mp hb).2
    rw [Branch.exits, ho]
  rw [h.branches_eq, List.flatMap_append, hside .success, hside .failure]
  rfl

lemma decisionSteps_eq (h : a.Tidy) (o : Outcome) :
    decisionSteps o a.branches = (a.collection o).rows.flatten.filter Statement.isDecision := by
  rw [decisionSteps, ← h.flatMap_steps o, List.filter_flatMap]

end Accumulator.Tidy

namespace Source

/-- The exits among the occurrences that count for an outcome are the exits on
that side. -/
lemma filterMap_exit?_recorded (o : Outcome) (xs : List Occurrence) :
    (recorded o xs).filterMap (Statement.exit? o) =
      (xs.filterMap Occurrence.exit?).filter fun x => x.side = o := by
  induction xs with
  | nil => rfl
  | cons x xs ih =>
      obtain ⟨side, s⟩ := x
      rw [recorded_cons, List.filterMap_append, ih, List.filterMap_cons]
      cases s with
      | ret line value =>
          by_cases h : side = o
          · subst h
            simp [Occurrence.countsFor, Stmt.isDecision, Occurrence.exit?, Stmt.tree,
              Statement.exit?]
          · simp [Occurrence.countsFor, Stmt.isDecision, Occurrence.exit?, h]
      | raise line exc cause =>
          by_cases h : side = o
          · subst h
            simp [Occurrence.countsFor, Stmt.isDecision, Occurrence.exit?, Stmt.tree,
              Statement.exit?]
          · simp [Occurrence.countsFor, Stmt.isDecision, Occurrence.exit?, h]
      | _ => split <;> simp [Occurrence.exit?, Stmt.tree, Statement.exit?]

/-- The decisions among the occurrences that count for an outcome. -/
lemma filter_isDecision_recorded (o : Outcome) (xs : List Occurrence) :
    (recorded o xs).filter Statement.isDecision =
      ((xs.map Occurrence.stmt).filter fun s => s.isDecision && (o = .success || s.canFail)).map
        Stmt.tree := by
  induction xs with
  | nil => rfl
  | cons x xs ih =>
      obtain ⟨side, s⟩ := x
      rw [recorded_cons, List.filter_append, ih, List.map_cons, List.filter_cons]
      by_cases hd : s.isDecision = true
      · by_cases hc : (decide (o = .success) || s.canFail) = true
        · simp [Occurrence.countsFor, hd, hc]
        · simp [Occurrence.countsFor, hd, hc]
      · by_cases hc : side = o
        · simp [Occurrence.countsFor, hd, hc]
        · simp [Occurrence.countsFor, hd, hc]

/-! ### Definitions -/

/-- The definitions of functions at module level and in the classes at module
level, with the name of the class. -/
def definitions (module : List Stmt) : List (Option String × Stmt) :=
  module.flatMap fun
    | s@(.function ..) => [(none, s)]
    | .classDef _ name body => body.flatMap fun
      | s@(.function ..) => [(some name, s)]
      | _ => []
    | _ => []

/-- Every function that is found has a definition, which it is made from. -/
lemma exists_definition {sel : Selection} {module : List Stmt} {f : Branchwise.Function}
    (h : f ∈ functions sel module) :
    ∃ owner line isAsync name params body,
      (owner, Stmt.function line isAsync name params body) ∈ definitions module ∧
      (Stmt.function line isAsync name params body).function? owner = some f := by
  obtain ⟨s, hs, hf⟩ := List.mem_flatMap.mp h
  cases s with
  | function line isAsync name params body =>
      refine ⟨none, line, isAsync, name, params, body,
        List.mem_flatMap.mpr ⟨_, hs, by simp⟩, ?_⟩
      rw [Stmt.contributes] at hf
      split at hf
      · exact Option.mem_toList.mp hf
      · simp at hf
  | classDef _ owner members =>
      rw [Stmt.contributes] at hf
      split at hf
      · obtain ⟨s, hmem, hfun⟩ := List.mem_filterMap.mp (List.mem_filter.mp hf).1
        cases s with
        | function line isAsync name params body =>
            have hdef : (some owner, Stmt.function line isAsync name params body) ∈
                definitions module :=
              List.mem_flatMap.mpr ⟨_, hs, List.mem_flatMap.mpr ⟨_, hmem, by simp⟩⟩
            exact ⟨some owner, line, isAsync, name, params, body, hdef, hfun⟩
        | _ => simp [Stmt.function?] at hfun
      · simp at hf
  | _ => simp [Stmt.contributes] at hf

/-! ### Nothing is lost -/

lemma extractBranches_tidy (f : Branchwise.Function) :
    (extractBranches f).accumulator.Tidy := by
  rw [extractBranches_accumulator]
  exact (Accumulator.tidy_ofFunction f).feed_stream (.function f)

/-- What a collection of a function records are the occurrences of its body. -/
lemma extractBranches_rows_perm {f : Branchwise.Function} {body : List Stmt}
    (h : f.body = trees body) (o : Outcome) :
    ((extractBranches f).accumulator.collection o).rows.flatten.Perm
      (recorded o (reachedIn .success body)) := by
  rw [extractBranches_flatten, h]
  exact streamOf_trees_perm o .success body

/-- The exits of a body are those of one side and those of the other. -/
lemma filter_side_append_perm (xs : List Exit) :
    ((xs.filter fun x => x.side = .success) ++ xs.filter fun x => x.side = .failure).Perm xs := by
  have hnot : ∀ x : Exit, decide (x.side = .failure) = !decide (x.side = .success) := by
    intro x
    cases h : x.side <;> simp
  simp only [hnot]
  exact List.filter_append_perm (fun x : Exit => decide (x.side = .success)) xs

/-- The exits of a body. -/
def exitsOf (body : List Stmt) : List Exit :=
  (reachedIn .success body).filterMap Occurrence.exit?

/-- The decisions of a body. -/
def decisionsOf (body : List Stmt) : List Stmt :=
  ((reachedIn .success body).map Occurrence.stmt).filter Stmt.isDecision

/-- Branches that hold exactly the occurrences of a body, with multiplicity and up
to order. -/
structure HoldExactly (bs : List Branch) (body : List Stmt) : Prop where
  /-- The exits among the steps of all branches are those of the body. -/
  exits : (bs.flatMap Branch.exits).Perm (exitsOf body)
  /-- Each exit of the body ends one branch, of the side that it lies on. -/
  ends : (bs.filterMap Branch.exit?).Perm (exitsOf body)
  complete : bs.countP Branch.isComplete = (exitsOf body).length
  /-- Each decision of the body is a step of one success branch. -/
  success : (decisionSteps .success bs).Perm ((decisionsOf body).map Stmt.tree)
  /-- Each decision of the body that can fail is a step of one failure branch, and
  no other decision is. -/
  failure : (decisionSteps .failure bs).Perm
    (((decisionsOf body).filter Stmt.canFail).map Stmt.tree)

/-- The branches of a function hold exactly the occurrences of the body that it
was made from. -/
lemma holdExactly_of_body {f : Branchwise.Function} {body : List Stmt}
    (hbody : f.body = trees body) :
    HoldExactly (extractBranches f).accumulator.branches body := by
  have ht := extractBranches_tidy f
  have hrows := extractBranches_rows_perm hbody
  set bs := (extractBranches f).accumulator.branches with hbs
  -- the exits of both collections together
  have hexits : (bs.flatMap Branch.exits).Perm (exitsOf body) := by
    have hside : ∀ o, (((extractBranches f).accumulator.collection o).rows.flatten.filterMap
        (Statement.exit? o)).Perm ((exitsOf body).filter fun x => x.side = o) := by
      intro o
      have := (hrows o).filterMap (Statement.exit? o)
      rwa [filterMap_exit?_recorded] at this
    rw [hbs, ht.flatMap_exits_eq]
    exact ((hside .success).append (hside .failure)).trans (filter_side_append_perm _)
  have hends : (bs.filterMap Branch.exit?).Perm (exitsOf body) := by
    rw [hbs, ← ht.flatMap_exits]
    exact hexits
  refine ⟨hexits, hends, ?_, ?_, ?_⟩
  · rw [← hends.length_eq, List.length_filterMap_eq_countP]
    simp only [Branch.isSome_exit?]
  · have := (hrows .success).filter Statement.isDecision
    rw [filter_isDecision_recorded] at this
    rw [hbs, ht.decisionSteps_eq]
    simpa [decisionsOf] using this
  · have := (hrows .failure).filter Statement.isDecision
    rw [filter_isDecision_recorded] at this
    rw [hbs, ht.decisionSteps_eq]
    simpa [decisionsOf, List.filter_filter, Bool.and_comm] using this

/-- **The branches of a function hold exactly the occurrences of its body.** Each
function that is found in a module comes from one of its definitions, and its
branches hold exactly the occurrences of the body of that definition. -/
theorem branches_exact (sel : Selection) (module : List Stmt) (f : Branchwise.Function)
    (h : f ∈ functions sel module) :
    ∃ owner line isAsync name params body,
      (owner, Stmt.function line isAsync name params body) ∈ definitions module ∧
      (Stmt.function line isAsync name params body).function? owner = some f ∧
      HoldExactly (extractBranches f).accumulator.branches body := by
  obtain ⟨owner, line, isAsync, name, params, body, hdef, hfun⟩ := exists_definition h
  refine ⟨owner, line, isAsync, name, params, body, hdef, hfun, holdExactly_of_body ?_⟩
  cases Option.some.inj hfun
  rfl

/-- A `try` with an `else` part, a handler and a `finally`. The `return` in the
`finally` is no exit. -/
theorem branches_exact_guarded :
    let body : List Stmt :=
      [.guard 2 false [.ifElse 3 (.name "x") [.ret 4 none] [.simple .pass 6]]
        [.mk (some (.name "E")) [.raise 8 none none]] [.ret 10 (some (.name "x"))] [.ret 12 none]]
    let module : List Stmt := [.function 1 false "f" (.mk [] [] none [] none) body]
    ∃ f ∈ functions ⟨false, false⟩ module,
      ((extractBranches f).accumulator.branches.map Branch.label
        = ["Try->If->Return", "Return", "Try->Raise"]) ∧
      (exitsOf body).length = 3 ∧
      ∃ owner line isAsync name params body,
        (owner, Stmt.function line isAsync name params body) ∈ definitions module ∧
        (Stmt.function line isAsync name params body).function? owner = some f ∧
        HoldExactly (extractBranches f).accumulator.branches body := by
  intro body module
  have hmem : ⟨"f", "f", [], trees body, 1, false, false⟩ ∈ functions ⟨false, false⟩ module :=
    List.mem_singleton.mpr rfl
  exact ⟨_, hmem, by decide, by decide, branches_exact _ _ _ hmem⟩

end Source

end Branchwise
