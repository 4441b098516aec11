/-
What every sequence of walks keeps.

Walks may follow each other on one accumulator, and a later one goes on with the
branch that an earlier one left open. Through all of them the collections stay
tidy: terminals end the closed branches and stand nowhere else.

* `Closed`, `Collection.Tidy`, `Accumulator.Tidy`: the invariant.
* `Collection.Tidy.take`, `Collection.Tidy.feed`: one event, and any number.
* `mem_stream`: what stands in a stream.
* `Call`, `Accumulator.after`, `Accumulator.afterAll`: calls of the walk on one
  accumulator; a call that fails changes nothing.
* `Accumulator.Tidy.branches_eq`, `Accumulator.Tidy.isComplete_of_mem_dropLast`:
  what a tidy accumulator lists.
* `afterAll_tidy`: **every sequence of calls keeps the invariant**.
-/
import Branchwise.Proofs.Streams

namespace Branchwise

/-! ### Tidy collections -/

/-- A closed row ends in a terminal and holds no other. -/
def Closed (row : List Statement) : Prop :=
  ∃ before t, row = before ++ [t] ∧ t.isTerminal = true ∧ ∀ s ∈ before, s.isTerminal = false

/-- A closed row makes a complete branch. -/
lemma Closed.isComplete {row : List Statement} (h : Closed row) (o : Outcome) :
    (Branch.mk o row).isComplete = true := by
  obtain ⟨before, t, rfl, ht, -⟩ := h
  simp [Branch.isComplete, Branch.terminal?, ht]

/-- All rows but the last are closed, the last holds no terminal, and whatever is
recorded shapes branches. -/
structure Collection.Tidy (c : Collection) : Prop where
  closed : ∀ row ∈ c.rows.dropLast, Closed row
  open_last : ∀ row ∈ c.rows.getLast?, ∀ s ∈ row, s.isTerminal = false
  shaping : ∀ s ∈ c.rows.flatten, s.shapesPath = true

namespace Collection

lemma tidy_empty (o : Outcome) : (empty o).Tidy :=
  ⟨by simp [empty], by simp [empty], by simp [empty]⟩

lemma rows_extend (c : Collection) (s : Statement) :
    (c.extend s).rows = c.rows.dropLast ++ [c.rows.getLast?.getD [] ++ [s]] :=
  appendToLast_eq s c.rows

namespace Tidy

variable {c : Collection}

/-- The open row holds no terminal, whether it was opened or not. -/
lemma open_row (h : c.Tidy) : ∀ s ∈ c.rows.getLast?.getD [], s.isTerminal = false := by
  intro s hs
  cases hl : c.rows.getLast? with
  | none => simp [hl] at hs
  | some row =>
      rw [hl] at hs
      exact h.open_last row hl s hs

/-- One event keeps a collection tidy. -/
lemma take (h : c.Tidy) {s : Statement} (hs : s.shapesPath = true) : (c.take s).Tidy := by
  have hshape : ∀ t ∈ (c.take s).rows.flatten, t.shapesPath = true := by
    intro t ht
    have hrows := flatten_rows_feed c [s]
    rw [feed_cons, feed_nil] at hrows
    rw [hrows, List.mem_append, List.mem_singleton] at ht
    rcases ht with ht | rfl
    · exact h.shaping t ht
    · exact hs
  refine ⟨?_, ?_, hshape⟩
  · intro row hrow
    rw [Collection.take] at hrow
    split at hrow
    · next hterm =>
      -- the row that was open is closed by the terminal
      simp only [close, rows_extend, List.dropLast_concat, List.mem_append,
        List.mem_singleton] at hrow
      rcases hrow with hrow | rfl
      · exact h.closed row hrow
      · exact ⟨_, s, rfl, hterm, h.open_row⟩
    · rw [rows_extend, List.dropLast_concat] at hrow
      exact h.closed row hrow
  · intro row hrow
    rw [Collection.take] at hrow
    split at hrow
    · rw [close, List.getLast?_concat, Option.mem_some_iff] at hrow
      subst hrow
      simp
    · next hterm =>
      rw [rows_extend, List.getLast?_concat, Option.mem_some_iff] at hrow
      subst hrow
      intro t ht
      rw [List.mem_append, List.mem_singleton] at ht
      rcases ht with ht | rfl
      · exact h.open_row t ht
      · simpa using hterm

/-- Any number of events keeps a collection tidy. -/
lemma feed (h : c.Tidy) {events : List Statement}
    (hs : ∀ s ∈ events, s.shapesPath = true) : (c.feed events).Tidy := by
  induction events generalizing c with
  | nil => exact h
  | cons s events ih =>
      rw [feed_cons]
      exact ih (h.take (hs s (by simp))) fun t ht => hs t (by simp [ht])

/-- The branches of a tidy collection are complete, except perhaps the last one
that is not empty. -/
lemma isComplete_of_mem_dropLast (h : c.Tidy) {b : Branch}
    (hb : b ∈ (c.branches.filter fun b => !b.steps.isEmpty).dropLast) : b.isComplete = true := by
  rcases List.eq_nil_or_concat c.rows with hnil | ⟨rows, last, hrows⟩
  · simp [branches, hnil] at hb
  · have hmem : b ∈ rows.map (Branch.mk c.outcome) := by
      rw [branches, hrows, List.concat_eq_append, List.map_append, List.filter_append] at hb
      by_cases hl : last = []
      · have := List.dropLast_subset _ hb
        simp only [hl, List.map_cons, List.map_nil, List.isEmpty_nil, Bool.not_true,
          Bool.false_eq_true, not_false_eq_true, List.filter_cons_of_neg, List.filter_nil,
          List.append_nil] at this
        exact (List.mem_filter.mp this).1
      · have hlast : ([last].map (Branch.mk c.outcome)).filter (fun b => !b.steps.isEmpty) =
            [Branch.mk c.outcome last] := by simp [hl]
        rw [hlast, List.dropLast_concat] at hb
        exact (List.mem_filter.mp hb).1
    obtain ⟨row, hrow, rfl⟩ := List.mem_map.mp hmem
    refine (h.closed row ?_).isComplete c.outcome
    rw [hrows, List.concat_eq_append, List.dropLast_concat]
    exact hrow

end Tidy

end Collection

/-! ### Tidy accumulators -/

/-- Both collections are tidy, each has its own outcome, and every decision on
the failure side has a failure side that shapes branches. -/
structure Accumulator.Tidy (a : Accumulator) : Prop where
  outcome : ∀ o, (a.collection o).outcome = o
  collection : ∀ o, (a.collection o).Tidy
  fails : ∀ s ∈ a.failure.rows.flatten, s.isTerminal = false →
    ∃ t ∈ s.onFailure, t.shapesPath = true

/-- What stands in a stream shapes branches; a decision in the stream of failures
can fail. -/
lemma mem_stream {o side : Outcome} {s t : Statement} (h : t ∈ s.stream o side) :
    t.shapesPath = true ∧ (t.isTerminal = true ∨ o = .success ∨ t.canFail = true) := by
  induction s using Statement.treeInd generalizing side with
  | decision s hs ihb ihf =>
      rw [Statement.stream_of_isDecision o side hs, List.mem_append, List.mem_append,
        streamOf_eq_flatMap, streamOf_eq_flatMap, List.mem_flatMap, List.mem_flatMap] at h
      rcases h with (h | ⟨u, hu, h⟩) | ⟨u, hu, h⟩
      · split at h
        · next hmark =>
          rw [List.mem_singleton] at h
          subst h
          refine ⟨Statement.shapesPath_of_isDecision hs, .inr ?_⟩
          simpa using hmark
        · simp at h
      · exact ihb u hu h
      · exact ihf u hu h
  | terminal s hs =>
      rw [Statement.stream_of_isTerminal o side hs] at h
      split at h
      · rw [List.mem_singleton] at h
        subst h
        exact ⟨Statement.shapesPath_of_isTerminal hs, .inl hs⟩
      · simp at h
  | other s hs => simp [Statement.stream_of_not_shapesPath o side hs] at h

lemma Node.mem_stream {o : Outcome} {n : Node} {t : Statement} (h : t ∈ n.stream o) :
    t.shapesPath = true ∧ (t.isTerminal = true ∨ o = .success ∨ t.canFail = true) := by
  cases n with
  | function f =>
      rw [stream, streamOf_eq_flatMap, List.mem_flatMap] at h
      obtain ⟨s, -, h⟩ := h
      exact Branchwise.mem_stream h
  | statement s => exact Branchwise.mem_stream h

@[simp] lemma Collection.outcome_feed (c : Collection) (events : List Statement) :
    (c.feed events).outcome = c.outcome := by
  induction events generalizing c with
  | nil => rfl
  | cons s events ih =>
      rw [feed_cons, ih, take]
      split <;> rfl

namespace Accumulator

lemma tidy_ofFunction (f : Function) : (ofFunction f).Tidy where
  outcome o := by cases o <;> rfl
  collection o := by cases o <;> exact Collection.tidy_empty _
  fails s hs := by simp [ofFunction, Collection.empty] at hs

namespace Tidy

variable {a : Accumulator}

/-- Feeding the streams of a node keeps an accumulator tidy. -/
lemma feed_stream (h : a.Tidy) (n : Node) : (a.feed fun o => n.stream o).Tidy where
  outcome o := by rw [collection_feed, Collection.outcome_feed, h.outcome]
  collection o := by
    rw [collection_feed]
    exact (h.collection o).feed fun s hs => (n.mem_stream hs).1
  fails s hs hterm := by
    have hrows := Collection.flatten_rows_feed a.failure (n.stream .failure)
    rw [feed, hrows, List.mem_append] at hs
    rcases hs with hs | hs
    · exact h.fails s hs hterm
    · obtain ht | ho | hf := (n.mem_stream hs).2
      · rw [ht] at hterm; simp at hterm
      · simp at ho
      · exact List.any_eq_true.mp hf

/-- The branches that are listed for one outcome are those of its collection. -/
lemma filter_branches (h : a.Tidy) (o : Outcome) :
    (a.branches.filter fun b => b.outcome = o) =
      (a.collection o).branches.filter fun b => !b.steps.isEmpty := by
  have hs := h.outcome .success
  have hf := h.outcome .failure
  simp only [Accumulator.collection] at hs hf
  have hall : ∀ (c : Collection) (b : Branch), b ∈ c.branches → b.outcome = c.outcome := by
    intro c b hb
    obtain ⟨row, -, rfl⟩ := List.mem_map.mp hb
    rfl
  rw [branches, List.filter_append, List.filter_append, List.filter_filter, List.filter_filter]
  cases o with
  | success =>
      have h2 : a.failure.branches.filter
          (fun b => decide (b.outcome = .success) && !b.steps.isEmpty) = [] := by
        rw [List.filter_eq_nil_iff]
        intro b hb
        simp [hall _ b hb, hf]
      rw [h2, List.append_nil]
      refine List.filter_congr fun b hb => ?_
      simp [hall _ b hb, hs]
  | failure =>
      have h1 : a.success.branches.filter
          (fun b => decide (b.outcome = .failure) && !b.steps.isEmpty) = [] := by
        rw [List.filter_eq_nil_iff]
        intro b hb
        simp [hall _ b hb, hs]
      rw [h1, List.nil_append]
      refine List.filter_congr fun b hb => ?_
      simp [hall _ b hb, hf]

/-- Success comes before failure in the list of branches. -/
lemma branches_eq (h : a.Tidy) :
    a.branches = (a.branches.filter fun b => b.outcome = .success)
      ++ a.branches.filter fun b => b.outcome = .failure := by
  rw [h.filter_branches, h.filter_branches, branches, List.filter_append]
  rfl

/-- At most the last branch of an outcome is incomplete. -/
lemma isComplete_of_mem_dropLast (h : a.Tidy) {o : Outcome} {b : Branch}
    (hb : b ∈ (a.branches.filter fun b => b.outcome = o).dropLast) : b.isComplete = true := by
  rw [h.filter_branches] at hb
  exact (h.collection o).isComplete_of_mem_dropLast hb

end Tidy

end Accumulator

/-! ### Sequences of calls -/

/-- One call of the walk. -/
structure Call where
  node : Node
  context : Context
  depth : Int

namespace Accumulator

/-- The accumulator after a call; a call that fails has not touched it. -/
def after (a : Accumulator) (call : Call) : Accumulator :=
  match walk call.node a call.context call.depth with
  | .ok w => w.accumulator
  | .error _ => a

/-- The accumulator after calls, one after the other. -/
def afterAll (a : Accumulator) (calls : List Call) : Accumulator :=
  calls.foldl after a

/-- A call feeds the streams of its node, or nothing. -/
lemma after_cases (a : Accumulator) (call : Call) :
    a.after call = (a.feed fun o => call.node.stream o) ∨ a.after call = a := by
  by_cases hb : call.node.hasBody = true
  · obtain ⟨w, hw, hacc⟩ := walk_eq_ok call.node a call.context call.depth hb
    left
    rw [after, hw]
    exact hacc
  · right
    obtain ⟨n, context, depth⟩ := call
    cases n with
    | function f => simp [Node.hasBody] at hb
    | statement s =>
        rw [after, walk_eq_error s a context depth (by simpa [Node.hasBody] using hb)]

lemma Tidy.after {a : Accumulator} (h : a.Tidy) (call : Call) : (a.after call).Tidy := by
  rcases a.after_cases call with hc | hc
  · rw [hc]
    exact h.feed_stream call.node
  · rw [hc]
    exact h

lemma Tidy.afterAll {a : Accumulator} (h : a.Tidy) (calls : List Call) :
    (a.afterAll calls).Tidy := by
  induction calls generalizing a with
  | nil => exact h
  | cons call calls ih => exact ih (h.after call)

end Accumulator

/-- **Every sequence of calls keeps the invariant.** After any calls of the walk
on the accumulator of a function, with nodes of any kind, the collections are
tidy. A further call on a terminal, or on a statement that shapes nothing, fails
and changes nothing. The branches that are listed have success before failure,
none of them is empty, and of each outcome at most the last is incomplete. -/
theorem afterAll_tidy (f : Function) (calls : List Call) :
    let a := (Accumulator.ofFunction f).afterAll calls
    a.Tidy ∧
    (∀ (s : Statement) (context : Context) (depth : Int),
      s.isTerminal = true ∨ s.shapesPath = false →
        walk (.statement s) a context depth = .error (.noBody s) ∧
        a.after ⟨.statement s, context, depth⟩ = a) ∧
    a.branches = (a.branches.filter fun b => b.outcome = .success)
      ++ (a.branches.filter fun b => b.outcome = .failure) ∧
    (∀ b ∈ a.branches, b.steps ≠ []) ∧
    (∀ o, ∀ b ∈ (a.branches.filter fun b => b.outcome = o).dropLast, b.isComplete = true) := by
  intro a
  have h : a.Tidy := (Accumulator.tidy_ofFunction f).afterAll calls
  refine ⟨h, ?_, h.branches_eq, ?_, fun o b hb => h.isComplete_of_mem_dropLast hb⟩
  · intro s context depth hs
    have hd : s.isDecision = false := by
      rcases hs with hs | hs <;> cases s <;>
        simp_all [Statement.isTerminal, Statement.shapesPath, Statement.isDecision]
    have herr := walk_eq_error s a context depth hd
    exact ⟨herr, by rw [Accumulator.after, herr]⟩
  · intro b hb
    have := (List.mem_filter.mp hb).2
    simpa using this

/-- A function, then a terminal, then a conditional that goes on with the branch
that the function left open: the second call fails, and the third makes the
branch complete. -/
theorem afterAll_tidy_reentrant :
    let guard := Statement.conditional "x" [] [] 2 "If"
    let more := Statement.conditional "y" [.ret none 4 "Return", guard] [] 3 "If"
    let f : Function := ⟨"f", "f", [], [guard], 1, false, false⟩
    let calls : List Call :=
      [⟨.function f, .root, 0⟩, ⟨.statement (.ret none 9 "Return"), .inElse, 7⟩,
        ⟨.statement more, .inIf, 1⟩]
    let a := (Accumulator.ofFunction f).afterAll calls
    let done : Branch := ⟨.success, [guard, more, .ret none 4 "Return"]⟩
    a.success.rows = [[guard, more, .ret none 4 "Return"], [guard]] ∧ a.Tidy ∧
      walk (.statement (.other "Pass" 5)) a .root 0 = .error (.noBody (.other "Pass" 5)) ∧
      a.after ⟨.statement (.other "Pass" 5), .root, 0⟩ = a ∧
      done.steps ≠ [] ∧ done.isComplete = true := by
  intro guard more f calls a done
  obtain ⟨htidy, hfail, -, hne, hcomplete⟩ := afterAll_tidy f calls
  obtain ⟨herr, hsame⟩ := hfail (.other "Pass" 5) .root 0 (.inr rfl)
  have hdone : done ∈ a.branches := by
    show done ∈ [done, ⟨.success, [guard]⟩]
    exact List.mem_cons_self
  refine ⟨rfl, htidy, herr, hsame, hne done hdone, hcomplete .success done ?_⟩
  show done ∈ [done]
  exact List.mem_cons_self

end Branchwise
