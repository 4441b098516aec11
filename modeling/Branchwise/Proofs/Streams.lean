/-
The walk as two flat streams of events.

A walk interleaves its two collections, but what each of them receives is a
list that can be read off the tree: the stream of an outcome. A decision opens
its stretch of the stream, the stretches of its body and of its failure side
follow, and a terminal counts only on the side that it was found on.

* `Statement.onSuccess`, `Statement.onFailure`, `Statement.treeInd`: decisions
  of either kind at once, and the induction along them.
* `Statement.stream`, `Node.stream`: the streams.
* `Collection.feed`, `Accumulator.feed`: feeding events one by one.
* `walkStatement_accumulator`, `walkSide_accumulator`: the recursion feeds the
  streams.
* `walk_feeds_streams`: **the walk is a feed**, for every node and every
  accumulator; a fresh accumulator holds the streams cut behind their terminals.
-/
import Mathlib.Tactic.Common
import Branchwise.Walk

namespace Branchwise

/-! ### Decisions -/

namespace Statement

/-- Does the statement have two sides? -/
def isDecision : Statement → Bool
  | conditional .. | guarded .. => true
  | _ => false

/-- The statements on the success side of a decision. -/
def onSuccess : Statement → List Statement
  | conditional _ body _ _ _ | guarded body _ _ _ _ => body
  | _ => []

/-- The statements on the failure side of a decision. -/
def onFailure : Statement → List Statement
  | conditional _ _ orelse _ _ => orelse
  | guarded _ handlers _ _ _ => handlers
  | _ => []

/-- Does the failure side of a decision hold a statement that shapes branches? -/
def canFail (s : Statement) : Bool :=
  s.onFailure.any shapesPath

/-- Induction along the decisions of a tree: a property holds of every statement
once it holds of terminals and of the statements that shape nothing, and a
decision inherits it from its two sides. -/
@[elab_as_elim]
theorem treeInd {P : Statement → Prop}
    (decision : ∀ s : Statement, s.isDecision = true → (∀ t ∈ s.onSuccess, P t) →
      (∀ t ∈ s.onFailure, P t) → P s)
    (terminal : ∀ s : Statement, s.isTerminal = true → P s)
    (other : ∀ s : Statement, s.shapesPath = false → P s) : ∀ s : Statement, P s
  | .conditional test body orelse line label =>
    decision (.conditional test body orelse line label) rfl
      (fun t (ht : t ∈ body) =>
        have := List.sizeOf_lt_of_mem ht
        treeInd decision terminal other t)
      (fun t (ht : t ∈ orelse) =>
        have := List.sizeOf_lt_of_mem ht
        treeInd decision terminal other t)
  | .guarded body handlers types line label =>
    decision (.guarded body handlers types line label) rfl
      (fun t (ht : t ∈ body) =>
        have := List.sizeOf_lt_of_mem ht
        treeInd decision terminal other t)
      (fun t (ht : t ∈ handlers) =>
        have := List.sizeOf_lt_of_mem ht
        treeInd decision terminal other t)
  | .ret value line label => terminal (.ret value line label) rfl
  | .throw exc line label => terminal (.throw exc line label) rfl
  | .other label line => other (.other label line) rfl

lemma shapesPath_of_isDecision {s : Statement} (h : s.isDecision = true) :
    s.shapesPath = true := by
  cases s <;> simp_all [isDecision, shapesPath]

lemma shapesPath_of_isTerminal {s : Statement} (h : s.isTerminal = true) :
    s.shapesPath = true := by
  cases s <;> simp_all [isTerminal, shapesPath]

lemma isTerminal_of_isDecision {s : Statement} (h : s.isDecision = true) :
    s.isTerminal = false := by
  cases s <;> simp_all [isDecision, isTerminal]

lemma isDecision_of_isTerminal {s : Statement} (h : s.isTerminal = true) :
    s.isDecision = false := by
  cases s <;> simp_all [isDecision, isTerminal]

lemma isDecision_of_not_shapesPath {s : Statement} (h : s.shapesPath = false) :
    s.isDecision = false := by
  cases s <;> simp_all [isDecision, shapesPath]

end Statement

/-! ### Streams -/

mutual

/-- What a statement found on the side `side` adds to the stream of the outcome
`o`. -/
def Statement.stream (o side : Outcome) : Statement → List Statement
  | s@(.conditional _ body orelse _ _) =>
    (if o = .success || s.canFail then [s] else [])
      ++ streamOf o .success body ++ streamOf o .failure orelse
  | s@(.guarded body handlers _ _ _) =>
    (if o = .success || s.canFail then [s] else [])
      ++ streamOf o .success body ++ streamOf o .failure handlers
  | s@(.ret ..) => if side = o then [s] else []
  | s@(.throw ..) => if side = o then [s] else []
  | .other .. => []

/-- What the statements of one side add to a stream, in order. -/
def streamOf (o side : Outcome) : List Statement → List Statement
  | [] => []
  | s :: ss => s.stream o side ++ streamOf o side ss

end

lemma streamOf_eq_flatMap (o side : Outcome) (ss : List Statement) :
    streamOf o side ss = ss.flatMap (Statement.stream o side) := by
  induction ss with
  | nil => rfl
  | cons s ss ih => rw [streamOf, ih, List.flatMap_cons]

namespace Statement

/-- The stream of a decision: itself, unless it cannot fail and the stream is
that of failures, and then its two sides. -/
lemma stream_of_isDecision (o side : Outcome) {s : Statement} (h : s.isDecision = true) :
    s.stream o side = (if o = .success || s.canFail then [s] else [])
      ++ streamOf o .success s.onSuccess ++ streamOf o .failure s.onFailure := by
  cases s with
  | conditional => rfl
  | guarded => rfl
  | ret => simp [isDecision] at h
  | throw => simp [isDecision] at h
  | other => simp [isDecision] at h

/-- A terminal is in the stream of the side that it was found on, and in no
other. -/
lemma stream_of_isTerminal (o side : Outcome) {s : Statement} (h : s.isTerminal = true) :
    s.stream o side = if side = o then [s] else [] := by
  cases s with
  | conditional => simp [isTerminal] at h
  | guarded => simp [isTerminal] at h
  | ret => rfl
  | throw => rfl
  | other => simp [isTerminal] at h

lemma stream_of_not_shapesPath (o side : Outcome) {s : Statement} (h : s.shapesPath = false) :
    s.stream o side = [] := by
  cases s with
  | other => rfl
  | conditional => simp [shapesPath] at h
  | guarded => simp [shapesPath] at h
  | ret => simp [shapesPath] at h
  | throw => simp [shapesPath] at h

end Statement

/-- Can the node be walked? -/
def Node.hasBody : Node → Bool
  | .function _ => true
  | .statement s => s.isDecision

/-- The stream of an outcome below a node; the function itself is no event. -/
def Node.stream (o : Outcome) : Node → List Statement
  | .function f => streamOf o .success f.body
  | .statement s => s.stream o .success

/-! ### Feeding -/

namespace Collection

/-- Takes in one event: it goes to the open branch, and a terminal closes that
branch. -/
def take (c : Collection) (s : Statement) : Collection :=
  if s.isTerminal then (c.extend s).close else c.extend s

/-- Takes in events one after the other. -/
def feed (c : Collection) (events : List Statement) : Collection :=
  events.foldl take c

@[simp] lemma feed_nil (c : Collection) : c.feed [] = c := rfl

lemma feed_cons (c : Collection) (s : Statement) (events : List Statement) :
    c.feed (s :: events) = (c.take s).feed events := rfl

lemma feed_append (c : Collection) (first later : List Statement) :
    c.feed (first ++ later) = (c.feed first).feed later := by
  rw [feed, List.foldl_append]; rfl

lemma feed_singleton_of_isTerminal (c : Collection) {s : Statement}
    (h : s.isTerminal = true) : c.feed [s] = (c.extend s).close := by
  rw [feed_cons, feed_nil, take, if_pos h]

lemma feed_singleton_of_isDecision (c : Collection) {s : Statement}
    (h : s.isDecision = true) : c.feed [s] = c.extend s := by
  rw [feed_cons, feed_nil, take, Statement.isTerminal_of_isDecision h]; rfl

/-- Appending to the last row, said without the recursion. -/
lemma appendToLast_eq (s : Statement) (rows : List (List Statement)) :
    appendToLast s rows = rows.dropLast ++ [rows.getLast?.getD [] ++ [s]] := by
  induction rows with
  | nil => rfl
  | cons row rows ih =>
      cases rows with
      | nil => rfl
      | cons next rows => simp [appendToLast, ih]

lemma map_appendToLast (g : Statement → Statement) (s : Statement) (rows : List (List Statement)) :
    (appendToLast s rows).map (List.map g) = appendToLast (g s) (rows.map (List.map g)) := by
  simp only [appendToLast_eq, List.map_append, List.map_dropLast, List.map_cons, List.map_nil,
    List.getLast?_map]
  cases rows.getLast? <;> rfl

lemma flatten_appendToLast (s : Statement) (rows : List (List Statement)) :
    (appendToLast s rows).flatten = rows.flatten ++ [s] := by
  induction rows with
  | nil => rfl
  | cons row rows ih =>
      cases rows with
      | nil => simp [appendToLast]
      | cons next rows => simpa [appendToLast] using ih

lemma length_appendToLast (s : Statement) (rows : List (List Statement)) :
    (appendToLast s rows).length = max 1 rows.length := by
  rw [appendToLast_eq, List.length_append, List.length_dropLast, List.length_singleton]
  omega

/-- Feeding appends to the concatenation of the rows. -/
lemma flatten_rows_feed (c : Collection) (events : List Statement) :
    (c.feed events).rows.flatten = c.rows.flatten ++ events := by
  induction events generalizing c with
  | nil => simp
  | cons s events ih =>
      rw [feed_cons, ih, take]
      split <;> simp [close, extend, flatten_appendToLast]

/-- The first event opens a row, and every terminal one more. -/
lemma length_rows_feed (c : Collection) (events : List Statement) :
    (c.feed events).rows.length =
      (if events = [] then c.rows.length else max 1 c.rows.length)
        + events.countP Statement.isTerminal := by
  induction events generalizing c with
  | nil => simp
  | cons s events ih =>
      rw [feed_cons, ih, take, List.countP_cons, if_neg (List.cons_ne_nil s events)]
      by_cases h : s.isTerminal = true
      · simp only [h, if_true, close, extend, List.length_append, length_appendToLast,
          List.length_singleton]
        split <;> omega
      · simp only [h, Bool.false_eq_true, if_false, extend, length_appendToLast]
        split <;> omega

end Collection

namespace Accumulator

/-- The collection of an outcome. -/
def collection (a : Accumulator) : Outcome → Collection
  | .success => a.success
  | .failure => a.failure

/-- Feeds each collection the events meant for it. -/
def feed (a : Accumulator) (events : Outcome → List Statement) : Accumulator :=
  { a with
    success := a.success.feed (events .success)
    failure := a.failure.feed (events .failure) }

lemma feed_feed (a : Accumulator) (first later : Outcome → List Statement) :
    (a.feed first).feed later = a.feed fun o => first o ++ later o := by
  simp only [feed, Collection.feed_append]

@[simp] lemma collection_feed (a : Accumulator) (events : Outcome → List Statement)
    (o : Outcome) : (a.feed events).collection o = (a.collection o).feed (events o) := by
  cases o <;> rfl

@[simp] lemma function_feed (a : Accumulator) (events : Outcome → List Statement) :
    (a.feed events).function = a.function := rfl

end Accumulator

/-! ### The walk feeds the streams -/

lemma shapingCount_eq_zero_iff (ss : List Statement) :
    shapingCount ss = 0 ↔ ss.any Statement.shapesPath = false := by
  rw [shapingCount, List.countP_eq_zero, List.any_eq_false]

/-- Entering a decision feeds it to the success side, and to the failure side if
it can fail. -/
lemma Walked.enter_accumulator (w : Walked) {s : Statement} (h : s.isDecision = true)
    (context : Context) (depth : Int) (body : List Statement) :
    (w.enter s context depth body s.onFailure).accumulator =
      w.accumulator.feed fun o => if o = .success || s.canFail then [s] else [] := by
  by_cases hf : s.canFail = true
  · have hc : shapingCount s.onFailure ≠ 0 := by
      rw [Ne, shapingCount_eq_zero_iff]
      simpa [Statement.canFail] using hf
    simp [enter, hc, hf, Accumulator.modify, Accumulator.feed,
      Collection.feed_singleton_of_isDecision _ h]
  · have hc : shapingCount s.onFailure = 0 := by
      rw [shapingCount_eq_zero_iff]
      simpa [Statement.canFail] using hf
    simp [enter, hc, hf, Accumulator.modify, Accumulator.feed,
      Collection.feed_singleton_of_isDecision _ h]

lemma Walked.finish_accumulator (w : Walked) (side : Outcome) {s : Statement}
    (h : s.isTerminal = true) :
    (w.finish side s).accumulator = w.accumulator.feed fun o => if side = o then [s] else [] := by
  cases side <;>
    simp [finish, Accumulator.modify, Accumulator.feed, Collection.feed_singleton_of_isTerminal _ h]

lemma walkStatement_of_isDecision (side : Outcome) (context : Context) (depth : Int)
    {s : Statement} (h : s.isDecision = true) (w : Walked) :
    walkStatement side context depth s w = walkSide .failure depth s.onFailure
      (walkSide .success depth s.onSuccess (w.enter s context depth s.onSuccess s.onFailure)) := by
  cases s with
  | conditional => rw [walkStatement]; rfl
  | guarded => rw [walkStatement]; rfl
  | ret => simp [Statement.isDecision] at h
  | throw => simp [Statement.isDecision] at h
  | other => simp [Statement.isDecision] at h

lemma walkStatement_of_isTerminal (side : Outcome) (context : Context) (depth : Int)
    {s : Statement} (h : s.isTerminal = true) (w : Walked) :
    walkStatement side context depth s w = w.finish side s := by
  cases s with
  | ret => rw [walkStatement]
  | throw => rw [walkStatement]
  | conditional => simp [Statement.isTerminal] at h
  | guarded => simp [Statement.isTerminal] at h
  | other => simp [Statement.isTerminal] at h

lemma walkStatement_of_not_shapesPath (side : Outcome) (context : Context) (depth : Int)
    {s : Statement} (h : s.shapesPath = false) (w : Walked) :
    walkStatement side context depth s w = w := by
  cases s with
  | other => rw [walkStatement]
  | conditional => simp [Statement.shapesPath] at h
  | guarded => simp [Statement.shapesPath] at h
  | ret => simp [Statement.shapesPath] at h
  | throw => simp [Statement.shapesPath] at h

/-- If every statement of a side feeds its stream, so does the side. -/
lemma walkSide_accumulator_of_forall (side : Outcome) (depth : Int) {ss : List Statement}
    (h : ∀ s ∈ ss, ∀ (context : Context) (depth : Int) (w : Walked),
      (walkStatement side context depth s w).accumulator =
        w.accumulator.feed fun o => s.stream o side) (w : Walked) :
    (walkSide side depth ss w).accumulator =
      w.accumulator.feed fun o => streamOf o side ss := by
  induction ss generalizing w with
  | nil => rfl
  | cons s ss ih =>
      have hs := h s (by simp)
      have hss := ih fun t ht => h t (by simp [ht])
      rw [walkSide, hss, hs, Accumulator.feed_feed]
      rfl

/-- The walk of a statement feeds its streams. -/
lemma walkStatement_accumulator (side : Outcome) (context : Context) (depth : Int)
    (s : Statement) (w : Walked) :
    (walkStatement side context depth s w).accumulator =
      w.accumulator.feed fun o => s.stream o side := by
  induction s using Statement.treeInd generalizing side context depth w with
  | decision s h ihb ihf =>
      -- the mark of the decision, its body and its failure side, in this order
      have hb := walkSide_accumulator_of_forall .success depth
        fun t ht context depth w => ihb t ht .success context depth w
      have hf := walkSide_accumulator_of_forall .failure depth
        fun t ht context depth w => ihf t ht .failure context depth w
      rw [walkStatement_of_isDecision side context depth h, hf, hb, w.enter_accumulator h,
        Accumulator.feed_feed, Accumulator.feed_feed]
      simp only [Statement.stream_of_isDecision _ side h, List.append_assoc]
  | terminal s h =>
      rw [walkStatement_of_isTerminal side context depth h, w.finish_accumulator side h]
      simp only [Statement.stream_of_isTerminal _ side h]
  | other s h =>
      rw [walkStatement_of_not_shapesPath side context depth h]
      simp only [Statement.stream_of_not_shapesPath _ side h]
      rfl

/-- The walk of a side feeds the streams of its statements. -/
lemma walkSide_accumulator (side : Outcome) (depth : Int) (ss : List Statement) (w : Walked) :
    (walkSide side depth ss w).accumulator =
      w.accumulator.feed fun o => streamOf o side ss :=
  walkSide_accumulator_of_forall side depth
    (fun s _ context depth w => walkStatement_accumulator side context depth s w) w

/-- A node with a body can be walked, and its walk feeds its streams. -/
lemma walk_eq_ok (n : Node) (a : Accumulator) (context : Context) (depth : Int)
    (h : n.hasBody = true) :
    ∃ w, walk n a context depth = .ok w ∧ w.accumulator = a.feed fun o => n.stream o := by
  cases n with
  | function f => exact ⟨_, rfl, walkSide_accumulator .success depth f.body _⟩
  | statement s =>
      refine ⟨walkStatement .success context depth s ⟨a, []⟩, ?_, ?_⟩
      · cases s <;> simp_all [walk, Node.hasBody, Statement.isDecision]
      · exact walkStatement_accumulator .success context depth s _

/-- A node without a body cannot be walked. -/
lemma walk_eq_error (s : Statement) (a : Accumulator) (context : Context) (depth : Int)
    (h : s.isDecision = false) :
    walk (.statement s) a context depth = .error (.noBody s) := by
  cases s <;> simp_all [walk, Statement.isDecision]

/-- The branches of a function are its streams, fed into a fresh accumulator. -/
lemma extractBranches_accumulator (f : Function) :
    (extractBranches f).accumulator =
      (Accumulator.ofFunction f).feed fun o => streamOf o .success f.body :=
  walkSide_accumulator .success 0 f.body _

/-- The rows of a collection of a function, put together, are its stream. -/
lemma extractBranches_flatten (f : Function) (o : Outcome) :
    ((extractBranches f).accumulator.collection o).rows.flatten = streamOf o .success f.body := by
  have hempty : ((Accumulator.ofFunction f).collection o).rows = [] := by cases o <;> rfl
  rw [extractBranches_accumulator, Accumulator.collection_feed, Collection.flatten_rows_feed,
    hempty]
  rfl

/-- **The walk is a feed.** Walking a function, a conditional or a guarded block
on any accumulator leaves it as feeding the two streams of the node into its two
collections does. On a fresh accumulator the rows of a collection put together
are its stream, and there is one row for each terminal of the stream and one
more, unless the stream is empty. -/
theorem walk_feeds_streams (n : Node) (context : Context) (depth : Int)
    (h : n.hasBody = true) :
    (∀ a, ∃ w, walk n a context depth = .ok w ∧
      w.accumulator.function = a.function ∧
      w.accumulator.success = a.success.feed (n.stream .success) ∧
      w.accumulator.failure = a.failure.feed (n.stream .failure)) ∧
    (∀ f, ∃ w, walk n (.ofFunction f) context depth = .ok w ∧ ∀ o,
      (w.accumulator.collection o).rows.flatten = n.stream o ∧
      (w.accumulator.collection o).rows.length =
        if n.stream o = [] then 0 else (n.stream o).countP Statement.isTerminal + 1) := by
  refine ⟨fun a => ?_, fun f => ?_⟩
  · obtain ⟨w, hw, hacc⟩ := walk_eq_ok n a context depth h
    refine ⟨w, hw, ?_⟩
    rw [hacc]
    exact ⟨rfl, rfl, rfl⟩
  · obtain ⟨w, hw, hacc⟩ := walk_eq_ok n (.ofFunction f) context depth h
    refine ⟨w, hw, fun o => ?_⟩
    have hempty : ((Accumulator.ofFunction f).collection o).rows = [] := by cases o <;> rfl
    rw [hacc, Accumulator.collection_feed, Collection.flatten_rows_feed,
      Collection.length_rows_feed, hempty]
    refine ⟨rfl, ?_⟩
    by_cases hs : n.stream o = []
    · simp [hs]
    · simp [hs, Nat.add_comm]

/-- A guarded block whose handler holds a conditional with terminals on both
sides: the nested decision records itself and its first terminal on the success
side. -/
theorem walk_feeds_streams_nested :
    let inner := Statement.conditional "x" [.ret none 4 "Return"] [.throw none 6 "Raise"] 3 "If"
    let outer := Statement.guarded [.other "Expr" 2] [inner, .other "Pass" 7] [] 1 "Try"
    (Node.statement outer).hasBody = true ∧
      (Node.statement outer).stream .success = [outer, inner, .ret none 4 "Return"] ∧
      (Node.statement outer).stream .failure = [outer, inner, .throw none 6 "Raise"] ∧
      ∀ a, ∃ w, walk (.statement outer) a .inTry 1 = .ok w ∧
        w.accumulator.function = a.function ∧
        w.accumulator.success = a.success.feed [outer, inner, .ret none 4 "Return"] ∧
        w.accumulator.failure = a.failure.feed [outer, inner, .throw none 6 "Raise"] := by
  refine ⟨rfl, rfl, rfl, ?_⟩
  exact (walk_feeds_streams (.statement _) .inTry 1 rfl).1

end Branchwise
