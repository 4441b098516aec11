/-
Branch collections as logs: what was recorded is neither changed nor taken back.

* `Change`, `Collection.change`, `Collection.changeAll`: the two operations on a collection, and
  any number of them.
* `sinceClose`: what changes have recorded since the last close.
* `flatten_rows_changeAll`, `size_changeAll_empty`, `current?_changeAll_empty`: a collection
  is the log of its changes.
* `Grows`: rows that were only added to; the rows of a collection grow with each change and
  with each event of a walk.
* `Step`, `Accumulator.perform`, `Accumulator.performAll`: a session on one accumulator, with
  walks and changes in any order.
* `collections_append_only`: **both collections are logs**, through every session.
-/
import Mathlib.Data.List.DropRight
import Branchwise.Proofs.Tidy

namespace Branchwise

/-! ### Changes of a collection -/

/-- One operation on a collection. -/
inductive Change where
  | extend (s : Statement)
  | close

namespace Change

/-- The statement that a change records. -/
def statement? : Change → Option Statement
  | extend s => some s
  | close => none

/-- Does the change close the open branch? -/
def isClose : Change → Bool
  | extend _ => false
  | close => true

end Change

/-- The statements that the changes have recorded since the last close, or all of them if
there was none. -/
def sinceClose (changes : List Change) : List Statement :=
  (changes.rtakeWhile fun x => !x.isClose).filterMap Change.statement?

lemma sinceClose_extend (changes : List Change) (s : Statement) :
    sinceClose (changes ++ [.extend s]) = sinceClose changes ++ [s] := by
  rw [sinceClose, List.rtakeWhile_concat_pos _ _ _ (by rfl), List.filterMap_append]
  rfl

lemma sinceClose_close (changes : List Change) : sinceClose (changes ++ [.close]) = [] := by
  rw [sinceClose, List.rtakeWhile_concat_neg _ _ _ (by simp [Change.isClose])]
  rfl

namespace Collection

/-- Applies a change. -/
def change (c : Collection) : Change → Collection
  | .extend s => c.extend s
  | .close => c.close

/-- Applies changes, one after the other. -/
def changeAll (c : Collection) (changes : List Change) : Collection :=
  changes.foldl change c

lemma changeAll_cons (c : Collection) (x : Change) (changes : List Change) :
    c.changeAll (x :: changes) = (c.change x).changeAll changes := rfl

lemma changeAll_concat (c : Collection) (changes : List Change) (x : Change) :
    c.changeAll (changes ++ [x]) = (c.changeAll changes).change x := by
  rw [changeAll, List.foldl_concat]
  rfl

lemma outcome_changeAll (c : Collection) (changes : List Change) :
    (c.changeAll changes).outcome = c.outcome := by
  induction changes generalizing c with
  | nil => rfl
  | cons x changes ih =>
      rw [changeAll_cons, ih]
      cases x <;> rfl

lemma flatten_rows_change (c : Collection) (x : Change) :
    (c.change x).rows.flatten = c.rows.flatten ++ x.statement?.toList := by
  cases x with
  | extend s => exact flatten_appendToLast s c.rows
  | close => simp [change, close, Change.statement?]

/-- **The rows put together are the statements that were recorded**, in their order. -/
lemma flatten_rows_changeAll (c : Collection) (changes : List Change) :
    (c.changeAll changes).rows.flatten =
      c.rows.flatten ++ changes.filterMap Change.statement? := by
  induction changes generalizing c with
  | nil => simp [changeAll]
  | cons x changes ih =>
      rw [changeAll_cons, ih, flatten_rows_change, List.append_assoc]
      cases x <;> rfl

/-- A change opens a row if there is none or if it closes one. -/
lemma size_change (c : Collection) (x : Change) :
    (c.change x).size = if x.isClose then c.size + 1 else max 1 c.size := by
  cases x with
  | extend s => exact length_appendToLast s c.rows
  | close => simp [change, close, size, Change.isClose]

/-- Once there is a row, only closing adds to their number. -/
lemma size_changeAll {c : Collection} (h : 1 ≤ c.size) (changes : List Change) :
    (c.changeAll changes).size = c.size + changes.countP Change.isClose := by
  induction changes generalizing c with
  | nil => rfl
  | cons x changes ih =>
      have hsize := c.size_change x
      rw [changeAll_cons, List.countP_cons]
      split at hsize
      · next hclose =>
        rw [ih (by omega), hsize, if_pos hclose]
        omega
      · next hclose =>
        rw [ih (by omega), hsize, if_neg hclose]
        omega

/-- The first change of a new collection opens a row, whichever it is. -/
lemma size_changeAll_empty_cons (o : Outcome) (x : Change) (changes : List Change) :
    ((empty o).changeAll (x :: changes)).size = 1 + changes.countP Change.isClose := by
  have hfirst : ((empty o).change x).size = 1 := by cases x <;> rfl
  rw [changeAll_cons, size_changeAll (by omega), hfirst]

/-- **The number of rows of a new collection** after some changes. -/
lemma size_changeAll_empty (o : Outcome) (changes : List Change) :
    ((empty o).changeAll changes).size = changes.countP Change.isClose +
      if changes.head?.any (fun x => !x.isClose) then 1 else 0 := by
  cases changes with
  | nil => rfl
  | cons x changes =>
      rw [size_changeAll_empty_cons, List.countP_cons, List.head?_cons, Option.any_some]
      cases x with
      | extend s => exact Nat.add_comm _ _
      | close => exact Nat.add_comm _ _

/-- The open row of a new collection after some changes. -/
lemma openRow_changeAll_empty (o : Outcome) (changes : List Change) :
    ((empty o).changeAll changes).rows.getLast?.getD [] = sinceClose changes := by
  induction changes using List.reverseRecOn with
  | nil => rfl
  | append_singleton changes x ih =>
      rw [changeAll_concat]
      cases x with
      | extend s => rw [change, rows_extend, List.getLast?_concat, ih, sinceClose_extend]; rfl
      | close => rw [change, close, List.getLast?_concat, sinceClose_close]; rfl

/-- **The open branch of a new collection** holds what was recorded since the last close;
there is none before the first change. -/
lemma current?_changeAll_empty (o : Outcome) (changes : List Change) :
    ((empty o).changeAll changes).current? =
      if changes.isEmpty then none else some ⟨o, sinceClose changes⟩ := by
  cases changes with
  | nil => rfl
  | cons x changes =>
      have hrow := openRow_changeAll_empty o (x :: changes)
      have hsize := size_changeAll_empty_cons o x changes
      rw [current?, branches, List.getLast?_map, outcome_changeAll]
      cases hlast : ((empty o).changeAll (x :: changes)).rows.getLast? with
      | none =>
          rw [size, List.getLast?_eq_none_iff.mp hlast] at hsize
          rw [List.length_nil] at hsize
          omega
      | some row =>
          rw [hlast, Option.getD_some] at hrow
          rw [hrow]
          rfl

end Collection

/-! ### Growing rows -/

/-- From `old` to `new`, rows were only added to: every row but the last is unchanged, and the
last one is the start of the row that is now at its place. -/
def Grows (old new : List (List Statement)) : Prop :=
  ∀ rows last, old = rows ++ [last] → ∃ more later, new = rows ++ (last ++ more) :: later

namespace Grows

lemma refl (rows : List (List Statement)) : Grows rows rows :=
  fun front last h => ⟨[], [], by rw [h, List.append_nil]⟩

lemma trans {old mid new : List (List Statement)} (h : Grows old mid) (h' : Grows mid new) :
    Grows old new := by
  intro rows last hold
  obtain ⟨more, later, hmid⟩ := h rows last hold
  rcases List.eq_nil_or_concat later with rfl | ⟨later, row, rfl⟩
  · obtain ⟨more', later', hnew⟩ := h' rows (last ++ more) hmid
    exact ⟨more ++ more', later', by rw [hnew, List.append_assoc]⟩
  · -- a row behind the old last one is the last now
    obtain ⟨more', later', hnew⟩ := h' (rows ++ (last ++ more) :: later) row (by simp [hmid])
    exact ⟨more, later ++ (row ++ more') :: later', by simp [hnew]⟩

end Grows

namespace Collection

lemma grows_extend (c : Collection) (s : Statement) : Grows c.rows (c.extend s).rows := by
  intro rows last h
  refine ⟨[s], [], ?_⟩
  rw [rows_extend, h, List.dropLast_concat, List.getLast?_concat]
  rfl

lemma grows_close (c : Collection) : Grows c.rows c.close.rows := by
  intro rows last h
  exact ⟨[], [[]], by simp [close, h]⟩

lemma grows_change (c : Collection) (x : Change) : Grows c.rows (c.change x).rows := by
  cases x with
  | extend s => exact c.grows_extend s
  | close => exact c.grows_close

/-- An event of a walk extends, and may close. -/
lemma grows_take (c : Collection) (s : Statement) : Grows c.rows (c.take s).rows := by
  rw [take]
  split
  · exact (c.grows_extend s).trans (c.extend s).grows_close
  · exact c.grows_extend s

/-- All events of a walk together. -/
lemma grows_feed (c : Collection) (events : List Statement) :
    Grows c.rows (c.feed events).rows := by
  induction events generalizing c with
  | nil => exact .refl _
  | cons s events ih =>
      rw [feed_cons]
      exact (c.grows_take s).trans (ih (c.take s))

end Collection

/-! ### Sessions -/

/-- One operation of a session: a call of the walk, or a change of the collection of one
outcome. -/
inductive Step where
  | walk (call : Call)
  | change (o : Outcome) (x : Change)

namespace Accumulator

/-- The accumulator after one operation. -/
def perform (a : Accumulator) : Step → Accumulator
  | .walk call => a.after call
  | .change o x => a.modify o (·.change x)

/-- The accumulator after operations, one after the other. -/
def performAll (a : Accumulator) (steps : List Step) : Accumulator :=
  steps.foldl perform a

/-- The collection of either outcome grows with a walk, which may fail. -/
lemma grows_after (a : Accumulator) (call : Call) (o : Outcome) :
    Grows (a.collection o).rows ((a.after call).collection o).rows := by
  rcases a.after_cases call with h | h
  · rw [h, collection_feed]
    exact (a.collection o).grows_feed _
  · rw [h]
    exact .refl _

/-- **One operation** adds to the collections and does nothing else to them. -/
lemma grows_perform (a : Accumulator) (step : Step) (o : Outcome) :
    Grows (a.collection o).rows ((a.perform step).collection o).rows := by
  cases step with
  | walk call => exact a.grows_after call o
  | change side x =>
      cases side with
      | success =>
          cases o with
          | success => exact a.success.grows_change x
          | failure => exact .refl _
      | failure =>
          cases o with
          | success => exact .refl _
          | failure => exact a.failure.grows_change x

/-- **Any number of operations.** -/
lemma grows_performAll (a : Accumulator) (steps : List Step) (o : Outcome) :
    Grows (a.collection o).rows ((a.performAll steps).collection o).rows := by
  induction steps generalizing a with
  | nil => exact .refl _
  | cons step steps ih => exact (a.grows_perform step o).trans (ih (a.perform step))

end Accumulator

/-- **Branch collections are append-only logs.** After any changes of a new collection its
branches put together are the statements that were recorded, in order; there is one branch for
each close, and one more if the first change was no close; the open branch, once something was
done, holds what was recorded since the last close. Whatever was done in a session on any
accumulator, further operations, one or many, leave all branches but the last of each
collection as they are, and keep the last one as the start of the branch at its place. -/
theorem collections_append_only :
    (∀ (o : Outcome) (changes : List Change),
      let c := (Collection.empty o).changeAll changes
      c.branches.flatMap Branch.steps = changes.filterMap Change.statement? ∧
      c.size = changes.countP Change.isClose
        + (if changes.head?.any (fun x => !x.isClose) then 1 else 0) ∧
      c.current? = if changes.isEmpty then none else some ⟨o, sinceClose changes⟩) ∧
    ∀ (a : Accumulator) (before more : List Step) (o : Outcome),
      Grows ((a.performAll before).collection o).rows
        ((a.performAll (before ++ more)).collection o).rows := by
  refine ⟨fun o changes => ⟨?_, Collection.size_changeAll_empty o changes,
    Collection.current?_changeAll_empty o changes⟩, fun a before more o => ?_⟩
  · have hrows := Collection.flatten_rows_changeAll (.empty o) changes
    rw [Collection.branches, List.flatMap_map]
    simpa [Collection.empty] using hrows
  · have hmore : a.performAll (before ++ more) = (a.performAll before).performAll more :=
      List.foldl_append
    rw [hmore]
    exact (a.performAll before).grows_performAll more o

/-- Closing a new collection opens its first branch. -/
example :
    ((Collection.empty .success).changeAll [.close, .extend (.ret none 1 "Return")]).size = 1 := rfl

end Branchwise
