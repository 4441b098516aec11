/-
Branch collections: the branches of one outcome in the order of discovery, the
last of them open.

* `Collection.extend`: a statement goes to the open branch, which is opened if
  there is none.
* `Collection.close`: a new, empty branch becomes the open one.
* `Accumulator`: the two collections of one function.
* `Accumulator.branches`: success before failure, empty branches left out.
-/
import Branchwise.Branch.Basic

namespace Branchwise

/-- Branches of one outcome; the last is the open one. -/
structure Collection where
  outcome : Outcome
  rows : List (List Statement)
  deriving Repr, Inhabited

namespace Collection

/-- A collection in which nothing was recorded. -/
def empty (outcome : Outcome) : Collection := ⟨outcome, []⟩

/-- Appends a statement to the last of some rows, opening one if there is
none. -/
def appendToLast (s : Statement) : List (List Statement) → List (List Statement)
  | [] => [[s]]
  | [row] => [row ++ [s]]
  | row :: next :: rows => row :: appendToLast s (next :: rows)

/-- Appends a statement to the open branch. -/
def extend (c : Collection) (s : Statement) : Collection :=
  { c with rows := appendToLast s c.rows }

/-- Closes the open branch and opens an empty one. -/
def close (c : Collection) : Collection :=
  { c with rows := c.rows ++ [[]] }

/-- All branches, the open one included. -/
def branches (c : Collection) : List Branch :=
  c.rows.map (⟨c.outcome, ·⟩)

/-- The open branch, or `none` before anything was recorded. -/
def current? (c : Collection) : Option Branch :=
  c.branches.getLast?

/-- The number of branches. -/
def size (c : Collection) : Nat := c.rows.length

/-- The collection as text. -/
def describe (c : Collection) : String :=
  "BranchCollection(" ++ c.outcome.word ++ ", branches=" ++ toString c.size ++ ")"

end Collection

/-- The branches of one function. -/
structure Accumulator where
  function : Function
  success : Collection
  failure : Collection
  deriving Repr, Inhabited

namespace Accumulator

/-- No branches yet. -/
def ofFunction (f : Function) : Accumulator :=
  ⟨f, .empty .success, .empty .failure⟩

/-- Applies a change to the collection of one outcome. -/
def modify (a : Accumulator) (outcome : Outcome) (change : Collection → Collection) :
    Accumulator :=
  match outcome with
  | .success => { a with success := change a.success }
  | .failure => { a with failure := change a.failure }

/-- The branches that are not empty, success before failure. -/
def branches (a : Accumulator) : List Branch :=
  (a.success.branches ++ a.failure.branches).filter fun b => !b.steps.isEmpty

/-- The accumulator as text. -/
def describe (a : Accumulator) : String :=
  "BranchAccumulator(" ++ a.function.name ++ ", success=" ++ toString a.success.size
    ++ ", failure=" ++ toString a.failure.size ++ ")"

end Accumulator

end Branchwise
