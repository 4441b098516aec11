/-
Branches: linear sequences of statements, discovered on a success or on a
failure path.

* `Outcome`, `Branch`: the two outcomes and the branches.
* `Branch.terminal?`: the statement that ends a branch; it is complete when
  there is one.
* `Branch.label`, `Branch.describe`: the labels joined, and the branch as text.
-/
import Branchwise.Statement
import Branchwise.Text.Basic

namespace Branchwise

/-- On which kind of path a branch was discovered. -/
inductive Outcome where
  | success
  | failure
  deriving Repr, DecidableEq, Inhabited

/-- The word of an outcome. -/
def Outcome.word : Outcome → String
  | success => "success"
  | failure => "failure"

/-- A path from a function's entry towards a terminal. -/
structure Branch where
  outcome : Outcome
  steps : List Statement
  deriving Repr, Inhabited

namespace Branch

/-- The terminal that ends the branch, if it is not open. -/
def terminal? (b : Branch) : Option Statement :=
  b.steps.getLast?.filter Statement.isTerminal

/-- Does a terminal end the branch? -/
def isComplete (b : Branch) : Bool :=
  b.terminal?.isSome

/-- The labels of the steps, joined by arrows. -/
def label (b : Branch) : String :=
  Text.joinWith "->" (b.steps.map Statement.label)

/-- The branch as text. -/
def describe (b : Branch) : String :=
  "Branch(" ++ b.outcome.word ++ ": " ++ b.label ++ ")"

end Branch

end Branchwise
