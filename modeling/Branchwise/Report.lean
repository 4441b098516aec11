/-
Functions and branches as JSON values.

* `Statement.report`: kind, label, line and the text of the statement itself.
* `Branch.report`, `Accumulator.report`: a branch with its steps, and a function
  with its branches.
-/
import Branchwise.Branch.Collection
import Branchwise.Json

namespace Branchwise

namespace Statement

/-- The field with the text of the statement itself. -/
def payload : Statement → List Field
  | conditional test _ _ _ _ => [.mk "test" (.text test)]
  | guarded _ _ types _ _ => [.mk "handler_types" (.texts types)]
  | ret value _ _ => [.mk "value" (.optional value)]
  | throw exc _ _ => [.mk "exc" (.optional exc)]
  | other _ _ => []

/-- The fields of a statement. -/
def fields (s : Statement) : List Field :=
  [.mk "kind" (.text s.kind), .mk "label" (.text s.label), .mk "line" (.int s.line)] ++ s.payload

/-- A statement without the statements below it. -/
def report (s : Statement) : Json :=
  .object s.fields

end Statement

/-- A branch with its steps. -/
def Branch.report (b : Branch) : Json :=
  .object
    [.mk "outcome" (.text b.outcome.word), .mk "label" (.text b.label),
      .mk "complete" (.bool b.isComplete), .mk "steps" (.array (b.steps.map Statement.report))]

/-- The fields of a function, without its body. -/
def Function.fields (f : Function) : List Field :=
  [.mk "name" (.text f.name), .mk "qualified_name" (.text f.qualifiedName),
    .mk "parameters" (.texts f.parameters), .mk "line" (.int f.line),
    .mk "is_async" (.bool f.isAsync), .mk "is_method" (.bool f.isMethod)]

/-- A function with its branches. -/
def Accumulator.report (a : Accumulator) : Json :=
  .object (a.function.fields ++ [.mk "branches" (.array (a.branches.map Branch.report))])

end Branchwise
