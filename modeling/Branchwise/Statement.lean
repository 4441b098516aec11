/-
Statement trees: what a function body looks like to the branch walker. There are
two decisions, two terminals, and everything else.

* `Statement`: the five kinds, each with a line and a label.
* `Statement.shapesPath`: all kinds but `other`.
* `Function`: a function ready to be walked.
-/
namespace Branchwise

/-- A statement as the walker sees it. -/
inductive Statement where
  /-- A decision on a test; a further test arrives as a single statement in
  `orelse`. -/
  | conditional (test : String) (body orelse : List Statement) (line : Int) (label : String)
  /-- A block guarded by handlers, whose bodies are concatenated. -/
  | guarded (body handlers : List Statement) (handlerTypes : List String) (line : Int)
      (label : String)
  | ret (value : Option String) (line : Int) (label : String)
  | throw (exc : Option String) (line : Int) (label : String)
  /-- Any statement that does not shape branches. -/
  | other (label : String) (line : Int)
  deriving Repr, Inhabited

namespace Statement

/-- The label of a statement. -/
def label : Statement → String
  | conditional _ _ _ _ l | guarded _ _ _ _ l | ret _ _ l | throw _ _ l | other l _ => l

/-- The line of a statement. -/
def line : Statement → Int
  | conditional _ _ _ n _ | guarded _ _ _ n _ | ret _ n _ | throw _ n _ | other _ n => n

/-- Does the statement end a branch? -/
def isTerminal : Statement → Bool
  | ret .. | throw .. => true
  | _ => false

/-- Does the statement shape branches? -/
def shapesPath : Statement → Bool
  | other .. => false
  | _ => true

/-- The name of the kind of a statement. -/
def kind : Statement → String
  | conditional .. => "conditional"
  | guarded .. => "guarded"
  | ret .. => "return"
  | throw .. => "throw"
  | other .. => "other"

end Statement

/-- A function ready to be walked. -/
structure Function where
  name : String
  qualifiedName : String
  parameters : List String
  body : List Statement
  line : Int
  isAsync : Bool
  isMethod : Bool
  deriving Repr, Inhabited

end Branchwise
