/-
Statements of the Python language, as far as branches, exports and function
signatures depend on them. Each carries the line that it starts on; a decorated
definition starts at its own keyword.

* `Stmt`, `Handler`: the statements. `block` holds the statements inside a loop,
  a `with` or a `match`, and `simple` stands for all that hold none.
* `Stmt.label`: the name of the kind of a statement.
-/
import Branchwise.Source.Expr

namespace Branchwise.Source

/-- Compound statements whose inside does not shape branches. -/
inductive BlockKind where
  | forLoop | asyncFor | whileLoop | withBlock | asyncWith | matchBlock
  deriving Repr, DecidableEq

/-- Statements that hold no others. -/
inductive SimpleKind where
  | delete | augAssign | importNames | importFrom | globalNames | nonlocalNames | expression
  | pass | breakLoop | continueLoop | assertion
  deriving Repr, DecidableEq

mutual

/-- Statements. -/
inductive Stmt where
  | ifElse (line : Nat) (test : Expr) (body orelse : List Stmt)
  /-- A `try`; `grouped` if its handlers take exception groups. -/
  | guard (line : Nat) (grouped : Bool) (body : List Stmt) (handlers : List Handler)
      (orelse final : List Stmt)
  | ret (line : Nat) (value : Option Expr)
  | raise (line : Nat) (exc cause : Option Expr)
  | function (line : Nat) (isAsync : Bool) (name : String) (params : Params) (body : List Stmt)
  | classDef (line : Nat) (name : String) (body : List Stmt)
  | assign (line : Nat) (targets : List Expr) (value : Expr)
  | annotated (line : Nat) (target : Expr) (value : Option Expr)
  | block (kind : BlockKind) (line : Nat) (body : List Stmt)
  | simple (kind : SimpleKind) (line : Nat)

/-- An exception handler: the type it takes, if it names one, and its body. -/
inductive Handler where
  | mk (type : Option Expr) (body : List Stmt)

end

/-- The name of the kind. -/
def BlockKind.label : BlockKind → String
  | forLoop => "For"
  | asyncFor => "AsyncFor"
  | whileLoop => "While"
  | withBlock => "With"
  | asyncWith => "AsyncWith"
  | matchBlock => "Match"

/-- The name of the kind. -/
def SimpleKind.label : SimpleKind → String
  | delete => "Delete"
  | augAssign => "AugAssign"
  | importNames => "Import"
  | importFrom => "ImportFrom"
  | globalNames => "Global"
  | nonlocalNames => "Nonlocal"
  | expression => "Expr"
  | pass => "Pass"
  | breakLoop => "Break"
  | continueLoop => "Continue"
  | assertion => "Assert"

namespace Stmt

/-- The name of the kind of a statement. -/
def label : Stmt → String
  | ifElse .. => "If"
  | guard _ grouped .. => if grouped then "TryStar" else "Try"
  | ret .. => "Return"
  | raise .. => "Raise"
  | function _ isAsync .. => if isAsync then "AsyncFunctionDef" else "FunctionDef"
  | classDef .. => "ClassDef"
  | assign .. => "Assign"
  | annotated .. => "AnnAssign"
  | block kind .. => kind.label
  | simple kind _ => kind.label

/-- The line that a statement starts on. -/
def line : Stmt → Nat
  | ifElse l .. | guard l .. | ret l _ | raise l .. | function l .. | classDef l .. | assign l ..
  | annotated l .. | block _ l _ | simple _ l => l

end Stmt

end Branchwise.Source
