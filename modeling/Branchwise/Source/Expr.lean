/-
Expressions of the Python language, without positions.

* `Constant`: literals. Texts are lists of code points, since escapes can
  denote lone surrogates.
* `Expr` and its parts: dictionary entries, comprehension clauses, arguments,
  comparisons and the parameters of a lambda.
* `Expr.isTarget`, `Expr.isSingleTarget`, `Expr.isDeletable`: which expressions
  may be assigned to, be assigned to by an operator or an annotation, and be
  deleted.
-/
import Branchwise.Decimal.Basic

namespace Branchwise.Source

/-- Literal values. -/
inductive Constant where
  | noneLit | trueLit | falseLit | ellipsis
  | int (value : Nat)
  | float (value : Decimal)
  | imaginary (value : Decimal)
  /-- A text; `marked` if its first literal has the prefix `u`. -/
  | text (marked : Bool) (codes : List Nat)
  | bytes (values : List Nat)
  deriving Repr, DecidableEq

/-- `and` and `or`. -/
inductive BoolOp where
  | and | or
  deriving Repr, DecidableEq

/-- Operators with one operand. -/
inductive UnaryOp where
  | not | plus | minus | invert
  deriving Repr, DecidableEq

/-- Operators with two operands. -/
inductive BinaryOp where
  | add | sub | mul | matMul | div | mod | floorDiv | pow | shiftLeft | shiftRight | bitOr | bitXor
  | bitAnd
  deriving Repr, DecidableEq

/-- Comparison operators. -/
inductive CompareOp where
  | eq | notEq | less | lessEq | greater | greaterEq | is | isNot | isIn | notIn
  deriving Repr, DecidableEq

/-- How a replacement field is converted to text. -/
inductive Conversion where
  | str | repr | ascii
  deriving Repr, DecidableEq

mutual

/-- Expressions. -/
inductive Expr where
  | name (id : String)
  | constant (value : Constant)
  /-- A formatted text: constant texts and replacement fields. -/
  | joined (parts : List Expr)
  /-- A replacement field; its format is a formatted text. -/
  | field (value : Expr) (conversion : Option Conversion) (format : Option Expr)
  | named (target : String) (value : Expr)
  | boolean (op : BoolOp) (operands : List Expr)
  | binary (op : BinaryOp) (left right : Expr)
  | unary (op : UnaryOp) (operand : Expr)
  | compare (left : Expr) (rest : List Comparison)
  | lambda (params : Params) (body : Expr)
  | ifElse (body test orelse : Expr)
  | tuple (items : List Expr)
  | list (items : List Expr)
  | set (items : List Expr)
  | dict (entries : List Entry)
  | generator (item : Expr) (clauses : List Clause)
  | listComp (item : Expr) (clauses : List Clause)
  | setComp (item : Expr) (clauses : List Clause)
  | dictComp (key value : Expr) (clauses : List Clause)
  | await (value : Expr)
  | yield (value : Option Expr)
  | yieldFrom (value : Expr)
  | call (function : Expr) (args : List Expr) (keywords : List Argument)
  | member (value : Expr) (attr : String)
  | subscript (value index : Expr)
  | slice (lower upper step : Option Expr)
  | starred (value : Expr)

/-- An entry of a dictionary display. -/
inductive Entry where
  | pair (key value : Expr)
  | spread (value : Expr)

/-- A `for` clause of a comprehension with its conditions. -/
inductive Clause where
  | mk (isAsync : Bool) (target source : Expr) (conditions : List Expr)

/-- A keyword argument. -/
inductive Argument where
  | keyword (name : String) (value : Expr)
  | spread (value : Expr)

/-- A further operand of a comparison. -/
inductive Comparison where
  | mk (op : CompareOp) (operand : Expr)

/-- A parameter and its default. -/
inductive Param where
  | mk (name : String) (fallback : Option Expr)

/-- The parameters of a function: by position only, by position or name, the
one that takes further positions, by name only, and the one that takes further
names. -/
inductive Params where
  | mk (positional regular : List Param) (rest : Option String) (named : List Param)
      (extra : Option String)

end

instance : Inhabited Expr := ⟨.name ""⟩

namespace Param

/-- The name of a parameter. -/
def name : Param → String
  | mk name _ => name

end Param

namespace Params

/-- The names of the parameters that are passed by position. -/
def positions : Params → List String
  | mk positional regular _ _ _ => (positional ++ regular).map Param.name

/-- The names of the other parameters, starred as they are written. -/
def others : Params → List String
  | mk _ _ rest named extra =>
    (rest.map ("*" ++ ·)).toList ++ named.map Param.name ++ (extra.map ("**" ++ ·)).toList

end Params

namespace Expr

mutual

/-- May the expression be assigned to? -/
def isTarget : Expr → Bool
  | name _ | member _ _ | subscript _ _ => true
  | starred value => value.isTarget
  | tuple items | list items => areTargets items
  | _ => false

/-- May all the expressions be assigned to? -/
def areTargets : List Expr → Bool
  | [] => true
  | e :: es => e.isTarget && areTargets es

end

/-- May the expression be annotated, or be assigned to by an operator? -/
def isSingleTarget : Expr → Bool
  | name _ | member _ _ | subscript _ _ => true
  | _ => false

mutual

/-- May the expression be deleted? -/
def isDeletable : Expr → Bool
  | name _ | member _ _ | subscript _ _ => true
  | tuple items | list items => areDeletable items
  | _ => false

/-- May all the expressions be deleted? -/
def areDeletable : List Expr → Bool
  | [] => true
  | e :: es => e.isDeletable && areDeletable es

end

end Expr

end Branchwise.Source
