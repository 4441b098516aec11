/-
The functions that a module offers.

A module with a literal `__all__` offers what that lists; any other module
offers every name without a leading underscore.

* `Stmt.tree`: a statement as the walker sees it.
* `literalExports?`, `isPrivate`, `Selection.offers`: the rules on names.
* `functions`: the functions of a module that a selection offers, in the order of
  their definitions.
-/
import Branchwise.Source.Module
import Branchwise.Source.Expr.Printer
import Branchwise.Statement

namespace Branchwise.Source

/-! ### Statement trees -/

/-- The text of an expression, with a stand-in for one that has no text. -/
def Expr.shown (e : Expr) : String :=
  e.text.getD "<expression>"

/-- The type that a handler names, if it names one. -/
def Handler.type? : Handler → Option String
  | mk type _ => type.map Expr.shown

mutual

/-- A statement as the walker sees it. An `else` that follows handlers runs when
nothing was raised, so it continues the body. -/
def Stmt.tree : Stmt → Statement
  | .ifElse line test body orelse =>
    .conditional test.shown (trees body) (trees orelse) line "If"
  | s@(.guard line _ body handlers orelse _) =>
    .guarded (trees body ++ trees orelse) (handlerTrees handlers)
      (handlers.filterMap Handler.type?) line s.label
  | .ret line value => .ret (value.map Expr.shown) line "Return"
  | .raise line exc _ => .throw (exc.map Expr.shown) line "Raise"
  | s => .other s.label s.line

/-- Statements as the walker sees them. -/
def trees : List Stmt → List Statement
  | [] => []
  | s :: ss => s.tree :: trees ss

/-- The bodies of all handlers, one after the other. -/
def handlerTrees : List Handler → List Statement
  | [] => []
  | .mk _ body :: hs => trees body ++ handlerTrees hs

end

/-! ### Names -/

/-- Is the expression this name? -/
def Expr.isName (id : String) : Expr → Bool
  | .name n => n == id
  | _ => false

/-- The texts among the elements of a list or a tuple, by their code points. -/
def Expr.literalNames? : Expr → Option (List (List Nat))
  | .list es | .tuple es => some (es.filterMap fun
    | .constant (.text _ codes) => some codes
    | _ => none)
  | _ => none

/-- The names that a statement lists in `__all__`. -/
def Stmt.exports? : Stmt → Option (List (List Nat))
  | .assign _ targets value =>
    if targets.any (Expr.isName "__all__") then value.literalNames? else none
  | .annotated _ target (some value) =>
    if target.isName "__all__" then value.literalNames? else none
  | _ => none

/-- The names of the first literal `__all__` of a module. -/
def literalExports? (module : List Stmt) : Option (List (List Nat)) :=
  module.findSome? Stmt.exports?

/-- Does the name start with an underscore, without being a special name such as
`__call__`? -/
def isPrivate (name : String) : Bool :=
  let cs := name.toList
  let special := ['_', '_'].isPrefixOf cs && ['_', '_'].isSuffixOf cs
  !special && ['_'].isPrefixOf cs

/-! ### Selection -/

/-- What to select besides the public functions of a module. -/
structure Selection where
  /-- Names that the module does not export. -/
  includePrivate : Bool
  /-- The methods of classes at module level. -/
  includeMethods : Bool
  deriving Repr, DecidableEq, Inhabited

/-- Is the name one to select, for a module with these exports? -/
def Selection.offers (sel : Selection) (exports : Option (List (List Nat))) (name : String) :
    Bool :=
  sel.includePrivate ||
    match exports with
    | some names => names.contains (Text.codes name.toList)
    | none => !isPrivate name

/-- The parameters of a method, without the receiver. -/
def withoutReceiver : List String → List String
  | "self" :: names => names
  | "cls" :: names => names
  | names => names

/-- The names of all parameters; those that take any number of arguments keep
their stars. -/
def parameterNames (params : Params) (isMethod : Bool) : List String :=
  (if isMethod then withoutReceiver params.positions else params.positions) ++ params.others

/-- The function that a statement defines, in the class `owner` if there is one. -/
def Stmt.function? (owner : Option String) : Stmt → Option Branchwise.Function
  | .function line isAsync name params body =>
    some
      { name
        qualifiedName := match owner with
          | some c => c ++ "." ++ name
          | none => name
        parameters := parameterNames params owner.isSome
        body := trees body
        line
        isAsync
        isMethod := owner.isSome }
  | _ => none

/-- The methods in the body of a class. -/
def methods (sel : Selection) (owner : String) (body : List Stmt) : List Branchwise.Function :=
  (body.filterMap (Stmt.function? (some owner))).filter fun f =>
    sel.includePrivate || !isPrivate f.name

/-- The functions that a statement at module level contributes. -/
def Stmt.contributes (sel : Selection) (exports : Option (List (List Nat))) :
    Stmt → List Branchwise.Function
  | s@(.function _ _ name _ _) => if sel.offers exports name then (s.function? none).toList else []
  | .classDef _ name body =>
    if sel.includeMethods && sel.offers exports name then methods sel name body else []
  | _ => []

/-- The functions of a module, in the order of their definitions. -/
def functions (sel : Selection) (module : List Stmt) : List Branchwise.Function :=
  module.flatMap (Stmt.contributes sel (literalExports? module))

end Branchwise.Source
