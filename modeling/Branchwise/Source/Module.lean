/-
Whole source texts.

* `ReadFault`: why a text is no module.
* `readModule`: the statements of a text.
-/
import Branchwise.Source.Grammar.Statement
import Branchwise.Source.Interpreter

namespace Branchwise.Source

/-- Why a text is no module. -/
inductive ReadFault where
  /-- It holds a NUL character. -/
  | nul
  /-- The interpreter breaks down on it. -/
  | breakdown (b : Breakdown)
  /-- It breaks the rules of tokens or of the grammar. -/
  | malformed
  deriving Repr, DecidableEq

/-- The statements of a source text, by its tokens and the grammar alone. -/
def statements? (charNamed : List Char → Option Char) (text : List Char) : Option (List Stmt) :=
  (tokens? text).bind fun ts =>
    (Grammar.moduleStatements (.ofLength (text.length + 1) charNamed) ts).map Prod.fst

/-- The statements of a source text. -/
def readModule (interp : Interpreter) (source : String) : Except ReadFault (List Stmt) :=
  if source.toList.contains '\x00' then .error .nul
  else
    match interp.breakdown source with
    | some b => .error (.breakdown b)
    | none =>
      match statements? interp.charNamed source.toList with
      | some stmts => .ok stmts
      | none => .error .malformed

end Branchwise.Source
