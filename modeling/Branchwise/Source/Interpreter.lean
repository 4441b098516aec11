/-
What the reading of a source text takes from the interpreter, besides the tokens
and the grammar.

* `Interpreter`: the names of characters, the texts it breaks down on, and what it
  says of a malformed text. Every reading takes one, and statements about readings
  hold for each of them.
* `Interpreter.basic`: one that can be run.

Its stack bounds the reading of a text only: what goes on with a text that was read,
however deep it nests, comes to its end.
-/
import Branchwise.Path

namespace Branchwise

/-- An exception that the interpreter raises for reasons of its own. -/
structure Breakdown where
  /-- The class of the exception. -/
  kind : String
  message : String
  deriving Repr, DecidableEq

/-- What the interpreter adds to a grammar. -/
structure Interpreter where
  /-- The character of a name, as an escape in a literal gives it. -/
  charNamed : List Char → Option Char
  /-- What it raises on a text in place of a result: on one that nests deeper than its
  stack, takes all of its memory, or meets a mistake in its parser. It is the same at every
  reading of the text. -/
  breakdown : String → Option Breakdown
  /-- What it says of a malformed text in a file. -/
  complaint : String → Path → String

/-- An interpreter that knows no names, reads every text to its end and says the same
of all that are malformed. -/
def Interpreter.basic : Interpreter where
  charNamed := fun _ => none
  breakdown := fun _ => none
  complaint := fun _ file => "invalid syntax (" ++ file.name ++ ", line 1)"

end Branchwise
