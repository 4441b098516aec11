/-
The log of an analysis.

* `Level`, `Event`: how much an entry matters, and what it reports.
* `Event.message`: the text of an entry.
* `Level.atLeast`: which entries a threshold lets through.
-/
import Branchwise.Fault
import Branchwise.Walk

namespace Branchwise

/-- How much an entry of the log matters. -/
inductive Level where
  | debug | info | warning
  deriving Repr, DecidableEq, Inhabited

namespace Level

/-- The word of a level. -/
def word : Level → String
  | debug => "DEBUG"
  | info => "INFO"
  | warning => "WARNING"

/-- The rank of a level. -/
def rank : Level → Nat
  | debug => 0
  | info => 1
  | warning => 2

/-- Does the level reach the threshold? -/
def atLeast (threshold level : Level) : Bool :=
  threshold.rank ≤ level.rank

end Level

/-- An entry of the log. -/
inductive Event where
  /-- A function was found in a source text. -/
  | parsed (function : Function)
  /-- A file with so many functions is about to be walked. -/
  | analyzing (file : Path) (functions : Nat)
  /-- A node was walked. -/
  | walked (record : Record)
  /-- A file of a directory, named relative to it, cannot be analyzed. -/
  | skipping (file : Path) (fault : Fault)

namespace Event

/-- The level of an entry. -/
def level : Event → Level
  | parsed _ | walked _ => .debug
  | analyzing _ _ => .info
  | skipping _ _ => .warning

/-- The text of an entry. -/
def message : Event → String
  | parsed f =>
    "parsed " ++ f.qualifiedName ++ "(" ++ Text.joinWith ", " f.parameters ++ ") line "
      ++ toString f.line
  | analyzing file functions =>
    "analyzing " ++ file.toString ++ " (" ++ toString functions ++ " functions)"
  | walked record => record.message
  | skipping file fault => "skipping " ++ file.toString ++ ": " ++ fault.message

end Event

end Branchwise
