/-
Readers of token lists: a reader takes tokens from the front of the list or
fails.

* `peek`, `skip`, `line`: the next token.
* `symbol`, `word`, `accept`, `acceptWord`: a given symbol or keyword, demanded
  or taken if it is there.
* `identifier`: the form of a name.
* `chain`: a reader applied again and again until it says stop, with a bound
  on the number of rounds.
-/
import Branchwise.Source.Token

namespace Branchwise.Source.Grammar

/-- Takes tokens from the front of a list, or fails. -/
abbrev Reader := StateT (List Token) Option

/-- The kind of the next token. -/
def peek : Reader Token.Kind := fun ts =>
  match ts with
  | t :: _ => some (t.kind, ts)
  | [] => some (.stop, ts)

/-- The line of the next token. -/
def line : Reader Nat := fun ts =>
  match ts with
  | t :: _ => some (t.line, ts)
  | [] => some (0, ts)

/-- Drops the next token. -/
def skip : Reader Unit := fun ts => some ((), ts.drop 1)

/-- Takes a token of the given kind. -/
def token (kind : Token.Kind) : Reader Unit := do
  if (← peek) = kind then skip else failure

/-- Is the next token of the given kind? -/
def isNext (kind : Token.Kind) : Reader Bool := do
  return (← peek) = kind

/-- Takes the next token if it is of the given kind, and says whether it was. -/
def acceptToken (kind : Token.Kind) : Reader Bool := do
  if (← peek) = kind then
    skip
    return true
  else return false

/-- Takes the symbol. -/
def symbol (s : Symbol) : Reader Unit := token (.symbol s)

/-- Takes the keyword. -/
def word (k : Keyword) : Reader Unit := token (.keyword k)

/-- Is the symbol next? -/
def isSymbol (s : Symbol) : Reader Bool := isNext (.symbol s)

/-- Is the keyword next? -/
def isWord (k : Keyword) : Reader Bool := isNext (.keyword k)

/-- Takes the symbol if it is next. -/
def accept (s : Symbol) : Reader Bool := acceptToken (.symbol s)

/-- Takes the keyword if it is next. -/
def acceptWord (k : Keyword) : Reader Bool := acceptToken (.keyword k)

/-- Takes a name and gives its form. -/
def identifier : Reader String := do
  match ← peek with
  | .name _ form =>
    skip
    return form
  | _ => failure

/-- Is the next token a name with this spelling? -/
def isSpelled (spelling : String) : Reader Bool := do
  match ← peek with
  | .name s _ => return s == spelling
  | _ => return false

/-- The name in front of the given symbol, if these are the next two tokens. -/
def nameBefore? (s : Symbol) : Reader (Option String) := fun ts =>
  match ts with
  | ⟨.name _ form, _⟩ :: ⟨.symbol t, _⟩ :: _ => some (if s = t then some form else none, ts)
  | _ => some (none, ts)

/-- Applies `step` until it gives nothing more. -/
def chain {α : Type} (step : Reader (Option α)) : Nat → Reader (List α)
  | 0 => failure
  | bound + 1 => do
    match ← step with
    | none => return []
    | some a => return a :: (← chain step bound)

/-- One or more items between commas. -/
def commaSeparated {α : Type} (bound : Nat) (item : Reader α) : Reader (List α) := do
  let first ← item
  let rest ← chain (do if ← accept .comma then return some (← item) else return none) bound
  return first :: rest

/-- Items after a first one: each follows a comma, and the last comma may stand
before the end. The flag says whether there was a comma at all. -/
def commaTail {α : Type} (bound : Nat) (atEnd : Reader Bool) (item : Reader α) :
    Reader (List α × Bool) := do
  if ← isSymbol .comma then
    let rest ← chain (do
      if ← accept .comma then
        if ← atEnd then return none else return some (← item)
      else return none) bound
    return (rest, true)
  else return ([], false)

end Branchwise.Source.Grammar
