/-
The grammar of the patterns in `match` statements. Patterns leave no trace in
the statements that are kept, so the readers only accept or fail.

* `closedPattern`: literals, captures, values, groups, sequences, mappings and
  classes.
* `patternAt`: patterns that nest at most as deep as the argument says.
* `casePatterns`: what stands behind `case`: a pattern or an open sequence.
-/
import Branchwise.Source.Grammar.Expression

namespace Branchwise.Source.Grammar

/-- What pattern readers need for the parts nested in them. -/
structure PatternInner where
  bound : Nat
  strings : Reader Expr
  pattern : Reader Unit

namespace PatternInner

variable (p : PatternInner)

/-- May a captured name stand in front of the next token? -/
def endsCapture : Reader Bool := do
  return !(← isSymbol .dot) && !(← isSymbol .lparen) && !(← isSymbol .assign)

/-- A name that a pattern binds; the low line binds nothing. -/
def capture : Reader Unit := do
  if ← isSpelled "_" then failure
  else
    let _ ← identifier
    if ← endsCapture then return () else failure

/-- A number, or a sum or difference of a real and an imaginary one. -/
def numberPattern : Reader Unit := do
  let _ ← accept .minus
  match ← peek with
  | .number first =>
    skip
    if (← isSymbol .plus) || (← isSymbol .minus) then
      skip
      match first, ← peek with
      | .imaginary _, _ => failure
      | _, .number (.imaginary _) => skip
      | _, _ => failure
  | _ => failure

/-- Is a literal next? -/
def isLiteral : Reader Bool := do
  match ← peek with
  | .number _ | .text _ | .symbol .minus | .keyword .noneKw | .keyword .trueKw
  | .keyword .falseKw => return true
  | _ => return false

/-- A literal. -/
def literal : Reader Unit := do
  match ← peek with
  | .text _ =>
    let _ ← p.strings
  | .keyword .noneKw | .keyword .trueKw | .keyword .falseKw => skip
  | _ => numberPattern

/-- The members behind a name: how many there are. -/
def members : Reader (List String) :=
  chain (do if ← accept .dot then return some (← identifier) else return none) p.bound

/-- An item of a sequence: a pattern or a starred capture. -/
def item : Reader Unit := do
  if ← accept .star then
    if ← isSpelled "_" then skip else capture
  else p.pattern

/-- Items up to the closing symbol, which is taken. -/
def itemsUntil (close : Symbol) : Reader Unit := do
  if ← accept close then return ()
  else
    p.item
    let _ ← commaTail p.bound (isSymbol close) p.item
    symbol close

/-- What stands in round brackets: a group or a sequence. -/
def parenthesized : Reader Unit := do
  if ← accept .rparen then return ()
  else
    let isStarred ← isSymbol .star
    p.item
    let (_, comma) ← commaTail p.bound (isSymbol .rparen) p.item
    symbol .rparen
    if isStarred && !comma then failure else return ()

/-- An entry of a mapping: a key and a pattern, or the rest. The flag says
whether it was the rest, after which nothing may follow. -/
def mappingEntry : Reader Bool := do
  if ← accept .doubleStar then
    capture
    return true
  else
    if ← isLiteral then p.literal
    else
      let _ ← identifier
      let ms ← p.members
      if ms.isEmpty then failure
    symbol .colon
    p.pattern
    return false

/-- The entries of a mapping and the closing brace. -/
def mapping : Nat → Reader Unit
  | 0 => failure
  | bound + 1 => do
    if ← accept .rbrace then return ()
    else
      let isRest ← p.mappingEntry
      if ← accept .comma then
        if isRest then symbol .rbrace else mapping bound
      else symbol .rbrace

/-- The arguments of a class pattern and the closing bracket: patterns first,
then named ones. -/
def classArguments : Nat → Bool → Reader Unit
  | 0, _ => failure
  | bound + 1, named => do
    if ← accept .rparen then return ()
    else
      let isNamed := (← nameBefore? .assign).isSome
      if isNamed then
        skip
        skip
        p.pattern
      else if named then failure
      else p.pattern
      if ← accept .comma then classArguments bound isNamed else symbol .rparen

/-- A pattern without alternatives. -/
def closedPattern : Reader Unit := do
  if ← isLiteral then p.literal
  else if ← isSpelled "_" then skip
  else
    match ← peek with
    | .name _ _ =>
      skip
      let ms ← p.members
      if ← accept .lparen then p.classArguments p.bound false
      else if ← isSymbol .assign then failure
      else if ms.isEmpty then
        if ← endsCapture then return () else failure
      else return ()
    | .symbol .lparen => skip; p.parenthesized
    | .symbol .lbracket => skip; p.itemsUntil .rbracket
    | .symbol .lbrace => skip; p.mapping p.bound
    | _ => failure

/-- Alternatives, and the name that the whole may be bound to. -/
def alternatives : Reader Unit := do
  p.closedPattern
  let _ ← chain (do
    if ← accept .pipe then
      p.closedPattern
      return some ()
    else return none) p.bound
  if ← acceptWord .asKw then capture

end PatternInner

/-- Patterns that nest at most as deep as the argument says. -/
def patternAt (bound : Nat) (strings : Reader Expr) : Nat → Reader Unit
  | 0 => failure
  | depth + 1 => fun ts =>
    PatternInner.alternatives ⟨bound, strings, patternAt bound strings depth⟩ ts

/-- What stands behind `case`: a pattern, or items between commas. -/
def casePatterns (g : Inner) : Reader Unit := do
  let strings := g.strings g.levels
  let p : PatternInner := ⟨g.bound, strings, patternAt g.bound strings g.bound⟩
  let isStarred ← isSymbol .star
  p.item
  let atEnd : Reader Bool := do return (← isSymbol .colon) || (← isWord .ifKw)
  let (_, comma) ← commaTail p.bound atEnd p.item
  if isStarred && !comma then failure else return ()

end Branchwise.Source.Grammar
