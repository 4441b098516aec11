/-
The grammar of statements and of whole modules.

* `Blocks`: what the readers need for the blocks nested in them.
* `simpleStatement`, `simpleLine`: statements that end on their line.
* `statement`: also the statements with blocks.
* `blockAt`: blocks that nest at most as deep as the argument says.
* `moduleStatements`: the statements up to the end of the text.
-/
import Branchwise.Source.Grammar.Pattern
import Branchwise.Source.Stmt

namespace Branchwise.Source.Grammar

/-- The readers of expressions and of nested blocks. -/
structure Blocks where
  inner : Inner
  block : Reader (List Stmt)

namespace Blocks

variable (b : Blocks)

/-- The bound on everything that repeats. -/
def bound : Nat := b.inner.bound

/-- An expression. -/
def expression : Reader Expr := b.inner.expression

/-- One or more items; with a comma they make a tuple. -/
def starExpressions : Reader Expr := b.inner.starExpressions b.inner.levels

/-- A `yield` form or items: what may stand right of an assignment. -/
def rightSide : Reader Expr := do
  if ← isWord .yieldKw then b.inner.yieldExpr b.inner.levels else b.starExpressions

/-! ### Statements on one line -/

/-- Does the statement end here? -/
def atStatementEnd : Reader Bool := do
  return (← isNext .newline) || (← isSymbol .semicolon)

/-- The targets and the value of a chain of assignments, `first` being its left
end. -/
def assignChain : Nat → Expr → Reader (List Expr × Expr)
  | 0, _ => failure
  | bound + 1, first => do
    if ← accept .assign then
      if first.isTarget then
        let isYield ← isWord .yieldKw
        let next ← b.rightSide
        if isYield then return ([first], next)
        else
          let (targets, value) ← assignChain bound next
          return (first :: targets, value)
      else failure
    else return ([], first)

/-- An expression, or an assignment of one of the three kinds. -/
def expressionStatement (line : Nat) : Reader Stmt := do
  let isYield ← isWord .yieldKw
  let first ← b.rightSide
  if isYield then return .simple .expression line
  else
    match ← peek with
    | .symbol .colon =>
      if first.isSingleTarget then
        skip
        let _ ← b.expression
        if ← accept .assign then return .annotated line first (some (← b.rightSide))
        else return .annotated line first none
      else failure
    | .symbol .assign =>
      let (targets, value) ← b.assignChain b.bound first
      return .assign line targets value
    | .symbol s =>
      if s.isAugmented then
        if first.isSingleTarget then
          skip
          let _ ← b.rightSide
          return .simple .augAssign line
        else failure
      else return .simple .expression line
    | _ => return .simple .expression line

/-- What is deleted. -/
def deleteTargets : Reader Unit := do
  let target : Reader Unit := do
    let e ← b.inner.levels.primary
    if e.isDeletable then return () else failure
  target
  let _ ← commaTail b.bound atStatementEnd target

/-- A name with members. -/
def dottedName : Reader Unit := do
  let _ ← identifier
  let _ ← chain (do if ← accept .dot then return some (← identifier) else return none) b.bound

/-- A second name behind `as`, if there is one. -/
def secondName : Reader Unit := do
  if ← acceptWord .asKw then
    let _ ← identifier

/-- The dots in front of the module of an import: whether there are any. -/
def leadingDots : Reader Bool := do
  let dots ← chain (do
    if (← isSymbol .dot) || (← isSymbol .ellipsis) then
      skip
      return some ()
    else return none) b.bound
  return !dots.isEmpty

/-- The names that are imported from a module. A comma at the end needs
brackets. -/
def importedNames : Reader Unit := do
  let item : Reader Unit := do
    let _ ← identifier
    secondName
  if ← accept .star then return ()
  else if ← accept .lparen then
    item
    let _ ← commaTail b.bound (isSymbol .rparen) item
    symbol .rparen
  else
    let _ ← commaSeparated b.bound item

/-- A statement without a block. -/
def simpleStatement : Reader Stmt := do
  let line ← line
  match ← peek with
  | .keyword .passKw => skip; return .simple .pass line
  | .keyword .breakKw => skip; return .simple .breakLoop line
  | .keyword .continueKw => skip; return .simple .continueLoop line
  | .keyword .returnKw =>
    skip
    if ← atStatementEnd then return .ret line none
    else return .ret line (some (← b.starExpressions))
  | .keyword .raiseKw =>
    skip
    if ← atStatementEnd then return .raise line none none
    else
      let exc ← b.expression
      if ← acceptWord .fromKw then return .raise line (some exc) (some (← b.expression))
      else return .raise line (some exc) none
  | .keyword .globalKw =>
    skip
    let _ ← commaSeparated b.bound identifier
    return .simple .globalNames line
  | .keyword .nonlocalKw =>
    skip
    let _ ← commaSeparated b.bound identifier
    return .simple .nonlocalNames line
  | .keyword .delKw =>
    skip
    b.deleteTargets
    return .simple .delete line
  | .keyword .assertKw =>
    skip
    let _ ← b.expression
    if ← accept .comma then
      let _ ← b.expression
    return .simple .assertion line
  | .keyword .importKw =>
    skip
    let _ ← commaSeparated b.bound do
      b.dottedName
      secondName
    return .simple .importNames line
  | .keyword .fromKw =>
    skip
    let dots ← b.leadingDots
    if !dots || !(← isWord .importKw) then b.dottedName
    word .importKw
    b.importedNames
    return .simple .importFrom line
  | _ => b.expressionStatement line

/-- Statements between semicolons up to the end of the line. -/
def simpleLine : Reader (List Stmt) := do
  let first ← b.simpleStatement
  let rest ← chain (do
    if ← accept .semicolon then
      if ← isNext .newline then return none else return some (← b.simpleStatement)
    else return none) b.bound
  token .newline
  return first :: rest

/-! ### Statements with blocks -/

/-- A colon and a block. -/
def suite : Reader (List Stmt) := do
  symbol .colon
  b.block

/-- The `else` part of a statement, if there is one. -/
def elseSuite : Reader (List Stmt) := do
  if ← acceptWord .elseKw then b.suite else return []

/-- The rest of a conditional: a further condition counts as one nested in the
`else` part. -/
def conditionalRest : Nat → Reader (List Stmt)
  | 0 => failure
  | bound + 1 => do
    let line ← line
    if ← acceptWord .elifKw then
      let test ← b.inner.named
      let body ← b.suite
      let orelse ← conditionalRest bound
      return [.ifElse line test body orelse]
    else b.elseSuite

/-- A handler behind its keyword. -/
def handler (grouped : Bool) : Reader Handler := do
  if ← isSymbol .colon then
    if grouped then failure else return .mk none (← b.suite)
  else
    let type ← b.expression
    secondName
    return .mk (some type) (← b.suite)

/-- The handlers of a `try`; either all of them take groups or none does. -/
def handlers (grouped : Bool) : Reader (List Handler) :=
  chain (do
    if ← acceptWord .exceptKw then
      if (← accept .star) == grouped then return some (← b.handler grouped) else failure
    else return none) b.bound

/-- Is a handler for groups next? -/
def isGrouped : Reader Bool := fun ts =>
  match ts with
  | ⟨.keyword .exceptKw, _⟩ :: ⟨.symbol .star, _⟩ :: _ => some (true, ts)
  | _ => some (false, ts)

/-- A `try` behind its keyword. -/
def guarded (line : Nat) : Reader Stmt := do
  let body ← b.suite
  let grouped ← isGrouped
  let hs ← b.handlers grouped
  let orelse ← if hs.isEmpty then pure [] else b.elseSuite
  let isFinal ← isWord .finallyKw
  let final ← do
    if ← acceptWord .finallyKw then b.suite else pure []
  if hs.isEmpty && !isFinal then failure
  else return .guard line grouped body hs orelse final

/-- A loop over items behind its keyword. -/
def forLoop (kind : BlockKind) (line : Nat) : Reader Stmt := do
  let _ ← b.inner.loopTargets b.inner.levels.primary
  word .inKw
  let _ ← b.starExpressions
  let body ← b.suite
  return .block kind line (body ++ (← b.elseSuite))

/-- An item of a `with`: an expression and what it is bound to. -/
def withItem : Reader Unit := do
  let _ ← b.expression
  if ← acceptWord .asKw then
    let _ ← accept .star
    let target ← b.inner.levels.primary
    if target.isTarget then return () else failure

/-- The items of a `with` in brackets, up to the colon. -/
def withBracketed : Reader Unit := do
  symbol .lparen
  b.withItem
  let _ ← commaTail b.bound (isSymbol .rparen) b.withItem
  symbol .rparen
  symbol .colon

/-- The items of a `with` up to the colon. -/
def withItems : Reader Unit := do
  let _ ← commaSeparated b.bound b.withItem
  symbol .colon

/-- A `with` behind its keyword. Brackets around the items are tried first. -/
def withStatement (kind : BlockKind) (line : Nat) : Reader Stmt := do
  b.withBracketed <|> b.withItems
  return .block kind line (← b.block)

/-- A function behind its keyword. -/
def functionDef (line : Nat) (isAsync : Bool) : Reader Stmt := do
  let name ← identifier
  symbol .lparen
  let starType : Reader Unit := do
    if ← accept .colon then
      let _ ← b.inner.starExpression b.inner.levels
  let params ← b.inner.parameters true starType .rparen
  symbol .rparen
  if ← accept .arrow then
    let _ ← b.expression
  return .function line isAsync name params (← b.suite)

/-- A class behind its keyword. -/
def classDef (line : Nat) : Reader Stmt := do
  let name ← identifier
  if ← accept .lparen then
    let _ ← b.inner.arguments
  return .classDef line name (← b.suite)

/-- A definition behind its decorators. -/
def decorated : Reader Stmt := do
  let line ← line
  if ← acceptWord .defKw then b.functionDef line false
  else if ← acceptWord .classKw then b.classDef line
  else
    word .asyncKw
    word .defKw
    b.functionDef line true

/-- Decorators: each ends its line. -/
def decorators : Reader (List Unit) :=
  chain (do
    if ← accept .at then
      let _ ← b.inner.named
      token .newline
      return some ()
    else return none) b.bound

/-- The subject of a `match`: an expression, or items with a comma. -/
def subject : Reader Unit := do
  let l := b.inner.levels
  let isStarred ← isSymbol .star
  let _ ← b.inner.displayItem l
  let (_, comma) ← commaTail b.bound (isSymbol .colon) (b.inner.displayItem l)
  if isStarred && !comma then failure else return ()

/-- A case of a `match`. -/
def caseBlock : Reader (List Stmt) := do
  if ← isSpelled "case" then
    skip
    casePatterns b.inner
    if ← acceptWord .ifKw then
      let _ ← b.inner.named
    b.suite
  else failure

/-- A `match`, whose keyword is a name elsewhere. -/
def matchStatement (line : Nat) : Reader Stmt := do
  if ← isSpelled "match" then
    skip
    b.subject
    symbol .colon
    token .newline
    token .indent
    let first ← b.caseBlock
    let rest ← chain (do
      if ← acceptToken .dedent then return none else return some (← b.caseBlock)) b.bound
    return .block .matchBlock line (first ++ rest.flatten)
  else failure

/-- A statement, or a line of statements. -/
def statement : Reader (List Stmt) := do
  let line ← line
  match ← peek with
  | .keyword .ifKw =>
    skip
    let test ← b.inner.named
    let body ← b.suite
    let orelse ← b.conditionalRest b.bound
    return [.ifElse line test body orelse]
  | .keyword .whileKw =>
    skip
    let _ ← b.inner.named
    let body ← b.suite
    return [.block .whileLoop line (body ++ (← b.elseSuite))]
  | .keyword .forKw => skip; return [← b.forLoop .forLoop line]
  | .keyword .withKw => skip; return [← b.withStatement .withBlock line]
  | .keyword .tryKw => skip; return [← b.guarded line]
  | .keyword .defKw => skip; return [← b.functionDef line false]
  | .keyword .classKw => skip; return [← b.classDef line]
  | .keyword .asyncKw =>
    skip
    if ← acceptWord .defKw then return [← b.functionDef line true]
    else if ← acceptWord .forKw then return [← b.forLoop .asyncFor line]
    else
      word .withKw
      return [← b.withStatement .asyncWith line]
  | .symbol .at =>
    let _ ← b.decorators
    return [← b.decorated]
  | .name "match" _ => (do return [← b.matchStatement line]) <|> b.simpleLine
  | _ => b.simpleLine

/-- Statements up to the token that ends them. -/
def statementsUntil (ending : Token.Kind) : Reader (List Stmt) := do
  let lines ← chain (do
    if ← acceptToken ending then return none else return some (← b.statement)) b.bound
  return lines.flatten

/-- A block: indented statements, or a line of simple ones. -/
def blockBody : Reader (List Stmt) := do
  if ← acceptToken .newline then
    token .indent
    b.statementsUntil .dedent
  else b.simpleLine

end Blocks

/-- Blocks that nest at most as deep as the argument says. -/
def blockAt (inner : Inner) : Nat → Reader (List Stmt)
  | 0 => failure
  | depth + 1 => fun ts => Blocks.blockBody ⟨inner, blockAt inner depth⟩ ts

/-- The statements of a whole text. -/
def moduleStatements (inner : Inner) : Reader (List Stmt) :=
  Blocks.statementsUntil ⟨inner, blockAt inner inner.bound⟩ .stop

end Branchwise.Source.Grammar
