/-
The grammar of expressions. Every reader below is given the reader of nested
expressions, so that only the last definition, `expressionAt`, is recursive: its
argument bounds how deep expressions nest.

* `Inner`: what the readers need for the parts nested in them.
* `atom`, `primaryWith`, `factorWith`, `bitOrWith`, `comparisonWith`,
  `disjunctionWith`: the levels of binding, from the tightest.
* `named`, `displayItem`, `starExpressions`, `yieldExpr`: the forms that may stand
  in brackets, in displays and in statements.
* `arguments`, `slices`, `clauses`, `parameters`: calls, subscripts,
  comprehensions and parameter lists.
* `strings`: adjacent string literals; replacement fields are read like an
  expression in parentheses.
-/
import Branchwise.Source.Grammar.Reader
import Branchwise.Source.Quotation
import Branchwise.Source.Token.Lexer

namespace Branchwise.Source.Grammar

/-- The reader of nested expressions, a bound on the length of everything that
repeats, and the names of characters. -/
structure Inner where
  bound : Nat
  charNamed : List Char → Option Char
  expression : Reader Expr

/-- Can an expression start with the token? -/
def startsExpression : Token.Kind → Bool
  | .name _ _ | .number _ | .text _ => true
  | .keyword k =>
    k == .noneKw || k == .trueKw || k == .falseKw || k == .notKw || k == .lambdaKw
      || k == .awaitKw
  | .symbol s =>
    s == .lparen || s == .lbracket || s == .lbrace || s == .plus || s == .minus || s == .tilde
      || s == .ellipsis
  | _ => false

/-- Can an expression or a starred one start with the token? -/
def startsItem (k : Token.Kind) : Bool :=
  startsExpression k || k == .symbol .star

/-- Does no further item follow? -/
def noItem : Reader Bool := do
  return !startsItem (← peek)

/-! ### Operators -/

/-- Operands joined by operators of one level, to the left. -/
def leftChain (ops : Token.Kind → Option BinaryOp) (operand : Reader Expr) :
    Nat → Expr → Reader Expr
  | 0, _ => failure
  | bound + 1, left => do
    match ops (← peek) with
    | some op =>
      skip
      let right ← operand
      leftChain ops operand bound (.binary op left right)
    | none => return left

/-- The operators of a product. -/
def termOp? : Token.Kind → Option BinaryOp
  | .symbol .star => some .mul
  | .symbol .slash => some .div
  | .symbol .doubleSlash => some .floorDiv
  | .symbol .percent => some .mod
  | .symbol .at => some .matMul
  | _ => none

/-- The operators of a sum. -/
def sumOp? : Token.Kind → Option BinaryOp
  | .symbol .plus => some .add
  | .symbol .minus => some .sub
  | _ => none

/-- The shift operators. -/
def shiftOp? : Token.Kind → Option BinaryOp
  | .symbol .leftShift => some .shiftLeft
  | .symbol .rightShift => some .shiftRight
  | _ => none

/-- The operator of a bitwise conjunction. -/
def bitAndOp? : Token.Kind → Option BinaryOp
  | .symbol .amp => some .bitAnd
  | _ => none

/-- The operator of an exclusive disjunction. -/
def bitXorOp? : Token.Kind → Option BinaryOp
  | .symbol .caret => some .bitXor
  | _ => none

/-- The operator of a bitwise disjunction. -/
def bitOrOp? : Token.Kind → Option BinaryOp
  | .symbol .pipe => some .bitOr
  | _ => none

/-- The signs in front of a factor. -/
def signOp? : Token.Kind → Option UnaryOp
  | .symbol .plus => some .plus
  | .symbol .minus => some .minus
  | .symbol .tilde => some .invert
  | _ => none

/-- Takes a comparison operator if one is next. -/
def compareOp? : Reader (Option CompareOp) := do
  match ← peek with
  | .symbol .equal => skip; return some .eq
  | .symbol .notEqual => skip; return some .notEq
  | .symbol .less => skip; return some .less
  | .symbol .lessEqual => skip; return some .lessEq
  | .symbol .greater => skip; return some .greater
  | .symbol .greaterEqual => skip; return some .greaterEq
  | .keyword .inKw => skip; return some .isIn
  | .keyword .notKw => do
    skip
    word .inKw
    return some .notIn
  | .keyword .isKw => do
    skip
    if ← acceptWord .notKw then return some .isNot else return some .is
  | _ => return none

/-- Joins operands of `and` or `or`; a single operand stands by itself. -/
def joinBoolean (op : BoolOp) (first : Expr) : List Expr → Expr
  | [] => first
  | rest => .boolean op (first :: rest)

/-- The constant that a number literal denotes. -/
def Numeral.constant : Numeral → Constant
  | .int n => .int n
  | .float d => .float d
  | .imaginary d => .imaginary d

/-- Adjacent constant texts as one, empty ones dropped. -/
def mergeTexts : List Expr → List Expr
  | [] => []
  | .constant (.text _ cs) :: rest =>
    match mergeTexts rest with
    | .constant (.text _ ds) :: more => .constant (.text false (cs ++ ds)) :: more
    | more => if cs.isEmpty then more else .constant (.text false cs) :: more
  | e :: rest => e :: mergeTexts rest

/-- Takes the string literals that are next. -/
def quotations : Nat → Reader (List Quotation) :=
  chain do
    match ← peek with
    | .text q =>
      skip
      return some q
    | _ => return none

namespace Inner

variable (g : Inner)

/-! ### Forms that may stand in brackets -/

/-- `name := expression`, or an expression. -/
def named : Reader Expr := do
  match ← nameBefore? .walrus with
  | some target =>
    skip
    skip
    return .named target (← g.expression)
  | none => g.expression

/-! ### Parameters -/

/-- Which parameters may follow. -/
inductive Stage where
  | regular
  | byName
  | closed
  deriving DecidableEq

/-- A parameter list read so far. -/
structure Signature where
  positional : List Param
  regular : List Param
  rest : Option String
  byName : List Param
  extra : Option String
  stage : Stage
  /-- A bare star waits for a parameter by name. -/
  waiting : Bool
  /-- Parameters by position have defaults from here on. -/
  optional : Bool

/-- A default behind a parameter. -/
def fallback : Reader (Option Expr) := do
  if ← accept .assign then return some (← g.expression) else return none

/-- An annotation behind a parameter, if annotations are allowed. -/
def typeHint (annotated : Bool) : Reader Unit := do
  if annotated then
    if ← accept .colon then
      let _ ← g.expression

/-- Adds one item of a parameter list. `starType` reads the annotation
behind the parameter that takes further positions. -/
def parameter (annotated : Bool) (starType : Reader Unit) (s : Signature) :
    Reader Signature := do
  match ← peek with
  | .symbol .slash =>
    skip
    if s.stage != .regular || !s.positional.isEmpty || s.regular.isEmpty then failure
    else return { s with positional := s.regular, regular := [] }
  | .symbol .star =>
    skip
    if s.stage != .regular then failure
    else if ← isSymbol .comma then return { s with stage := .byName, waiting := true }
    else
      let id ← identifier
      starType
      return { s with rest := some id, stage := .byName }
  | .symbol .doubleStar =>
    skip
    if s.stage == .closed || s.waiting then failure
    else
      let id ← identifier
      g.typeHint annotated
      return { s with extra := some id, stage := .closed }
  | _ =>
    let id ← identifier
    g.typeHint annotated
    let value ← g.fallback
    match s.stage with
    | .regular =>
      if value.isNone && s.optional then failure
      else return { s with regular := s.regular ++ [.mk id value], optional := value.isSome }
    | .byName => return { s with byName := s.byName ++ [.mk id value], waiting := false }
    | .closed => failure

/-- The items of a parameter list up to the symbol that closes it. -/
def parameterLoop (annotated : Bool) (starType : Reader Unit) (close : Symbol) :
    Nat → Signature → Reader Signature
  | 0, _ => failure
  | bound + 1, s => do
    if ← isSymbol close then return s
    else
      let s ← g.parameter annotated starType s
      if ← accept .comma then parameterLoop annotated starType close bound s
      else if ← isSymbol close then return s
      else failure

/-- A parameter list in front of the symbol that closes it. -/
def parameters (annotated : Bool) (starType : Reader Unit) (close : Symbol) :
    Reader Params := do
  let s ← g.parameterLoop annotated starType close g.bound
    ⟨[], [], none, [], none, .regular, false, false⟩
  if s.waiting then failure
  else return .mk s.positional s.regular s.rest s.byName s.extra

/-! ### String literals -/

/-- Reads the text of a replacement field: an expression in parentheses, starred
and yielding forms included. -/
def fieldExpr (starExpressions : Reader Expr) (text : List Char) : Option Expr := do
  let ts ← tokens? ('(' :: text ++ [')'])
  let (e, rest) ← starExpressions ts
  match rest with
  | ⟨.newline, _⟩ :: _ => some e
  | _ => none

mutual

/-- A piece of a formatted text as parts of it. -/
def ofPiece (starExpressions : Reader Expr) : Piece → Option (List Expr)
  | .text cs => some [.constant (.text false cs)]
  | .field text shown conversion format => do
    let value ← fieldExpr starExpressions text
    let format ← ofFormat starExpressions format
    let front := match shown with
      | some cs => [.constant (.text false (cs.map Char.toNat))]
      | none => []
    some (front ++ [.field value conversion format])

/-- The format of a replacement field. -/
def ofFormat (starExpressions : Reader Expr) : Option (List Piece) → Option (Option Expr)
  | none => some none
  | some ps => do
    let parts ← ofPieces starExpressions ps
    some (some (.joined (mergeTexts parts)))

/-- All pieces of a formatted text. -/
def ofPieces (starExpressions : Reader Expr) : List Piece → Option (List Expr)
  | [] => some []
  | p :: ps => do
    let front ← ofPiece starExpressions p
    let rest ← ofPieces starExpressions ps
    some (front ++ rest)

end

/-- The parts that a literal contributes to a formatted text. -/
def quotationParts (starExpressions : Reader Expr) (q : Quotation) : Option (List Expr) :=
  if q.isFormatted then do
    let ps ← pieces? g.charNamed q.isRaw q.body
    ofPieces starExpressions ps
  else do
    let cs ← bodyCodes g.charNamed false q.isRaw q.body
    some [.constant (.text false cs)]

/-- What adjacent literals denote together: bytes, a text or a formatted text. -/
def ofQuotations (starExpressions : Reader Expr) (qs : List Quotation) : Option Expr :=
  if qs.all (·.isBytes) then do
    if qs.any fun q => q.body.any (128 ≤ ·.toNat) then none
    else
      let parts ← qs.mapM fun q => bodyCodes g.charNamed true q.isRaw q.body
      some (.constant (.bytes parts.flatten))
  else if qs.any (·.isBytes) then none
  else do
    let parts ← qs.mapM (g.quotationParts starExpressions)
    let merged := mergeTexts parts.flatten
    if qs.any (·.isFormatted) then some (.joined merged)
    else
      let marked := (qs.head?.map (·.isMarked)).getD false
      match merged with
      | [.constant (.text _ cs)] => some (.constant (.text marked cs))
      | _ => some (.constant (.text marked []))

/-! ### Targets of loops -/

/-- A target made of items that `item` reads, up to the keyword `in`. -/
def loopTargets (item : Reader Expr) : Reader Expr := do
  let target : Reader Expr := do
    if ← accept .star then return .starred (← item) else item
  let first ← target
  let (rest, comma) ← commaTail g.bound (isWord .inKw) target
  let e := if comma then .tuple (first :: rest) else first
  if e.isTarget then return e else failure

/-! ### Comprehensions -/

/-- Does a comprehension clause start here? -/
def isClause : Reader Bool := do
  return (← isWord .forKw) || (← isWord .asyncKw)

/-- The clauses of a comprehension. -/
def clauses (item disjunction : Reader Expr) : Reader (List Clause) := do
  let cs ← chain (do
    if ← isClause then
      let isAsync ← acceptWord .asyncKw
      word .forKw
      let target ← g.loopTargets item
      word .inKw
      let source ← disjunction
      let conditions ← chain (do
        if ← acceptWord .ifKw then return some (← disjunction) else return none) g.bound
      return some (.mk isAsync target source conditions)
    else return none) g.bound
  if cs.isEmpty then failure else return cs

/-! ### Calls -/

/-- Which arguments may follow: any, none by position, or none by position and
none that are spread from a sequence. -/
inductive Phase where
  | open
  | keywords
  | spread
  deriving DecidableEq

/-- The arguments read so far. -/
structure Arguments where
  args : List Expr
  keywords : List Argument
  phase : Phase

/-- Adds one argument. -/
def argument (a : Arguments) : Reader Arguments := do
  if ← accept .star then
    if a.phase = .spread then failure
    else return { a with args := a.args ++ [.starred (← g.expression)] }
  else if ← accept .doubleStar then
    return { a with keywords := a.keywords ++ [.spread (← g.expression)], phase := .spread }
  else
    match ← nameBefore? .assign with
    | some id =>
      skip
      skip
      let value ← g.expression
      let phase := if a.phase = .open then .keywords else a.phase
      return { a with keywords := a.keywords ++ [.keyword id value], phase }
    | none =>
      if a.phase = .open then return { a with args := a.args ++ [← g.named] } else failure

/-- Further arguments up to the closing bracket. -/
def argumentLoop : Nat → Arguments → Reader Arguments
  | 0, _ => failure
  | bound + 1, a => do
    if ← accept .comma then
      if ← isSymbol .rparen then return a
      else
        let a ← g.argument a
        argumentLoop bound a
    else return a

/-- Arguments between brackets; the closing one is taken. -/
def arguments : Reader (List Expr × List Argument) := do
  if ← accept .rparen then return ([], [])
  else
    let a ← g.argument ⟨[], [], .open⟩
    let a ← g.argumentLoop g.bound a
    symbol .rparen
    return (a.args, a.keywords)

/-- Arguments of a call, which may also be a single comprehension. -/
def callArguments (item disjunction : Reader Expr) : Reader (List Expr × List Argument) := do
  if ← accept .rparen then return ([], [])
  else
    let a ← g.argument ⟨[], [], .open⟩
    match a.args with
    | [.starred _] => finish a
    | [first] =>
      if ← isClause then
        let cs ← g.clauses item disjunction
        symbol .rparen
        return ([.generator first cs], [])
      else finish a
    | _ => finish a
where
  /-- The other arguments and the closing bracket. -/
  finish (a : Arguments) : Reader (List Expr × List Argument) := do
    let a ← g.argumentLoop g.bound a
    symbol .rparen
    return (a.args, a.keywords)

/-! ### Subscripts -/

/-- A bound of a slice, if there is one. -/
def sliceBound : Reader (Option Expr) := do
  if startsExpression (← peek) then return some (← g.expression) else return none

/-- What follows the first colon of a slice. -/
def sliceTail (lower : Option Expr) : Reader Expr := do
  let upper ← g.sliceBound
  if ← accept .colon then return .slice lower upper (← g.sliceBound)
  else return .slice lower upper none

/-- One item between the brackets of a subscript. -/
def sliceItem : Reader Expr := do
  if ← accept .star then return .starred (← g.expression)
  else if ← accept .colon then g.sliceTail none
  else
    match ← nameBefore? .walrus with
    | some _ => g.named
    | none =>
      let e ← g.expression
      if ← accept .colon then g.sliceTail (some e) else return e

/-- Everything between the brackets of a subscript. A starred item makes a tuple
by itself. -/
def slices : Reader Expr := do
  let first ← g.sliceItem
  let (rest, comma) ← commaTail g.bound (isSymbol .rbracket) g.sliceItem
  match first, comma with
  | .starred _, _ => return .tuple (first :: rest)
  | _, true => return .tuple (first :: rest)
  | _, false => return first

/-! ### The levels of binding -/

/-- Readers of the levels that brackets need. -/
structure Levels where
  primary : Reader Expr
  bitOr : Reader Expr
  disjunction : Reader Expr

/-- An item of a display: starred, or an expression that may be named. -/
def displayItem (l : Levels) : Reader Expr := do
  if ← accept .star then return .starred (← l.bitOr) else g.named

/-- An item of an unbracketed list: starred, or an expression. -/
def starExpression (l : Levels) : Reader Expr := do
  if ← accept .star then return .starred (← l.bitOr) else g.expression

/-- One or more items; with a comma they make a tuple. -/
def starExpressions (l : Levels) : Reader Expr := do
  let first ← g.starExpression l
  let (rest, comma) ← commaTail g.bound noItem (g.starExpression l)
  if comma then return .tuple (first :: rest) else return first

/-- A `yield` form; the keyword is next. -/
def yieldExpr (l : Levels) : Reader Expr := do
  word .yieldKw
  if ← acceptWord .fromKw then return .yieldFrom (← g.expression)
  else if ← noItem then return .yield none
  else return .yield (some (← g.starExpressions l))

/-- What stands in round brackets: nothing, a `yield` form, an expression, a
comprehension or a tuple. -/
def parenthesized (l : Levels) : Reader Expr := do
  if ← accept .rparen then return .tuple []
  else if ← isWord .yieldKw then
    let e ← g.yieldExpr l
    symbol .rparen
    return e
  else
    let isStarred ← isSymbol .star
    let first ← g.displayItem l
    if !isStarred && (← isClause) then
      let cs ← g.clauses l.primary l.disjunction
      symbol .rparen
      return .generator first cs
    else
      let (rest, comma) ← commaTail g.bound (isSymbol .rparen) (g.displayItem l)
      symbol .rparen
      if comma then return .tuple (first :: rest)
      else if isStarred then failure
      else return first

/-- What stands in square brackets: a list or a comprehension. -/
def bracketed (l : Levels) : Reader Expr := do
  if ← accept .rbracket then return .list []
  else
    let isStarred ← isSymbol .star
    let first ← g.displayItem l
    if !isStarred && (← isClause) then
      let cs ← g.clauses l.primary l.disjunction
      symbol .rbracket
      return .listComp first cs
    else
      let (rest, _) ← commaTail g.bound (isSymbol .rbracket) (g.displayItem l)
      symbol .rbracket
      return .list (first :: rest)

/-- An entry of a dictionary. -/
def dictEntry (l : Levels) : Reader Entry := do
  if ← accept .doubleStar then return .spread (← l.bitOr)
  else
    let key ← g.expression
    symbol .colon
    return .pair key (← g.expression)

/-- Further entries of a dictionary and the closing brace. -/
def dictRest (l : Levels) (first : Entry) : Reader Expr := do
  let (rest, _) ← commaTail g.bound (isSymbol .rbrace) (g.dictEntry l)
  symbol .rbrace
  return .dict (first :: rest)

/-- Further items of a set and the closing brace. -/
def setRest (l : Levels) (first : Expr) : Reader Expr := do
  let (rest, _) ← commaTail g.bound (isSymbol .rbrace) (g.displayItem l)
  symbol .rbrace
  return .set (first :: rest)

/-- What stands in braces: a dictionary, a set or a comprehension of either. -/
def braced (l : Levels) : Reader Expr := do
  if ← accept .rbrace then return .dict []
  else if ← isSymbol .doubleStar then
    let first ← g.dictEntry l
    g.dictRest l first
  else if ← isSymbol .star then
    let first ← g.displayItem l
    g.setRest l first
  else
    let isNamed := (← nameBefore? .walrus).isSome
    let first ← g.named
    if !isNamed && (← isSymbol .colon) then
      skip
      let value ← g.expression
      if ← isClause then
        let cs ← g.clauses l.primary l.disjunction
        symbol .rbrace
        return .dictComp first value cs
      else g.dictRest l (.pair first value)
    else if ← isClause then
      let cs ← g.clauses l.primary l.disjunction
      symbol .rbrace
      return .setComp first cs
    else g.setRest l first

/-- One or more adjacent string literals. -/
def strings (l : Levels) : Reader Expr := do
  let qs ← quotations g.bound
  if qs.isEmpty then failure
  else
    match g.ofQuotations (g.starExpressions l) qs with
    | some e => return e
    | none => failure

/-- The tightest forms: names, literals and brackets. -/
def atom (l : Levels) : Reader Expr := do
  match ← peek with
  | .name _ form => skip; return .name form
  | .number n => skip; return .constant (Numeral.constant n)
  | .text _ => g.strings l
  | .keyword .noneKw => skip; return .constant .noneLit
  | .keyword .trueKw => skip; return .constant .trueLit
  | .keyword .falseKw => skip; return .constant .falseLit
  | .symbol .ellipsis => skip; return .constant .ellipsis
  | .symbol .lparen => skip; g.parenthesized l
  | .symbol .lbracket => skip; g.bracketed l
  | .symbol .lbrace => skip; g.braced l
  | _ => failure

/-- Member accesses, calls and subscripts behind an expression. -/
def trailers (l : Levels) : Nat → Expr → Reader Expr
  | 0, _ => failure
  | bound + 1, e => do
    match ← peek with
    | .symbol .dot =>
      skip
      let attr ← identifier
      trailers l bound (.member e attr)
    | .symbol .lparen =>
      skip
      let (args, keywords) ← g.callArguments l.primary l.disjunction
      trailers l bound (.call e args keywords)
    | .symbol .lbracket =>
      skip
      let index ← g.slices
      symbol .rbracket
      trailers l bound (.subscript e index)
    | _ => return e

/-- An atom with its trailers. -/
def primaryWith (l : Levels) : Reader Expr := do
  let e ← g.atom l
  g.trailers l g.bound e

/-- A primary, awaited or not, possibly raised to a power; signs in front. -/
def factorWith (primary : Reader Expr) : Nat → Reader Expr
  | 0 => failure
  | bound + 1 => do
    match signOp? (← peek) with
    | some op =>
      skip
      return .unary op (← factorWith primary bound)
    | none =>
      let base ← do
        if ← acceptWord .awaitKw then pure (Expr.await (← primary)) else primary
      if ← accept .doubleStar then return .binary .pow base (← factorWith primary bound)
      else return base

/-- The arithmetic and bitwise operators above a factor. -/
def bitOrWith (factor : Reader Expr) : Reader Expr :=
  let level (ops : Token.Kind → Option BinaryOp) (operand : Reader Expr) : Reader Expr := do
    let first ← operand
    leftChain ops operand g.bound first
  level bitOrOp? (level bitXorOp? (level bitAndOp? (level shiftOp? (level sumOp?
    (level termOp? factor)))))

/-- Comparisons, chained. -/
def comparisonWith (bitOr : Reader Expr) : Reader Expr := do
  let left ← bitOr
  let rest ← chain (do
    match ← compareOp? with
    | some op => return some (.mk op (← bitOr))
    | none => return none) g.bound
  if rest.isEmpty then return left else return .compare left rest

/-- Negations in front of a comparison. -/
def inversionWith (comparison : Reader Expr) : Nat → Reader Expr
  | 0 => failure
  | bound + 1 => do
    if ← acceptWord .notKw then return .unary .not (← inversionWith comparison bound)
    else comparison

/-- Conjunctions joined by `or`. -/
def disjunctionWith (inversion : Reader Expr) : Reader Expr := do
  let conjunction : Reader Expr := do
    let first ← inversion
    let rest ← chain (do
      if ← acceptWord .andKw then return some (← inversion) else return none) g.bound
    return joinBoolean .and first rest
  let first ← conjunction
  let rest ← chain (do
    if ← acceptWord .orKw then return some (← conjunction) else return none) g.bound
  return joinBoolean .or first rest

end Inner

/-! ### Nested expressions -/

/-- The levels of binding above a given primary. -/
def Inner.levelsAbove (g : Inner) (primary : Reader Expr) : Inner.Levels :=
  let bitOr := g.bitOrWith (Inner.factorWith primary g.bound)
  let disjunction := g.disjunctionWith (Inner.inversionWith (g.comparisonWith bitOr) g.bound)
  ⟨primary, bitOr, disjunction⟩

/-- Primaries whose brackets nest at most as deep as the first argument says. -/
def Inner.primaryAt (g : Inner) : Nat → Reader Expr
  | 0 => failure
  | depth + 1 => fun ts => g.primaryWith (g.levelsAbove (g.primaryAt depth)) ts

/-- The levels of binding. -/
def Inner.levels (g : Inner) : Inner.Levels :=
  g.levelsAbove (g.primaryAt g.bound)

/-- A `lambda`, a disjunction or a conditional expression. -/
def Inner.expressionWith (g : Inner) : Reader Expr := do
  let l := g.levels
  if ← acceptWord .lambdaKw then
    let params ← g.parameters false (pure ()) .colon
    symbol .colon
    return .lambda params (← g.expression)
  else
    let body ← l.disjunction
    if ← acceptWord .ifKw then
      let test ← l.disjunction
      word .elseKw
      return .ifElse body test (← g.expression)
    else return body

/-- Expressions that nest at most as deep as the last argument says, in texts of at
most the given length. -/
def expressionAt (bound : Nat) (charNamed : List Char → Option Char) : Nat → Reader Expr
  | 0 => failure
  | depth + 1 => fun ts =>
    Inner.expressionWith ⟨bound, charNamed, expressionAt bound charNamed depth⟩ ts

/-- Readers for a text of at most the given length. -/
def Inner.ofLength (length : Nat) (charNamed : List Char → Option Char) : Inner :=
  ⟨length + 1, charNamed, expressionAt (length + 1) charNamed (length + 1)⟩

end Branchwise.Source.Grammar
