/-
Expressions as text, in one normal form: one blank around operators, brackets
only where the level of the position asks for them, quoted texts in a fixed
form.

* `Level`: how tightly a position binds. An expression is put in parentheses
  when its position binds more tightly than the expression does.
* `Quoting`: formatted texts choose a mark that none of their parts holds.
* `Expr.print`: the text; with `plain` quoted texts avoid backslashes, which
  replacement fields must not hold.
* `Expr.text`: the text of an expression in statement position, or `none` for
  an integer beyond the digits allowed and for a replacement field that cannot
  do without a backslash.
-/
import Branchwise.Decimal.Shortest
import Branchwise.Source.Expr
import Branchwise.Text.Quoted

namespace Branchwise.Source

open Branchwise.Text (quoted quotedBody quotedBytes quoteMark escapeCode isPrintable codes)

/-! ### Levels -/

/-- How tightly a position binds, from the loosest, 0, to the tightest. -/
abbrev Level := Nat

namespace Level

def named : Level := 0
def tuple : Level := 1
def yield : Level := 2
def test : Level := 3
def or : Level := 4
def and : Level := 5
def not : Level := 6
def compare : Level := 7
def bitOr : Level := 8
def bitXor : Level := 9
def bitAnd : Level := 10
def shift : Level := 11
def sum : Level := 12
def term : Level := 13
def factor : Level := 14
def power : Level := 15
def await : Level := 16
def atom : Level := 17

/-- The next tighter level; nothing is tighter than an atom. -/
def next (l : Level) : Level := min (l + 1) atom

end Level

namespace BoolOp

/-- The word of the operator. -/
def word : BoolOp → List Char
  | and => " and ".toList
  | or => " or ".toList

/-- The level of the operator. -/
def level : BoolOp → Level
  | and => Level.and
  | or => Level.or

end BoolOp

namespace UnaryOp

/-- The sign of the operator; a word is set off by a blank. -/
def sign : UnaryOp → List Char
  | not => "not ".toList
  | plus => ['+']
  | minus => ['-']
  | invert => ['~']

/-- The level of the operator. -/
def level : UnaryOp → Level
  | not => Level.not
  | _ => Level.factor

end UnaryOp

namespace BinaryOp

/-- The sign of the operator between blanks. -/
def sign : BinaryOp → List Char
  | add => " + ".toList
  | sub => " - ".toList
  | mul => " * ".toList
  | matMul => " @ ".toList
  | div => " / ".toList
  | mod => " % ".toList
  | floorDiv => " // ".toList
  | pow => " ** ".toList
  | shiftLeft => " << ".toList
  | shiftRight => " >> ".toList
  | bitOr => " | ".toList
  | bitXor => " ^ ".toList
  | bitAnd => " & ".toList

/-- The level of the operator. -/
def level : BinaryOp → Level
  | add | sub => Level.sum
  | mul | matMul | div | mod | floorDiv => Level.term
  | pow => Level.power
  | shiftLeft | shiftRight => Level.shift
  | bitOr => Level.bitOr
  | bitXor => Level.bitXor
  | bitAnd => Level.bitAnd

/-- The levels of the two operands: the power associates to the right, all else
to the left. -/
def operandLevels (op : BinaryOp) : Level × Level :=
  if op = pow then (op.level.next, op.level) else (op.level, op.level.next)

end BinaryOp

/-- The sign of a comparison between blanks. -/
def CompareOp.sign : CompareOp → List Char
  | .eq => " == ".toList
  | .notEq => " != ".toList
  | .less => " < ".toList
  | .lessEq => " <= ".toList
  | .greater => " > ".toList
  | .greaterEq => " >= ".toList
  | .is => " is ".toList
  | .isNot => " is not ".toList
  | .isIn => " in ".toList
  | .notIn => " not in ".toList

/-- The letter of a conversion. -/
def Conversion.letter : Conversion → Char
  | .str => 's'
  | .repr => 'r'
  | .ascii => 'a'

/-! ### Quoting -/

namespace Quoting

/-- The marks that a text can be put between, in order of preference. -/
def marks : List (List Char) :=
  [['\''], ['"'], ['"', '"', '"'], ['\'', '\'', '\'']]

/-- Does `needle` occur in the text? -/
def occurs (needle : List Char) : List Char → Bool
  | [] => needle.isEmpty
  | c :: cs => needle.isPrefixOf (c :: cs) || occurs needle cs

/-- A code point between marks. Line ends and tabs stand by themselves unless
`strict`. -/
def showCode (strict : Bool) (c : Nat) : List Char :=
  if !strict && (c = 10 || c = 9) then [Char.ofNat c]
  else if c = 92 || !isPrintable c then escapeCode c
  else [Char.ofNat c]

/-- Writes a text so that as few escapes as possible are needed, and says which
of the given marks it can still be put between. When none is left the text is
written in its quoted form. -/
def fit (strict : Bool) (marks : List (List Char)) (text : List Nat) :
    List Char × List (List Char) :=
  let shown := text.flatMap (showCode strict)
  let long := if shown.contains '\n' then marks.filter (·.length == 3) else marks
  match long.filter (!occurs · shown) with
  | [] =>
    let mark := quoteMark text
    (quotedBody text, [(marks.find? (·.contains mark)).getD [mark]])
  | usable =>
    match shown.getLast? with
    | none => (shown, usable)
    | some last =>
      let clear := usable.filter (·.head? != some last)
      let ending := usable.filter (·.head? == some last)
      match clear with
      | [] => (shown.dropLast ++ ['\\', last], ending)
      | _ => (shown, clear ++ ending)

/-- Puts a text between the first of the marks. -/
def enclose (marks : List (List Char)) (text : List Char) : List Char :=
  let mark := marks.head?.getD ['\'']
  mark ++ text ++ mark

/-- A text between marks that avoids backslashes where it can. -/
def sparing (text : List Nat) : List Char :=
  let (shown, usable) := fit false marks text
  enclose usable shown

/-- Fits the parts of a formatted text one after the other; constant parts
escape line ends and tabs. -/
def fitAll (marks : List (List Char)) : List (List Nat × Bool) → List Char × List (List Char)
  | [] => ([], marks)
  | (text, isConstant) :: parts =>
    let (shown, usable) := fit isConstant marks text
    let (rest, final) := fitAll usable parts
    (shown ++ rest, final)

/-- The constant part of a formatted text: braces are doubled. -/
def doubleBraces (text : List Nat) : List Nat :=
  text.flatMap fun c => if c = 123 || c = 125 then [c, c] else [c]

end Quoting

/-! ### Constants -/

/-- Floats have the fewest digits that read back, positionally from `1e-4` up to
`1e16`; beyond the largest value a literal that overflows stands for them. -/
def floatLayout : Decimal.Layout where
  plainFrom := -4
  plainBelow := 16
  pointZero := true
  infinity := "1e309"

/-- Imaginary numbers are laid out like floats, but whole ones have no point. -/
def imaginaryLayout : Decimal.Layout :=
  { floatLayout with pointZero := false }

/-- Integers are written with at most this many digits. -/
def maxPrintedDigits : Nat := 4300

/-- The text of a constant. -/
def Constant.print (plain : Bool) : Constant → Option (List Char)
  | noneLit => some "None".toList
  | trueLit => some "True".toList
  | falseLit => some "False".toList
  | ellipsis => some "...".toList
  | int n =>
    let digits := Nat.toDigits 10 n
    if digits.length ≤ maxPrintedDigits then some digits else none
  | float d => some (d.render floatLayout)
  | imaginary d => some (d.render imaginaryLayout ++ ['j'])
  | text marked cs =>
    some ((if marked then ['u'] else []) ++ if plain then Quoting.sparing cs else quoted cs)
  | bytes bs => some (quotedBytes bs)

/-- Is the constant an integer or a truth value? A member access sets it off by
a blank. -/
def Constant.isWhole : Constant → Bool
  | int _ | trueLit | falseLit => true
  | _ => false

/-! ### Expressions -/

/-- Texts joined with `sep`. -/
def interleave (sep : String) (parts : List (List Char)) : List Char :=
  sep.toList.intercalate parts

/-- Items between commas; a single one is followed by a comma. -/
def commaList : List (List Char) → List Char
  | [item] => item ++ [',']
  | items => interleave ", " items

/-- A text in round brackets if `wrap`. -/
def parenthesizeIf (wrap : Bool) (text : List Char) : List Char :=
  if wrap then '(' :: text ++ [')'] else text

namespace Expr

mutual

/-- The text of an expression at a position of the given level. -/
def print (plain : Bool) (level : Level) : Expr → Option (List Char)
  | name id => some id.toList
  | constant c => c.print plain
  | joined parts =>
    if plain then do
      let text ← innerAll parts
      some ('f' :: Quoting.sparing text)
    else do
      let texts ← innerParts parts
      let (shown, usable) := Quoting.fitAll Quoting.marks texts
      some ('f' :: Quoting.enclose usable shown)
  | field _ _ _ => none
  | named target value => do
    let v ← value.print plain Level.atom
    some (parenthesizeIf (Level.named < level) (target.toList ++ " := ".toList ++ v))
  | boolean op operands => do
    let texts ← printRising plain op.level.next operands
    some (parenthesizeIf (op.level < level) (op.word.intercalate texts))
  | binary op left right => do
    let l ← left.print plain op.operandLevels.1
    let r ← right.print plain op.operandLevels.2
    some (parenthesizeIf (op.level < level) (l ++ op.sign ++ r))
  | unary op operand => do
    let text ← operand.print plain op.level
    some (parenthesizeIf (op.level < level) (op.sign ++ text))
  | compare left rest => do
    let l ← left.print plain Level.compare.next
    let r ← printComparisons plain rest
    some (parenthesizeIf (Level.compare < level) (l ++ r))
  | lambda params body => do
    let ps ← printSignature plain params
    let b ← body.print plain Level.test
    some (parenthesizeIf (Level.test < level)
      ("lambda".toList ++ (if ps.isEmpty then [] else ' ' :: ps) ++ ": ".toList ++ b))
  | ifElse body test orelse => do
    let b ← body.print plain Level.test.next
    let t ← test.print plain Level.test.next
    let o ← orelse.print plain Level.test
    some (parenthesizeIf (Level.test < level)
      (b ++ " if ".toList ++ t ++ " else ".toList ++ o))
  | tuple items => do
    let texts ← printAll plain items
    some (parenthesizeIf (items.isEmpty || Level.tuple < level) (commaList texts))
  | list items => do
    let texts ← printAll plain items
    some ('[' :: interleave ", " texts ++ [']'])
  | set items => do
    let texts ← printAll plain items
    some ('{' :: interleave ", " texts ++ ['}'])
  | dict entries => do
    let texts ← printEntries plain entries
    some ('{' :: interleave ", " texts ++ ['}'])
  | generator item clauses => do
    let i ← item.print plain Level.test
    let c ← printClauses plain clauses
    some ('(' :: i ++ c ++ [')'])
  | listComp item clauses => do
    let i ← item.print plain Level.test
    let c ← printClauses plain clauses
    some ('[' :: i ++ c ++ [']'])
  | setComp item clauses => do
    let i ← item.print plain Level.test
    let c ← printClauses plain clauses
    some ('{' :: i ++ c ++ ['}'])
  | dictComp key value clauses => do
    let k ← key.print plain Level.test
    let v ← value.print plain Level.test
    let c ← printClauses plain clauses
    some ('{' :: k ++ ": ".toList ++ v ++ c ++ ['}'])
  | await value => do
    let v ← value.print plain Level.atom
    some (parenthesizeIf (Level.await < level) ("await ".toList ++ v))
  | yield none => some (parenthesizeIf (Level.yield < level) "yield".toList)
  | yield (some value) => do
    let v ← value.print plain Level.atom
    some (parenthesizeIf (Level.yield < level) ("yield ".toList ++ v))
  | yieldFrom value => do
    let v ← value.print plain Level.atom
    some (parenthesizeIf (Level.yield < level) ("yield from ".toList ++ v))
  | call function args keywords => do
    let f ← function.print plain Level.atom
    let a ← printAll plain args
    let k ← printArguments plain keywords
    some (f ++ '(' :: interleave ", " (a ++ k) ++ [')'])
  | member value attr => do
    let v ← value.print plain Level.atom
    let gap := match value with
      | constant c => if c.isWhole then [' '] else []
      | _ => []
    some (v ++ gap ++ '.' :: attr.toList)
  | subscript value index => do
    let v ← value.print plain Level.atom
    match index with
    | tuple (item :: items) => do
      let texts ← printAll plain (item :: items)
      some (v ++ '[' :: commaList texts ++ [']'])
    | index => do
      let i ← index.print plain Level.test
      some (v ++ '[' :: i ++ [']'])
  | slice lower upper step => do
    let l ← printOption plain lower
    let u ← printOption plain upper
    let s ← printOption plain step
    some (l ++ ':' :: u ++ (if step.isSome then ':' :: s else []))
  | starred value => do
    let v ← value.print plain Level.bitOr
    some ('*' :: v)

/-- Expressions by themselves. -/
def printAll (plain : Bool) : List Expr → Option (List (List Char))
  | [] => some []
  | e :: es => do
    let t ← e.print plain Level.test
    let ts ← printAll plain es
    some (t :: ts)

/-- The operands of `and` and `or`: each binds one level tighter than the one
before. -/
def printRising (plain : Bool) (level : Level) : List Expr → Option (List (List Char))
  | [] => some []
  | e :: es => do
    let t ← e.print plain level
    let ts ← printRising plain level.next es
    some (t :: ts)

/-- An expression that may be missing. -/
def printOption (plain : Bool) : Option Expr → Option (List Char)
  | none => some []
  | some e => e.print plain Level.test

/-- The further operands of a comparison. -/
def printComparisons (plain : Bool) : List Comparison → Option (List Char)
  | [] => some []
  | .mk op operand :: rest => do
    let t ← operand.print plain Level.compare.next
    let ts ← printComparisons plain rest
    some (op.sign ++ t ++ ts)

/-- The entries of a dictionary. -/
def printEntries (plain : Bool) : List Entry → Option (List (List Char))
  | [] => some []
  | .pair key value :: rest => do
    let k ← key.print plain Level.test
    let v ← value.print plain Level.test
    let ts ← printEntries plain rest
    some ((k ++ ": ".toList ++ v) :: ts)
  | .spread value :: rest => do
    let v ← value.print plain Level.bitOr
    let ts ← printEntries plain rest
    some (('*' :: '*' :: v) :: ts)

/-- The clauses of a comprehension. -/
def printClauses (plain : Bool) : List Clause → Option (List Char)
  | [] => some []
  | .mk isAsync target source conditions :: rest => do
    let t ← target.print plain Level.tuple
    let s ← source.print plain Level.test.next
    let cs ← printConditions plain conditions
    let ts ← printClauses plain rest
    some ((if isAsync then " async for ".toList else " for ".toList) ++ t ++ " in ".toList ++ s
      ++ cs ++ ts)

/-- The conditions of a clause. -/
def printConditions (plain : Bool) : List Expr → Option (List Char)
  | [] => some []
  | e :: es => do
    let t ← e.print plain Level.test.next
    let ts ← printConditions plain es
    some (" if ".toList ++ t ++ ts)

/-- The keyword arguments of a call. -/
def printArguments (plain : Bool) : List Argument → Option (List (List Char))
  | [] => some []
  | .keyword id value :: rest => do
    let v ← value.print plain Level.test
    let ts ← printArguments plain rest
    some ((id.toList ++ '=' :: v) :: ts)
  | .spread value :: rest => do
    let v ← value.print plain Level.test
    let ts ← printArguments plain rest
    some (('*' :: '*' :: v) :: ts)

/-- Parameters with their defaults. -/
def printParams (plain : Bool) : List Param → Option (List (List Char))
  | [] => some []
  | .mk id fallback :: rest => do
    let d ← printOption plain fallback
    let ts ← printParams plain rest
    some ((id.toList ++ (if fallback.isSome then '=' :: d else [])) :: ts)

/-- A parameter list. The slash ends the parameters by position only, and a bare
star stands before those by name only if nothing else does. -/
def printSignature (plain : Bool) : Params → Option (List Char)
  | .mk positional regular rest byName extra => do
    let p ← printParams plain positional
    let r ← printParams plain regular
    let n ← printParams plain byName
    let star := match rest with
      | some id => [('*' :: id.toList)]
      | none => if byName.isEmpty then [] else [['*']]
    some (interleave ", " (p ++ (if positional.isEmpty then [] else [['/']]) ++ r ++ star ++ n
      ++ (extra.map fun id => '*' :: '*' :: id.toList).toList))

/-- What stands between the marks of a formatted text for one of its parts. -/
def inner : Expr → Option (List Nat)
  | joined parts => innerAll parts
  | constant (.text _ cs) => some (Quoting.doubleBraces cs)
  | field value conversion format => do
    let v ← value.print true Level.test.next
    if v.contains '\\' then none
    else
      let f ← innerOption format
      let gap := if v.head? == some '{' then [' '] else []
      let conv := match conversion with
        | some c => ['!', c.letter]
        | none => []
      some (codes ('{' :: gap ++ v ++ conv ++ (if format.isSome then [':'] else [])) ++ f ++ [125])
  | _ => none

/-- What stands between the marks for a format that may be missing. -/
def innerOption : Option Expr → Option (List Nat)
  | none => some []
  | some e => e.inner

/-- What stands between the marks for all parts. -/
def innerAll : List Expr → Option (List Nat)
  | [] => some []
  | e :: es => do
    let t ← e.inner
    let ts ← innerAll es
    some (t ++ ts)

/-- The parts between the marks one by one, and which of them are constant. -/
def innerParts : List Expr → Option (List (List Nat × Bool))
  | [] => some []
  | e :: es => do
    let t ← e.inner
    let ts ← innerParts es
    let isConstant := match e with
      | constant _ => true
      | _ => false
    some ((t, isConstant) :: ts)

end

/-- The text of an expression that stands by itself. -/
def text (e : Expr) : Option String :=
  (e.print false Level.test).map String.ofList

end Expr

end Branchwise.Source
