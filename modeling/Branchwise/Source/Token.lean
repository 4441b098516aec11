/-
The tokens of a Python source text.

* `Keyword`, `Symbol`: the reserved words and the operators and delimiters.
* `Numeral`: what a number literal stands for.
* `Quotation`: a string literal, its prefix decoded and its body as written.
* `Token`: one token with the line that it starts on. Names carry both their
  spelling, which decides whether they act as a contextual keyword, and their
  form, under which they name things.
-/
import Branchwise.Decimal.Basic

namespace Branchwise.Source

/-- The reserved words. -/
inductive Keyword where
  | falseKw | noneKw | trueKw | andKw | asKw | assertKw | asyncKw | awaitKw | breakKw | classKw
  | continueKw | defKw | delKw | elifKw | elseKw | exceptKw | finallyKw | forKw | fromKw
  | globalKw | ifKw | importKw | inKw | isKw | lambdaKw | nonlocalKw | notKw | orKw | passKw
  | raiseKw | returnKw | tryKw | whileKw | withKw | yieldKw
  deriving Repr, DecidableEq

/-- The reserved word with this spelling, if any. -/
def Keyword.ofSpelling? : String → Option Keyword
  | "False" => some falseKw | "None" => some noneKw | "True" => some trueKw | "and" => some andKw
  | "as" => some asKw | "assert" => some assertKw | "async" => some asyncKw
  | "await" => some awaitKw | "break" => some breakKw | "class" => some classKw
  | "continue" => some continueKw | "def" => some defKw | "del" => some delKw
  | "elif" => some elifKw | "else" => some elseKw | "except" => some exceptKw
  | "finally" => some finallyKw | "for" => some forKw | "from" => some fromKw
  | "global" => some globalKw | "if" => some ifKw | "import" => some importKw | "in" => some inKw
  | "is" => some isKw | "lambda" => some lambdaKw | "nonlocal" => some nonlocalKw
  | "not" => some notKw | "or" => some orKw | "pass" => some passKw | "raise" => some raiseKw
  | "return" => some returnKw | "try" => some tryKw | "while" => some whileKw
  | "with" => some withKw | "yield" => some yieldKw
  | _ => none

/-- Operators and delimiters. -/
inductive Symbol where
  | lparen | rparen | lbracket | rbracket | lbrace | rbrace
  | colon | comma | semicolon | dot | ellipsis | arrow | at | assign | walrus
  | plus | minus | star | slash | doubleSlash | percent | doubleStar
  | pipe | caret | amp | tilde | leftShift | rightShift
  | less | greater | lessEqual | greaterEqual | equal | notEqual
  | plusAssign | minusAssign | starAssign | slashAssign | doubleSlashAssign | percentAssign
  | doubleStarAssign | pipeAssign | caretAssign | ampAssign | leftShiftAssign
  | rightShiftAssign | atAssign
  deriving Repr, DecidableEq

/-- Does the symbol assign the result of an operation to its left side? -/
def Symbol.isAugmented : Symbol → Bool
  | plusAssign | minusAssign | starAssign | slashAssign | doubleSlashAssign | percentAssign
  | doubleStarAssign | pipeAssign | caretAssign | ampAssign | leftShiftAssign
  | rightShiftAssign | atAssign => true
  | _ => false

/-- What a number literal stands for. -/
inductive Numeral where
  | int (value : Nat)
  | float (value : Decimal)
  | imaginary (value : Decimal)
  deriving Repr, DecidableEq

/-- A string literal: the flags of its prefix, and its body as written. -/
structure Quotation where
  isBytes : Bool
  isRaw : Bool
  isFormatted : Bool
  /-- The prefix is the small letter `u`, which constants remember. -/
  isMarked : Bool
  body : List Char
  deriving Repr, DecidableEq

/-- The kinds of tokens. -/
inductive Token.Kind where
  | name (spelling form : String)
  | keyword (word : Keyword)
  | symbol (sym : Symbol)
  | number (value : Numeral)
  | text (literal : Quotation)
  | newline
  | indent
  | dedent
  | stop
  deriving Repr, DecidableEq

/-- A token and the line that it starts on. -/
structure Token where
  kind : Token.Kind
  line : Nat
  deriving Repr, DecidableEq

end Branchwise.Source
