/-
From source text to tokens. Indentation becomes `indent` and `dedent` tokens,
blank lines and comments vanish, and inside brackets line ends do not count.

* `prepare`: line ends are unified and the text ends in one.
* `margin`, `closeBlocks`, `openBlocks`: the indentation of a line, measured with
  two tab sizes that have to agree, against the open blocks.
* `scanSymbol`, `scanLiteral`, `wordKind?`, `scanToken`: the token at the start of
  a text.
* `Lexer.lineStart`, `Lexer.withinLine`, `lex`: one step, and all of them.
* `tokens?`: all tokens of a text, or `none` if it is no sequence of tokens.
-/
import Branchwise.Source.Token.Numeral
import Branchwise.Text.Compatibility
import Branchwise.Text.IdentifierChars
import Branchwise.Text.Lines

namespace Branchwise.Source

open Branchwise.Text (unifyNewlines isIdentifier Compatibility.normalize)

/-- The text with unified line ends, ended by one. A final carriage return with
line feed counts as a line end that is followed by an empty line. -/
def prepare (source : List Char) : List Char :=
  let text := unifyNewlines source
  if text.getLast? == some '\n' && !Text.endsWith ['\r', '\n'] source then text
  else text ++ ['\n']

/-! ### Indentation -/

/-- The indentation of a line in two measures: with tab stops at every eighth
column, and with tabs as one column. -/
structure Margin where
  col : Nat
  alt : Nat
  deriving Repr, DecidableEq

/-- The indentation at the start of a line, the line and the text where it
ends. A line that is continued within its indentation is indented as far as its
first part, if that is indented at all. -/
def margin (m : Margin) (first line : Nat) : List Char → Option (Margin × Nat × List Char)
  | ' ' :: cs => margin ⟨m.col + 1, m.alt + 1⟩ first line cs
  | '\t' :: cs => margin ⟨(m.col / 8 + 1) * 8, m.alt + 1⟩ first line cs
  | '\x0c' :: cs => margin ⟨0, 0⟩ first line cs
  | '\\' :: '\n' :: c :: cs =>
    margin m (if first = 0 then m.col else first) (line + 1) (c :: cs)
  | '\\' :: _ => none
  | cs => some (if first = 0 then m else ⟨first, first⟩, line, cs)

/-- The most blocks that can be open at once. -/
def maxBlocks : Nat := 99

/-- The most brackets that can be open at once. -/
def maxBrackets : Nat := 200

/-- Closes the blocks that a line at this margin ends; the innermost comes
first. Also says how many are closed. -/
def closeBlocks (col : Nat) : List Margin → Nat × List Margin
  | [] => (0, [])
  | m :: ms =>
    if col < m.col then
      let (n, rest) := closeBlocks col ms
      (n + 1, rest)
    else (0, m :: ms)

/-- The tokens of a line's indentation and the blocks open afterwards. The two
measures must agree on whether the line is level, deeper or out. -/
def openBlocks (here : Margin) (blocks : List Margin) :
    Option (List Token.Kind × List Margin) :=
  let outer := blocks.head?.getD ⟨0, 0⟩
  if here.col = outer.col then
    if here.alt = outer.alt then some ([], blocks) else none
  else if outer.col < here.col then
    if maxBlocks ≤ blocks.length || here.alt ≤ outer.alt then none
    else some ([.indent], here :: blocks)
  else
    let (n, rest) := closeBlocks here.col blocks
    if rest.head?.getD ⟨0, 0⟩ = here then some (List.replicate n .dedent, rest) else none

/-! ### Symbols, words and quotations -/

/-- The longest symbol at the start of a text. -/
def scanSymbol : List Char → Option (Symbol × List Char)
  | '.' :: '.' :: '.' :: cs => some (.ellipsis, cs)
  | '*' :: '*' :: '=' :: cs => some (.doubleStarAssign, cs)
  | '/' :: '/' :: '=' :: cs => some (.doubleSlashAssign, cs)
  | '<' :: '<' :: '=' :: cs => some (.leftShiftAssign, cs)
  | '>' :: '>' :: '=' :: cs => some (.rightShiftAssign, cs)
  | '*' :: '*' :: cs => some (.doubleStar, cs)
  | '/' :: '/' :: cs => some (.doubleSlash, cs)
  | '<' :: '<' :: cs => some (.leftShift, cs)
  | '>' :: '>' :: cs => some (.rightShift, cs)
  | '<' :: '>' :: _ => none
  | '!' :: '=' :: cs => some (.notEqual, cs)
  | '%' :: '=' :: cs => some (.percentAssign, cs)
  | '&' :: '=' :: cs => some (.ampAssign, cs)
  | '*' :: '=' :: cs => some (.starAssign, cs)
  | '+' :: '=' :: cs => some (.plusAssign, cs)
  | '-' :: '=' :: cs => some (.minusAssign, cs)
  | '-' :: '>' :: cs => some (.arrow, cs)
  | '/' :: '=' :: cs => some (.slashAssign, cs)
  | ':' :: '=' :: cs => some (.walrus, cs)
  | '<' :: '=' :: cs => some (.lessEqual, cs)
  | '=' :: '=' :: cs => some (.equal, cs)
  | '>' :: '=' :: cs => some (.greaterEqual, cs)
  | '@' :: '=' :: cs => some (.atAssign, cs)
  | '^' :: '=' :: cs => some (.caretAssign, cs)
  | '|' :: '=' :: cs => some (.pipeAssign, cs)
  | '(' :: cs => some (.lparen, cs)
  | ')' :: cs => some (.rparen, cs)
  | '[' :: cs => some (.lbracket, cs)
  | ']' :: cs => some (.rbracket, cs)
  | '{' :: cs => some (.lbrace, cs)
  | '}' :: cs => some (.rbrace, cs)
  | ':' :: cs => some (.colon, cs)
  | ',' :: cs => some (.comma, cs)
  | ';' :: cs => some (.semicolon, cs)
  | '.' :: cs => some (.dot, cs)
  | '@' :: cs => some (.at, cs)
  | '=' :: cs => some (.assign, cs)
  | '+' :: cs => some (.plus, cs)
  | '-' :: cs => some (.minus, cs)
  | '*' :: cs => some (.star, cs)
  | '/' :: cs => some (.slash, cs)
  | '%' :: cs => some (.percent, cs)
  | '|' :: cs => some (.pipe, cs)
  | '^' :: cs => some (.caret, cs)
  | '&' :: cs => some (.amp, cs)
  | '~' :: cs => some (.tilde, cs)
  | '<' :: cs => some (.less, cs)
  | '>' :: cs => some (.greater, cs)
  | _ => none

/-- The closing partner of an opening bracket. -/
def Symbol.closing? : Symbol → Option Symbol
  | .lparen => some .rparen
  | .lbracket => some .rbracket
  | .lbrace => some .rbrace
  | _ => none

/-- Does the symbol close a bracket? -/
def Symbol.isClosing (s : Symbol) : Bool :=
  s == .rparen || s == .rbracket || s == .rbrace

/-- The open brackets after a symbol, each given by the symbol that closes it;
`none` if they do not match or are too many. -/
def stepBrackets (s : Symbol) (open' : List Symbol) : Option (List Symbol) :=
  match s.closing? with
  | some close => if maxBrackets ≤ open'.length then none else some (close :: open')
  | none =>
    if s.isClosing then
      match open' with
      | close :: rest => if close = s then some rest else none
      | [] => none
    else some open'

/-- The token of a whole word; `none` if it is neither a keyword nor a name. -/
def wordKind? (word : List Char) : Option Token.Kind :=
  match Keyword.ofSpelling? (String.ofList word) with
  | some k => some (.keyword k)
  | none =>
    if word.all (·.toNat < 128) || isIdentifier word then
      some (.name (String.ofList word) (String.ofList (Compatibility.normalize word)))
    else none

/-- The body of a quotation up to its closing mark, and the text behind it. A
backslash keeps the next character from closing it; a line end closes no body
and may stand in one between triple marks only, or behind a backslash. -/
def quotationBody (mark : Char) (triple : Bool) : List Char → Option (List Char × List Char)
  | [] => none
  | '\\' :: c :: cs => (quotationBody mark triple cs).map fun (b, rest) => ('\\' :: c :: b, rest)
  | c :: cs =>
    if c = mark && !triple then some ([], cs)
    else if c = mark && [mark, mark].isPrefixOf cs then some ([], cs.drop 2)
    else if c = '\n' && !triple then none
    else (quotationBody mark triple cs).map fun (b, rest) => (c :: b, rest)

/-- The quotation that starts with this mark. -/
def scanQuotation (mark : Char) (cs : List Char) : Option (List Char × List Char) :=
  if [mark, mark].isPrefixOf cs then quotationBody mark true (cs.drop 2)
  else quotationBody mark false cs

/-- The length of a string prefix in front of a quotation mark. -/
def quotationPrefix? (cs : List Char) : Option (List Char) :=
  let isMark (c : Char) : Bool := c == '\'' || c == '"'
  let isLetter (c : Char) : Bool := ['b', 'r', 'u', 'f'].contains c.toLower
  let isPair (c d : Char) : Bool :=
    [['b', 'r'], ['r', 'b'], ['f', 'r'], ['r', 'f']].contains [c.toLower, d.toLower]
  match cs with
  | c :: d :: e :: _ =>
    if isMark c then some []
    else if isMark d && isLetter c then some [c]
    else if isMark e && isPair c d then some [c, d]
    else none
  | c :: d :: _ =>
    if isMark c then some [] else if isMark d && isLetter c then some [c] else none
  | [c] => if isMark c then some [] else none
  | [] => none

/-- A quotation with its prefix, and the text behind it. -/
def scanLiteral (lead cs : List Char) : Option (Quotation × List Char) :=
  match cs.drop lead.length with
  | mark :: rest => do
    let (body, after) ← scanQuotation mark rest
    let has (c : Char) : Bool := lead.any (·.toLower == c)
    some (⟨has 'b', has 'r', has 'f', lead == ['u'], body⟩, after)
  | [] => none

/-- The token at the start of a text that starts with neither a blank, a comment
nor a line end, and the text behind it. -/
def scanToken : List Char → Option (Token.Kind × List Char)
  | [] => none
  | c :: rest =>
    let cs := c :: rest
    if let some lead := quotationPrefix? cs then
      (scanLiteral lead cs).map fun (literal, after) => (.text literal, after)
    else if isWordStart c then
      (wordKind? (cs.takeWhile isWordPart)).map fun kind => (kind, cs.dropWhile isWordPart)
    else if c.isDigit || (c == '.' && (rest.head?.map Char.isDigit).getD false) then
      (Numeral.scan cs).map fun (value, after) => (.number value, after)
    else (scanSymbol cs).map fun (sym, after) => (.symbol sym, after)

/-! ### The whole text -/

/-- Where the lexer stands. -/
structure Lexer where
  line : Nat
  atLineStart : Bool
  blocks : List Margin
  brackets : List Symbol

/-- Where the lexer stands after a step, the text that is left to it, and the
tokens that it found, the last one first. -/
structure Lexed where
  state : Lexer
  rest : List Char
  found : List Token

/-- Is the character blank within a line? -/
def isBlank (c : Char) : Bool :=
  c == ' ' || c == '\t' || c == '\x0c'

namespace Lexer

variable (st : Lexer)

/-- The step at the start of a line: a line that holds nothing, or the
indentation of the line. -/
def lineStart (cs : List Char) : Option Lexed := do
  let (here, line, rest) ← margin ⟨0, 0⟩ 0 st.line cs
  match rest with
  | '#' :: _ | '\n' :: _ =>
    match rest.dropWhile (· != '\n') with
    | _ :: after => some ⟨{ st with line := line + 1 }, after, []⟩
    | [] => none
  | _ =>
    let (kinds, blocks) ← openBlocks here st.blocks
    some ⟨{ st with line, blocks, atLineStart := false }, rest, kinds.map fun k => ⟨k, line⟩⟩

/-- The step over a token: a text may hold line ends, and symbols may be
brackets. -/
def afterToken (kind : Token.Kind) : Option Lexer :=
  match kind with
  | .text literal => some { st with line := st.line + literal.body.count '\n' }
  | .symbol sym => (stepBrackets sym st.brackets).map fun brackets => { st with brackets }
  | _ => some st

/-- The step within a line. Line ends inside brackets are blank, and so are
those behind a backslash. -/
def withinLine : List Char → Option Lexed
  | '#' :: rest => some ⟨st, rest.dropWhile (· != '\n'), []⟩
  | '\n' :: rest =>
    if st.brackets.isEmpty then
      some ⟨{ st with line := st.line + 1, atLineStart := true }, rest, [⟨.newline, st.line⟩]⟩
    else some ⟨{ st with line := st.line + 1 }, rest, []⟩
  | '\\' :: '\n' :: c :: rest => some ⟨{ st with line := st.line + 1 }, c :: rest, []⟩
  | '\\' :: _ => none
  | cs =>
    if (cs.head?.map isBlank).getD false then some ⟨st, cs.drop 1, []⟩
    else do
      let (kind, after) ← scanToken cs
      let next ← st.afterToken kind
      some ⟨next, after, [⟨kind, st.line⟩]⟩

end Lexer

/-- Reads on from `cs`; `done` holds the tokens so far, the last one first. The
fuel bounds the number of steps; each step but the one at a line's start takes
a character. -/
def lex : Nat → Lexer → List Char → List Token → Option (List Token)
  | 0, _, _, _ => none
  | fuel + 1, st, cs, done =>
    if !st.atLineStart && cs.isEmpty then
      if st.brackets.isEmpty then some (⟨.stop, st.line⟩ :: done).reverse else none
    else
      match if st.atLineStart then st.lineStart cs else st.withinLine cs with
      | some s => lex fuel s.state s.rest (s.found ++ done)
      | none => none

/-- The tokens of a text, the last of them `stop`. -/
def tokens? (source : List Char) : Option (List Token) :=
  let text := prepare source
  lex (2 * text.length + 2) ⟨1, true, [], []⟩ text []

end Branchwise.Source
