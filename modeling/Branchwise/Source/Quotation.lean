/-
What string literals stand for.

* `unescape`: the code points, or the byte values, that a body denotes. Escapes by
  the name of a character are looked up, since the names are the interpreter's.
* `Piece`: a stretch of a formatted text: constant, or a replacement field whose
  expression is still source text.
* `fieldEnd`: where the expression of a replacement field ends; brackets and
  quotations inside it are skipped.
* `pieces?`: the pieces of a formatted text. Fields may nest in formats, but
  only one deep.
-/
import Branchwise.Source.Expr
import Branchwise.Source.Token
import Branchwise.Text.Basic

namespace Branchwise.Source

open Branchwise.Text (hexValue)

/-! ### Escapes -/

/-- The value of hexadecimal digits; `none` if one of them is something else. -/
def hexValue? (cs : List Char) : Option Nat :=
  cs.foldl (fun n c => do some (16 * (← n) + (← hexValue c))) (some 0)

/-- The value of an octal digit. -/
def octalValue? (c : Char) : Option Nat :=
  if '0' ≤ c ∧ c ≤ '7' then some (c.toNat - '0'.toNat) else none

/-- The escapes of one letter. -/
def escapeLetter? (c : Char) : Option Nat :=
  match c with
  | '\\' => some 92
  | '\'' => some 39
  | '"' => some 34
  | 'a' => some 7
  | 'b' => some 8
  | 'f' => some 12
  | 'n' => some 10
  | 'r' => some 13
  | 't' => some 9
  | 'v' => some 11
  | _ => none

/-- An escape by a fixed number of hexadecimal digits: its code point, and how many
characters behind the backslash belong to it. -/
def codeEscape? (digits : Nat) (cs : List Char) : Option (List Nat × Nat) := do
  if (cs.take digits).length < digits then none
  else
    let n ← hexValue? (cs.take digits)
    if 0x10FFFF < n then none else some ([n], digits + 1)

/-- An escape by the name of a character in braces. -/
def nameEscape? (charNamed : List Char → Option Char) (cs : List Char) :
    Option (List Nat × Nat) :=
  match cs with
  | '{' :: rest =>
    let name := rest.takeWhile (· != '}')
    if name.isEmpty || name.length = rest.length then none
    else (charNamed name).map fun c => ([c.toNat], name.length + 3)
  | _ => none

/-- An escape by up to three octal digits. -/
def octalEscape (bytes : Bool) (cs : List Char) : List Nat × Nat :=
  let digits := (cs.take 3).takeWhile fun c => (octalValue? c).isSome
  let n := digits.foldl (fun n c => 8 * n + (octalValue? c).getD 0) 0
  ([if bytes then n % 256 else n], digits.length)

/-- What a backslash denotes together with the text behind it, and how many
characters of that text belong to the escape. An escaped line end vanishes, and an
unknown escape stands for itself. Bytes know no escapes for code points, and their
octal escapes count modulo 256. -/
def escape? (charNamed : List Char → Option Char) (bytes : Bool) :
    List Char → Option (List Nat × Nat)
  | [] => some ([92], 0)
  | '\n' :: _ => some ([], 1)
  | 'x' :: cs => codeEscape? 2 cs
  | c :: cs =>
    if let some n := escapeLetter? c then some ([n], 1)
    else if (octalValue? c).isSome then some (octalEscape bytes (c :: cs))
    else if bytes then some ([92, c.toNat], 1)
    else if c = 'N' then nameEscape? charNamed cs
    else if c = 'u' then codeEscape? 4 cs
    else if c = 'U' then codeEscape? 8 cs
    else some ([92, c.toNat], 1)

/-- What a body denotes behind its next `skip` characters, which belong to an
escape. -/
def unescapeFrom (charNamed : List Char → Option Char) (bytes : Bool) :
    Nat → List Char → Option (List Nat)
  | _, [] => some []
  | skip + 1, _ :: cs => unescapeFrom charNamed bytes skip cs
  | 0, c :: cs =>
    if c = '\\' then do
      let (codes, skip) ← escape? charNamed bytes cs
      (unescapeFrom charNamed bytes skip cs).map (codes ++ ·)
    else (unescapeFrom charNamed bytes 0 cs).map (c.toNat :: ·)

/-- What a body denotes, escapes decoded. Which characters have names, and which
names, is for `charNamed` to say. -/
def unescape (charNamed : List Char → Option Char) (bytes : Bool) (body : List Char) :
    Option (List Nat) :=
  unescapeFrom charNamed bytes 0 body

/-- What a body denotes, raw or with escapes. -/
def bodyCodes (charNamed : List Char → Option Char) (bytes raw : Bool) (body : List Char) :
    Option (List Nat) :=
  if raw then some (body.map Char.toNat) else unescape charNamed bytes body

/-! ### Formatted texts -/

/-- A stretch of a formatted text. -/
inductive Piece where
  | text (codes : List Nat)
  /-- A replacement field. `shown` is the text that a field with an equals sign
  puts in front of its value. -/
  | field (expr : List Char) (shown : Option (List Char)) (conversion : Option Conversion)
      (format : Option (List Piece))

/-- A quotation that is open inside a replacement field. -/
structure OpenMark where
  mark : Char
  triple : Bool

/-- The most brackets that may be open in a replacement field. -/
def maxFieldBrackets : Nat := 200

/-- Puts a character in front of what was read behind it. -/
def keep (c : Char) (r : Option (List Char × List Char)) : Option (List Char × List Char) :=
  r.map fun (x, rest) => (c :: x, rest)

/-- The expression of a replacement field, and the text from the character that
ends it: an exclamation mark, a colon, a closing brace or an equals sign outside
of brackets and quotations that is not part of a comparison. The next `skip`
characters are known to belong to the expression. -/
def fieldEnd (skip : Nat) (quote : Option OpenMark) (closers : List Char) :
    List Char → Option (List Char × List Char)
  | [] => none
  | c :: cs =>
    if 0 < skip then keep c (fieldEnd (skip - 1) quote closers cs)
    else if c = '\\' then none
    else
      match quote with
      | some q =>
        if c = q.mark && q.triple then
          if [c, c].isPrefixOf cs then keep c (fieldEnd 2 none closers cs)
          else keep c (fieldEnd 0 quote closers cs)
        else keep c (fieldEnd 0 (if c = q.mark then none else quote) closers cs)
      | none =>
        if c = '\'' || c = '"' then
          if [c, c].isPrefixOf cs then keep c (fieldEnd 2 (some ⟨c, true⟩) closers cs)
          else keep c (fieldEnd 0 (some ⟨c, false⟩) closers cs)
        else if c = '(' || c = '[' || c = '{' then
          if maxFieldBrackets ≤ closers.length then none
          else
            let closer := if c = '(' then ')' else if c = '[' then ']' else '}'
            keep c (fieldEnd 0 none (closer :: closers) cs)
        else if c = '#' then none
        else if closers.isEmpty && ['!', ':', '}', '=', '<', '>'].contains c then
          if cs.head? == some '=' && c != ':' && c != '}' then
            keep c (fieldEnd 1 none closers cs)
          else if c = '<' || c = '>' then keep c (fieldEnd 0 none closers cs)
          else some ([], c :: cs)
        else if c = ')' || c = ']' || c = '}' then
          if closers.head? == some c then keep c (fieldEnd 0 none (closers.drop 1) cs) else none
        else keep c (fieldEnd 0 none closers cs)

/-- How many characters behind a backslash cannot start a replacement field: those
of a named escape with its braces, a brace never, and any other single character. -/
def escapedLength : List Char → Nat
  | 'N' :: '{' :: name => (name.takeWhile (· != '}')).length + 3
  | c :: _ => if c = '{' || c = '}' then 0 else 1
  | [] => 0

/-- A constant stretch: its text as written, whether it ended at a doubled brace,
and what follows. Braces are doubled at the outermost level only. The next `skip`
characters are known to belong to the stretch. -/
def constantEnd (raw outermost : Bool) (skip : Nat) :
    List Char → Option (List Char × Bool × List Char)
  | [] => some ([], false, [])
  | c :: cs =>
    if skip = 0 && (c = '{' || c = '}') then
      if outermost && cs.head? == some c then some ([c], true, cs.drop 1)
      else if outermost && c = '}' then none
      else some ([], false, c :: cs)
    else
      let skip := if skip = 0 && c = '\\' && !raw then escapedLength cs else skip - 1
      (constantEnd raw outermost skip cs).map fun (t, again, rest) => (c :: t, again, rest)

/-- Is the character blank in an expression? -/
def isFieldBlank (c : Char) : Bool :=
  c == ' ' || c == '\t' || c == '\n' || c == '\x0c'

/-- Is the character skipped behind the equals sign of a field? -/
def isShownBlank (c : Char) : Bool :=
  isFieldBlank c || c == '\r' || c == '\x0b'

/-- A conversion in front of a format or the closing brace. -/
def conversionEnd? : List Char → Option (Option Conversion × List Char)
  | '!' :: c :: d :: cs =>
    if d = '}' || d = ':' then
      match c with
      | 's' => some (some .str, d :: cs)
      | 'r' => some (some .repr, d :: cs)
      | 'a' => some (some .ascii, d :: cs)
      | _ => none
    else none
  | '!' :: _ => none
  | cs => some (none, cs)

/-- The pieces of a formatted text up to its end, or up to the closing brace of
the field whose format it is. A text takes at most as many steps as it has
characters. -/
def piecesFrom (charNamed : List Char → Option Char) (raw : Bool) :
    Nat → Nat → List Char → Option (List Piece × List Char)
  | 0, _, _ => none
  | fuel + 1, depth, cs => do
    let (written, again, rest) ← constantEnd raw (depth = 0) 0 cs
    let codes ← bodyCodes charNamed false raw written
    if again then
      let (more, after) ← piecesFrom charNamed raw fuel depth rest
      some (.text codes :: more, after)
    else
      match rest with
      | '{' :: inside =>
        if 2 ≤ depth then none
        else
          let (expr, stop) ← fieldEnd 0 none [] inside
          if expr.all isFieldBlank then none
          else
            let blank := (stop.drop 1).takeWhile isShownBlank
            let shown := if stop.head? == some '=' then some (expr ++ '=' :: blank) else none
            let behind := if shown.isSome then stop.drop (1 + blank.length) else stop
            let (conversion, behind) ← conversionEnd? behind
            let (format, behind) ←
              match behind with
              | ':' :: spec =>
                (piecesFrom charNamed raw fuel (depth + 1) spec).map fun (f, r) => (some f, r)
              | _ => some (none, behind)
            match behind with
            | '}' :: after =>
              let (more, final) ← piecesFrom charNamed raw fuel depth after
              let conversion :=
                if shown.isSome && format.isNone && conversion.isNone then some .repr
                else conversion
              some (.text codes :: .field expr shown conversion format :: more, final)
            | _ => none
      | _ => some ([.text codes], rest)

/-- The pieces of the body of a formatted text. -/
def pieces? (charNamed : List Char → Option Char) (raw : Bool) (body : List Char) :
    Option (List Piece) :=
  match piecesFrom charNamed raw (body.length + 1) 0 body with
  | some (ps, []) => some ps
  | _ => none

end Branchwise.Source
