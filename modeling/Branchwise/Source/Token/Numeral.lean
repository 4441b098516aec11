/-
Number literals: integers in four bases, floats and imaginary numbers, with low
lines between digits.

* `digitsTail`: digits with single low lines between them.
* `endsNumber`: what may follow a number directly: nothing that continues a
  word, except the keywords that can follow a number in a valid text.
* `Numeral.scan`: the longest number at the start of a text.
-/
import Branchwise.Source.Token
import Branchwise.Text.Basic

namespace Branchwise.Source

open Branchwise.Text (hexValue)

/-- May the character stand in a word? Above 127 the decision is made for the
whole word. -/
def isWordPart (c : Char) : Bool :=
  c.isAlphanum || c == '_' || 128 ≤ c.toNat

/-- May the character start a word? -/
def isWordStart (c : Char) : Bool :=
  c.isAlpha || c == '_' || 128 ≤ c.toNat

/-- Does a whole word `word` stand here? -/
def startsWord (word : String) (cs : List Char) : Bool :=
  word.toList.isPrefixOf cs &&
    match cs.drop word.length with
    | [] => true
    | c :: _ => !isWordPart c

/-- May a number end before this text? -/
def endsNumber : List Char → Bool
  | [] => true
  | 'i' :: 'f' :: _ | 'i' :: 'n' :: _ | 'i' :: 's' :: _ => true
  | c :: cs =>
    !isWordPart c || ["and", "else", "for", "or", "not"].any (startsWord · (c :: cs))

/-- Digits after the first one, with single low lines between digits. -/
def digitsTail (valid : Char → Bool) : List Char → Option (List Char × List Char)
  | [] => some ([], [])
  | ['_'] => none
  | '_' :: c :: cs =>
    if valid c then (digitsTail valid cs).map fun (ds, rest) => (c :: ds, rest) else none
  | c :: cs =>
    if valid c then (digitsTail valid cs).map fun (ds, rest) => (c :: ds, rest)
    else some ([], c :: cs)

/-- The value of digits in a base. -/
def digitsValue (base : Nat) (ds : List Char) : Nat :=
  ds.foldl (fun n c => base * n + (hexValue c).getD 0) 0

/-- The most digits that a decimal integer literal may have, unless all of them
are zeros. -/
def maxIntegerDigits : Nat := 4300

/-- An integer after its base prefix. -/
def scanRadix (base : Nat) (valid : Char → Bool) (cs : List Char) :
    Option (Numeral × List Char) := do
  let (ds, rest) ← digitsTail valid cs
  if ds.isEmpty || !endsNumber rest then none else some (.int (digitsValue base ds), rest)

/-- What follows the digits of a float: the end or the mark of an imaginary
number. -/
def finishFloat (d : Decimal) : List Char → Option (Numeral × List Char)
  | 'j' :: rest | 'J' :: rest => if endsNumber rest then some (.imaginary d, rest) else none
  | rest => if endsNumber rest then some (.float d, rest) else none

/-- The decimal with these digits before and behind the point. -/
def decimalOf (whole fraction : List Char) (exponent : Int) : Decimal :=
  ⟨digitsValue 10 (whole ++ fraction), exponent - fraction.length⟩

/-- An exponent that starts with a digit. -/
def scanExponent (whole fraction : List Char) (negative : Bool) (cs : List Char) :
    Option (Numeral × List Char) := do
  let (ds, rest) ← digitsTail Char.isDigit cs
  if ds.isEmpty then none
  else
    let e : Int := digitsValue 10 ds
    finishFloat (decimalOf whole fraction (if negative then -e else e)) rest

/-- The integer with these digits. One with a leading zero must be zero. -/
def wholeNumber? (ds : List Char) : Option Numeral :=
  if ds.all (· == '0') then some (.int 0)
  else if ds.head? == some '0' || maxIntegerDigits < ds.length then none
  else some (.int (digitsValue 10 ds))

/-- What follows the digits before and behind the point; `plain` is the number
that ends before an `e` that starts the word `else`. -/
def scanScale (whole fraction : List Char) (plain : Option Numeral) :
    List Char → Option (Numeral × List Char)
  | e :: sign :: cs =>
    if e = 'e' || e = 'E' then
      if sign = '+' || sign = '-' then
        match cs with
        | c :: _ => if c.isDigit then scanExponent whole fraction (sign == '-') cs else none
        | [] => none
      else if sign.isDigit then scanExponent whole fraction false (sign :: cs)
      else if startsWord "else" (e :: sign :: cs) then
        plain.map fun n => (n, e :: sign :: cs)
      else none
    else finishFloat (decimalOf whole fraction 0) (e :: sign :: cs)
  | cs => finishFloat (decimalOf whole fraction 0) cs

/-- A number after its first digits: a point, an exponent, the mark of an
imaginary number, or the end of an integer. -/
def scanDecimal (whole : List Char) : List Char → Option (Numeral × List Char)
  | '.' :: cs => do
    let (fraction, rest) ←
      match cs with
      | c :: _ => if c.isDigit then digitsTail Char.isDigit cs else some ([], cs)
      | [] => some ([], [])
    scanScale whole fraction (some (.float (decimalOf whole fraction 0))) rest
  | c :: cs =>
    if c = 'e' || c = 'E' then
      -- digits with a leading zero are no integer, and read as a float here
      let plain := if whole.head? == some '0' && whole.any (· != '0') then
        some (.float (decimalOf whole [] 0)) else wholeNumber? whole
      scanScale whole [] plain (c :: cs)
    else if c = 'j' || c = 'J' then finishFloat (decimalOf whole [] 0) (c :: cs)
    else if endsNumber (c :: cs) then (wholeNumber? whole).map fun n => (n, c :: cs)
    else none
  | [] => (wholeNumber? whole).map fun n => (n, [])

/-- The number at the start of a text that begins with a digit, or with a point
and a digit. -/
def Numeral.scan : List Char → Option (Numeral × List Char)
  | '0' :: 'x' :: cs | '0' :: 'X' :: cs => scanRadix 16 (fun c => (hexValue c).isSome) cs
  | '0' :: 'o' :: cs | '0' :: 'O' :: cs => scanRadix 8 (fun c => '0' ≤ c && c < '8') cs
  | '0' :: 'b' :: cs | '0' :: 'B' :: cs => scanRadix 2 (fun c => c == '0' || c == '1') cs
  | '.' :: cs => scanDecimal [] ('.' :: cs)
  | cs => do
    let (whole, rest) ← digitsTail Char.isDigit cs
    scanDecimal whole rest

end Branchwise.Source
