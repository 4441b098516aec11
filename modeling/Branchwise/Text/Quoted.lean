/-
Quoted forms of texts and byte strings. A text is a list of code points, so
that it may hold lone surrogates, which no quoted form shows raw.

* `escapeCode`: the escape of a code point that must not stand by itself.
* `quoteMark`: the apostrophe, unless the text holds one and no quotation mark.
* `quoted`, `quotedBytes`: the quoted forms.
-/
import Branchwise.Text.Basic
import Branchwise.Text.Printable

namespace Branchwise.Text

/-- The escape of a code point: the short one for tabs and line ends, else the
shortest hexadecimal one. -/
def escapeCode (c : Nat) : List Char :=
  if c = 92 then ['\\', '\\']
  else if c = 9 then ['\\', 't']
  else if c = 10 then ['\\', 'n']
  else if c = 13 then ['\\', 'r']
  else if c < 0x100 then '\\' :: 'x' :: hexDigits 2 c
  else if c < 0x10000 then '\\' :: 'u' :: hexDigits 4 c
  else '\\' :: 'U' :: hexDigits 8 c

/-- The mark that a quoted form is put between. -/
def quoteMark (codes : List Nat) : Char :=
  if codes.contains '\''.toNat && !codes.contains '"'.toNat then '"' else '\''

/-- One code point inside a quoted form with the given mark; `shows` says
which code points stand by themselves. -/
def quoteCode (shows : Nat → Bool) (mark : Char) (c : Nat) : List Char :=
  if c = mark.toNat then ['\\', mark]
  else if c = 92 || !shows c then escapeCode c
  else [Char.ofNat c]

/-- The text between the marks of its quoted form. -/
def quotedBody (codes : List Nat) : List Char :=
  codes.flatMap (quoteCode isPrintable (quoteMark codes))

/-- The quoted form of a text. -/
def quoted (codes : List Nat) : List Char :=
  quoteMark codes :: quotedBody codes ++ [quoteMark codes]

/-- The quoted form of a byte string: all but printable ASCII is escaped. -/
def quotedBytes (bytes : List Nat) : List Char :=
  let mark := quoteMark bytes
  'b' :: mark :: bytes.flatMap (quoteCode (fun c => 32 ≤ c && c < 127) mark) ++ [mark]

/-- The code points of a text. -/
def codes (text : List Char) : List Nat :=
  text.map Char.toNat

end Branchwise.Text
