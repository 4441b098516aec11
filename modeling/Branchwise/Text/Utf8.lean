/-
UTF-8 texts.

* `decode`: the characters of a byte string, or the first bytes in it that are no
  text and why.
* `encode`: the bytes of a text.
-/
namespace Branchwise.Text.Utf8

/-- Bytes that are no text: those from `first` to `last`, the first of which has
this value. -/
structure BadBytes where
  value : Nat
  first : Nat
  last : Nat
  why : String
  deriving Repr, DecidableEq

/-- Is the byte one that continues a character? -/
def continues (b : Nat) : Bool :=
  0x80 ≤ b && b < 0xC0

/-- May the second byte follow the first byte of a longer character? The shorter
forms of characters, the surrogates and all beyond the last code point are kept
out here. -/
def secondFits (lead second : Nat) : Bool :=
  continues second &&
    (if lead = 0xE0 then 0xA0 ≤ second
     else if lead = 0xED then second < 0xA0
     else if lead = 0xF0 then 0x90 ≤ second
     else if lead = 0xF4 then second < 0x90
     else true)

/-- The number of bytes of a character with this first byte; none if no character
starts with it. -/
def width? (lead : Nat) : Option Nat :=
  if lead < 0x80 then some 1
  else if lead < 0xC2 then none
  else if lead < 0xE0 then some 2
  else if lead < 0xF0 then some 3
  else if lead < 0xF5 then some 4
  else none

/-- The number of further bytes, out of those expected, that fit. -/
def fitting (lead expected : Nat) : List Nat → Nat
  | [] => 0
  | second :: rest =>
    if 0 < expected && secondFits lead second then
      1 + ((rest.take (expected - 1)).takeWhile continues).length
    else 0

/-- The code point of a first byte of a character of the given width and its
further bytes. -/
def codePoint (width lead : Nat) (further : List Nat) : Nat :=
  further.foldl (fun n b => n * 64 + (b - 0x80))
    (match width with
      | 1 => lead
      | 2 => lead - 0xC0
      | 3 => lead - 0xE0
      | _ => lead - 0xF0)

/-- Decodes the bytes from a position on; the first `skip` belong to a character
that has been read, and `text` is the text before, reversed. -/
def decodeFrom : Nat → Nat → List Char → List Nat → Except BadBytes (List Char)
  | _, _, text, [] => .ok text.reverse
  | skip + 1, position, text, _ :: bytes => decodeFrom skip (position + 1) text bytes
  | 0, position, text, lead :: bytes =>
    match width? lead with
    | none => .error ⟨lead, position, position, "invalid start byte"⟩
    | some width =>
      let fit := fitting lead (width - 1) bytes
      if fit = width - 1 then
        decodeFrom fit (position + 1)
          (Char.ofNat (codePoint width lead (bytes.take fit)) :: text) bytes
      else
        .error ⟨lead, position, position + fit,
          if fit = bytes.length then "unexpected end of data" else "invalid continuation byte"⟩

/-- The characters of a byte string. -/
def decode (bytes : List Nat) : Except BadBytes (List Char) :=
  decodeFrom 0 0 [] bytes

/-- The bytes of a character. -/
def encodeChar (c : Char) : List Nat :=
  let n := c.toNat
  if n < 0x80 then [n]
  else if n < 0x800 then [0xC0 + n / 64, 0x80 + n % 64]
  else if n < 0x10000 then [0xE0 + n / 4096, 0x80 + n / 64 % 64, 0x80 + n % 64]
  else [0xF0 + n / 262144, 0x80 + n / 4096 % 64, 0x80 + n / 64 % 64, 0x80 + n % 64]

/-- The bytes of a text. -/
def encode (text : List Char) : List Nat :=
  text.flatMap encodeChar

end Branchwise.Text.Utf8
