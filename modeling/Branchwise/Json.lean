/-
JSON texts in plain ASCII: other characters are written as escapes of their
UTF-16 units.

* `Json`: values; the fields of an object keep their order.
* `Json.compact`: all on one line, with a blank behind each comma and colon.
* `Json.indented`: every item on a line of its own, indented by two blanks a
  level.
-/
import Branchwise.Text.Basic

namespace Branchwise

mutual

/-- JSON values without fractions. -/
inductive Json where
  | null
  | bool (value : Bool)
  | int (value : Int)
  | text (value : String)
  | array (items : List Json)
  | object (fields : List Field)

/-- A field of an object. -/
inductive Field where
  | mk (key : String) (value : Json)

end

namespace Json

/-- The escape of one UTF-16 unit. -/
def escapeUnit (n : Nat) : List Char :=
  '\\' :: 'u' :: Text.hexDigits 4 n

/-- One character inside a text. -/
def escapeChar (c : Char) : List Char :=
  match c with
  | '"' => ['\\', '"']
  | '\\' => ['\\', '\\']
  | '\n' => ['\\', 'n']
  | '\r' => ['\\', 'r']
  | '\t' => ['\\', 't']
  | '\x08' => ['\\', 'b']
  | '\x0c' => ['\\', 'f']
  | c =>
    let n := c.toNat
    if 32 ≤ n ∧ n < 127 then [c]
    else if n < 0x10000 then escapeUnit n
    else escapeUnit (0xD800 + (n - 0x10000) / 0x400) ++ escapeUnit (0xDC00 + (n - 0x10000) % 0x400)

/-- A text between quotation marks. -/
def quoted (value : String) : String :=
  "\"" ++ String.ofList (value.toList.flatMap escapeChar) ++ "\""

/-- The start of a line at the given depth, and nothing if all is on one line. -/
def lineStart : Option Nat → String
  | none => ""
  | some depth => "\n" ++ String.ofList (List.replicate (2 * depth) ' ')

/-- What stands between two items. -/
def separator : Option Nat → String
  | none => ", "
  | some depth => "," ++ lineStart (some depth)

mutual

/-- Writes a value, at a depth of indentation or on one line. -/
def print (depth : Option Nat) : Json → String
  | null => "null"
  | bool true => "true"
  | bool false => "false"
  | int n => toString n
  | text value => quoted value
  | array [] => "[]"
  | array (v :: vs) =>
    let inner := depth.map (· + 1)
    "[" ++ lineStart inner ++ print inner v ++ printItems inner vs ++ lineStart depth ++ "]"
  | object [] => "\x7b\x7d"
  | object (f :: fs) =>
    let inner := depth.map (· + 1)
    "\x7b" ++ lineStart inner ++ printField inner f ++ printFields inner fs ++ lineStart depth
      ++ "\x7d"

/-- Writes the items behind the first one. -/
def printItems (depth : Option Nat) : List Json → String
  | [] => ""
  | v :: vs => separator depth ++ print depth v ++ printItems depth vs

/-- Writes a field. -/
def printField (depth : Option Nat) : Field → String
  | .mk key value => quoted key ++ ": " ++ print depth value

/-- Writes the fields behind the first one. -/
def printFields (depth : Option Nat) : List Field → String
  | [] => ""
  | f :: fs => separator depth ++ printField depth f ++ printFields depth fs

end

/-- A value on one line. -/
def compact (v : Json) : String := print none v

/-- A value with an item on each line. -/
def indented (v : Json) : String := print (some 0) v

/-- An array of texts. -/
def texts (values : List String) : Json := array (values.map text)

/-- A text, or null if there is none. -/
def optional : Option String → Json
  | some value => text value
  | none => null

end Json

end Branchwise
