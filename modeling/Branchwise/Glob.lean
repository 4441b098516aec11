/-
File name patterns: `*` for any text, `?` for any character, and classes of
characters in brackets.

* `Glob.Item`: the parts of a pattern.
* `Glob.ofString`: reads a pattern. A class runs to its closing bracket, which may
  stand first as a member; a bracket that is never closed stands for itself.
* `Glob.accepts`: does a whole text match?
* `isExcluded`: is a path excluded by patterns, or hidden?
-/
import Branchwise.Path

namespace Branchwise

namespace Glob

/-! ### Classes of characters -/

/-- A part of a class: a character, or a range between two. -/
inductive Member where
  | char (c : Char)
  | range (low high : Char)
  deriving Repr, DecidableEq

/-- Is the character in this part of a class? -/
def Member.has (d : Char) : Member → Bool
  | char c => c == d
  | range low high => low.toNat ≤ d.toNat && d.toNat ≤ high.toNat

/-- Cuts the inside of a class at the hyphens that make ranges. Before the first
such hyphen stand at least `least` characters, and two between any two of them. -/
def chunksFrom (least : Nat) (chunk : List Char) : List Char → List (List Char)
  | [] => [chunk.reverse]
  | c :: cs =>
    if c = '-' && least = 0 then chunk.reverse :: chunksFrom 2 [] cs
    else chunksFrom (least - 1) (c :: chunk) cs

/-- A hyphen at the end makes no range: it is the last member. -/
def closeChunks : List (List Char) → List (List Char)
  | [] => []
  | [chunk, []] => [chunk ++ ['-']]
  | chunk :: rest => chunk :: closeChunks rest

/-- Takes out a range whose ends are reversed, joining what is left on both
sides. -/
def joinReversed (chunk : List Char) : List (List Char) → List (List Char)
  | [] => [chunk]
  | next :: rest =>
    match chunk.getLast?, next.head? with
    | some low, some high =>
      if high.toNat < low.toNat then (chunk.dropLast ++ next.drop 1) :: rest
      else chunk :: next :: rest
    | _, _ => chunk :: next :: rest

/-- Takes out all reversed ranges, the last one first. -/
def dropReversed (chunks : List (List Char)) : List (List Char) :=
  chunks.foldr joinReversed []

/-- The members of chunks: each hyphen between two chunks makes a range of the
characters beside it. `start` is the low end of the range that the first chunk
completes. -/
def membersFrom (start : Option Char) : List (List Char) → List Member
  | [] => []
  | [chunk] => firstMember start chunk ++ (rest start chunk).map .char
  | chunk :: next :: more =>
    firstMember start chunk ++ (rest start chunk).dropLast.map .char
      ++ match (rest start chunk).getLast? with
        | some low => membersFrom (some low) (next :: more)
        | none => .char '-' :: membersFrom none (next :: more)
where
  /-- The range that ends with the first character of a chunk. -/
  firstMember (start : Option Char) (chunk : List Char) : List Member :=
    match start, chunk with
    | some low, high :: _ => [.range low high]
    | _, _ => []
  /-- The characters of a chunk that no range before it has used. -/
  rest (start : Option Char) (chunk : List Char) : List Char :=
    if start.isSome then chunk.drop 1 else chunk

/-- A class of characters. -/
structure CharClass where
  negated : Bool
  members : List Member
  deriving Repr, DecidableEq

/-- Is the character in the class? -/
def CharClass.has (k : CharClass) (d : Char) : Bool :=
  k.negated != k.members.any (Member.has d)

/-- Reads the inside of a class. An exclamation mark negates it if it is the first
character that is left once the reversed ranges are gone. -/
def CharClass.ofInside (inside : List Char) : CharClass :=
  let least := if inside.head? == some '!' then 2 else 1
  let chunks := dropReversed (closeChunks (chunksFrom least [] inside))
  match chunks with
  | ('!' :: chunk) :: rest => ⟨true, membersFrom none (chunk :: rest)⟩
  | _ => ⟨false, membersFrom none chunks⟩

/-! ### Patterns -/

/-- A part of a pattern. -/
inductive Item where
  | star
  | anyChar
  | char (c : Char)
  | oneOf (k : CharClass)
  deriving Repr, DecidableEq

/-- Does the part match this character? -/
def Item.has (d : Char) : Item → Bool
  | star | anyChar => true
  | char c => c == d
  | oneOf k => k.has d

/-- The inside of the class behind an opening bracket; none if it is never
closed. -/
def inside? (cs : List Char) : Option (List Char) :=
  let mark := if cs.head? == some '!' then 1 else 0
  let first := if (cs.drop mark).head? == some ']' then mark + 1 else mark
  let tail := (cs.drop first).takeWhile (· != ']')
  if (cs.drop first).length = tail.length then none
  else some (cs.take first ++ tail)

/-- Reads a pattern; the first `skip` characters belong to a class that has been
read. -/
def itemsFrom : Nat → List Char → List Item
  | _, [] => []
  | skip + 1, _ :: cs => itemsFrom skip cs
  | 0, c :: cs =>
    if c = '*' then .star :: itemsFrom 0 cs
    else if c = '?' then .anyChar :: itemsFrom 0 cs
    else if c = '[' then
      match inside? cs with
      | some inside => .oneOf (.ofInside inside) :: itemsFrom (inside.length + 1) cs
      | none => .char '[' :: itemsFrom 0 cs
    else .char c :: itemsFrom 0 cs

/-- Reads a pattern. -/
def ofString (pattern : String) : List Item :=
  itemsFrom 0 pattern.toList

/-! ### Matching -/

/-- A row tells for each place of the text whether the pattern so far matches what
stands before it. After a star, every place behind such a place is one too. -/
def spread (seen : Bool) : List Bool → List Bool
  | [] => []
  | b :: row => (seen || b) :: spread (seen || b) row

/-- The places after one more character has been matched by the part. -/
def advance (item : Item) (row : List Bool) (text : List Char) : List Bool :=
  false :: List.zipWith (fun b d => b && item.has d) row text

/-- The places that a pattern leads to from those of `row`. -/
def places (text : List Char) : List Bool → List Item → List Bool
  | row, [] => row
  | row, .star :: items => places text (spread false row) items
  | row, item :: items => places text (advance item row text) items

/-- Does the pattern match the whole text? -/
def accepts (items : List Item) (text : List Char) : Bool :=
  (places text (true :: List.replicate text.length false) items).getLast? == some true

end Glob

/-- Does the pattern match the whole text? -/
def globMatches (pattern text : String) : Bool :=
  Glob.accepts (Glob.ofString pattern) text.toList

/-- Is a relative path excluded: by a pattern that matches all of it or one of its
parts, or because a part starts with a dot? -/
def isExcluded (patterns : List String) (path : String) : Bool :=
  patterns.any (globMatches · path)
    || (Path.ofString path).parts.any fun part =>
      ['.'].isPrefixOf part.toList || patterns.any (globMatches · part)

end Branchwise
