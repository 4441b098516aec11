/-
Console markup: text with style tags in brackets.

A tag is a bracket with a lower-case letter, `#`, `/` or `@` behind it and no
further opening bracket before the closing one. Backslashes before a tag are
written twice, and one more makes the tag a plain text.

* `segments`: a markup cut into tags and single characters.
* `escape`: a text as markup that shows it.
* `tags`: the tags of a markup; `isOwnTag` are those that this library writes.
* `visible?`: the text that a markup shows, or the tag that closes nothing.

This is the grammar alone. What a console makes of the styles that tags name, of
two names for one style, or of a tag with a parameter, is not in it, and emoji codes
such as `:warning:` are text here: `Branchwise.Console` says what of this a console
follows.
-/
import Branchwise.Text.Basic

namespace Branchwise.Markup

/-! ### Tags -/

/-- The text up to the first closing bracket, and what follows it; none if an
opening bracket or the end comes first. -/
def closing? : List Char → Option (List Char × List Char)
  | [] => none
  | ']' :: rest => some ([], rest)
  | '[' :: _ => none
  | c :: cs =>
    match closing? cs with
    | some (inside, rest) => some (c :: inside, rest)
    | none => none

/-- Can the character start a tag? -/
def startsTag (c : Char) : Bool :=
  ('a' ≤ c && c ≤ 'z') || c == '#' || c == '/' || c == '@'

/-- A tag at the start of a text: what stands inside it, and what follows. -/
def tag? : List Char → Option (List Char × List Char)
  | '[' :: c :: cs =>
    if startsTag c then
      match closing? cs with
      | some (inside, rest) => some (c :: inside, rest)
      | none => none
    else none
  | _ => none

/-- A part of a markup. -/
inductive Segment where
  /-- A character that belongs to no tag. -/
  | char (c : Char)
  /-- A tag with the backslashes before it. -/
  | tag (backslashes : Nat) (inside : List Char)
  deriving Repr, DecidableEq

/-- The parts of a markup; `fuel` bounds their number. -/
def segmentsFrom : Nat → List Char → List Segment
  | 0, _ => []
  | _ + 1, [] => []
  | fuel + 1, c :: cs =>
    let slashes := (c :: cs).takeWhile (· == '\\')
    match tag? ((c :: cs).dropWhile (· == '\\')) with
    | some (inside, rest) => .tag slashes.length inside :: segmentsFrom fuel rest
    | none => .char c :: segmentsFrom fuel cs

/-- The parts of a markup. -/
def segments (markup : List Char) : List Segment :=
  segmentsFrom markup.length markup

/-- What stands in a tag that is obeyed: it has an even number of backslashes before
it. -/
def Segment.obeyed? : Segment → Option (List Char)
  | char _ => none
  | tag backslashes inside => if backslashes % 2 = 1 then none else some inside

/-- The tags of a markup. -/
def tags (markup : List Char) : List (List Char) :=
  (segments markup).filterMap Segment.obeyed?

/-- The styles that this library writes. -/
def ownStyles : List String :=
  ["bold cyan", "cyan", "dim", "green", "progress.description", "red", "yellow"]

/-- Is the tag one that this library writes: one that opens or closes such a style, or
closes the innermost one? -/
def isOwnTag (inside : List Char) : Bool :=
  inside == ['/'] ||
    ownStyles.any fun style => inside == style.toList || inside == '/' :: style.toList

/-! ### Writing -/

/-- A part, written so that it shows itself. -/
def Segment.escaped : Segment → List Char
  | char c => [c]
  | tag backslashes inside =>
    List.replicate (2 * backslashes + 1) '\\' ++ '[' :: inside ++ [']']

/-- A single backslash at the end is written twice: a tag may follow. -/
def closeBackslash (text : List Char) : List Char :=
  if ['\\'].isSuffixOf text && !(['\\', '\\'].isSuffixOf text) then text ++ ['\\'] else text

/-- A text as markup that shows it. -/
def escape (text : String) : String :=
  String.ofList (closeBackslash ((segments text.toList).flatMap Segment.escaped))

/-! ### Reading -/

/-- What a markup consists of for its reader. -/
inductive Event where
  | shown (text : List Char)
  | tag (inside : List Char)
  deriving Repr, DecidableEq

/-- The events of a markup. A backslash before a bracket that opens no tag is
dropped. -/
def eventsOf : List Segment → List Event
  | [] => []
  | .char '\\' :: .char '[' :: rest => .shown ['['] :: eventsOf rest
  | .char c :: rest => .shown [c] :: eventsOf rest
  | .tag backslashes inside :: rest =>
    .shown (List.replicate (backslashes / 2) '\\') ::
      (if backslashes % 2 = 1 then .shown ('[' :: inside ++ [']']) else .tag inside)
      :: eventsOf rest

/-- The events of a markup. -/
def events (markup : String) : List Event :=
  eventsOf (segments markup.toList)

/-- A tag that closes nothing. -/
structure Unmatched where
  inside : List Char
  deriving Repr, DecidableEq

/-- The open tags after a tag, innermost first. A closing tag without a name closes
the innermost one, any other the innermost one of its name. -/
def afterTag (inside : List Char) (openTags : List (List Char)) :
    Except Unmatched (List (List Char)) :=
  match inside with
  | ['/'] =>
    match openTags with
    | [] => .error ⟨inside⟩
    | _ :: rest => .ok rest
  | '/' :: name =>
    if openTags.contains name then .ok (openTags.erase name) else .error ⟨inside⟩
  | _ => .ok (inside :: openTags)

/-- The text that events show. -/
def shownBy : List (List Char) → List Event → Except Unmatched (List Char)
  | _, [] => .ok []
  | openTags, .shown text :: rest =>
    match shownBy openTags rest with
    | .ok shown => .ok (text ++ shown)
    | .error e => .error e
  | openTags, .tag inside :: rest =>
    match afterTag inside openTags with
    | .ok openTags => shownBy openTags rest
    | .error e => .error e

/-- The text that a markup shows. -/
def visible? (markup : String) : Except Unmatched String :=
  (shownBy [] (events markup)).map String.ofList

end Branchwise.Markup
