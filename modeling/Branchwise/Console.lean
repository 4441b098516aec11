/-
Consoles, which show lines of markup.

* `Console`: what a console shows of a markup, or the exception that it raises.
  Every run takes one, and statements about runs hold for each of them that is
  `Console.Documented`.
* `Console.Documented`: a console follows the grammar of markup, as long as all tags
  are ones that this library writes.
* `Console.lines`: several lines, up to one that cannot be shown.
* `Console.basic`: a console that can be run, with `Console.basic_documented`.
-/
import Branchwise.Markup

namespace Branchwise

/-- An exception of a console. -/
structure Console.Failure where
  /-- The class of the exception. -/
  kind : String
  deriving Repr, DecidableEq

/-- A console. -/
structure Console where
  /-- What is shown of a line of markup, with the line end. -/
  render : String → Except Console.Failure String
  /-- A plain text laid out for the console: broken into lines of its width, tabs filled
  up, and without the control characters that it obeys. -/
  layOut : String → String
  /-- Does the markup hold an emoji code, which the console replaces? -/
  holdsEmoji : String → Bool
  /-- Does it draw a progress display while a run goes on, and not only at its end? -/
  isLive : Bool

namespace Console

/-- The exception for a tag that closes nothing. -/
def markupError : Failure := ⟨"MarkupError"⟩

/-- A console follows the grammar of markup where all tags are ones that this library
writes: it shows the visible text, with emoji codes replaced, or refuses a tag that
closes nothing. About other tags nothing is said. -/
structure Documented (c : Console) : Prop where
  shows : ∀ markup text, (Markup.tags markup.toList).all Markup.isOwnTag = true →
    Markup.visible? markup = .ok text →
      ∃ shown, c.render markup = .ok shown ∧ (c.holdsEmoji markup = false → shown = c.layOut text)
  refuses : ∀ markup e, (Markup.tags markup.toList).all Markup.isOwnTag = true →
    Markup.visible? markup = .error e → c.render markup = .error markupError

/-- The text that is shown for several markups, and the exception that ended it. -/
def lines (c : Console) : List String → String × Option Failure
  | [] => ("", none)
  | markup :: markups =>
    match c.render markup with
    | .error e => ("", some e)
    | .ok text =>
      let (rest, e) := c.lines markups
      (text ++ rest, e)

/-! ### A basic console -/

/-- Is the character one that a console obeys and does not show? -/
def isObeyed (c : Char) : Bool :=
  let n := c.toNat
  n = 7 || n = 8 || n = 11 || n = 12 || n = 13

/-- The distance between two tab stops. -/
def tabWidth : Nat := 8

/-- Fills up tabs; `column` is the number of characters since the last line end. -/
def fillTabs (column : Nat) : List Char → List Char
  | [] => []
  | c :: cs =>
    if c = '\t' then
      let width := tabWidth - column % tabWidth
      List.replicate width ' ' ++ fillTabs (column + width) cs
    else c :: fillTabs (if c = '\n' then 0 else column + 1) cs

/-- A text without the control characters that a console obeys, with tabs filled up to
the next eighth column and the line end. -/
def onOneLine (text : String) : String :=
  String.ofList (fillTabs 0 (text.toList.filter fun c => !isObeyed c)) ++ "\n"

/-- A console without styles and emoji, which is as wide as its text. -/
def basic : Console where
  render markup :=
    match Markup.visible? markup with
    | .ok text => .ok (onOneLine text)
    | .error _ => .error markupError
  layOut := onOneLine
  holdsEmoji := fun _ => false
  isLive := false

/-- The facts that are assumed of a console can hold. -/
theorem basic_documented : basic.Documented where
  shows markup text _ htext := ⟨onOneLine text, by simp [basic, htext], fun _ => rfl⟩
  refuses markup e _ herror := by simp [basic, herror]

end Console

end Branchwise
