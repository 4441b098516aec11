/-
The branches of a function as a console listing, in markup.

* `Statement.markup`, `Branch.markup`: a step, and the steps of a branch with
  arrows between them.
* `Accumulator.listing`: the lines for a function.
-/
import Branchwise.Branch.Collection
import Branchwise.Markup

namespace Branchwise

/-- Longer tests are cut. -/
def longestTest : Nat := 40

/-- A test as it is listed: cut to the longest length, three dots included. -/
def shortTest (test : String) : String :=
  let cs := test.toList
  if longestTest < cs.length then String.ofList (cs.take (longestTest - 3)) ++ "..." else test

/-- A text behind a keyword; an empty text needs no blank. -/
def behind (text : String) : String :=
  if text = "" then "" else " " ++ Markup.escape text

/-- A step of a branch. -/
def Statement.markup (outcome : Outcome) : Statement → String
  | .conditional test _ _ _ _ =>
    let word := match outcome with
      | .success => "if "
      | .failure => "else "
    "[yellow]" ++ word ++ Markup.escape (shortTest test) ++ "[/]"
  | .guarded _ _ types _ _ =>
    match outcome with
    | .success => "[yellow]try[/]"
    | .failure => "[yellow]except" ++ behind (Text.joinWith ", " types) ++ "[/]"
  | .throw exc _ _ => "[red]raise" ++ behind (exc.getD "") ++ "[/]"
  | .ret value _ _ => "[green]return" ++ behind (value.getD "") ++ "[/]"
  | .other label _ => "[dim]" ++ label ++ "[/]"

/-- The steps of a branch. -/
def Branch.markup (b : Branch) : String :=
  Text.joinWith " [dim]→[/] " (b.steps.map (Statement.markup b.outcome))

/-- The line of a branch, with a mark for its outcome. -/
def Branch.listing (b : Branch) : String :=
  let mark := match b.outcome with
    | .success => "[green]✓[/]"
    | .failure => "[red]✗[/]"
  "  " ++ mark ++ " " ++ b.markup

/-- The lines for a function. -/
def Accumulator.listing (a : Accumulator) : List String :=
  ["\n[bold cyan]" ++ a.function.qualifiedName ++ "[/]("
      ++ Markup.escape (Text.joinWith ", " a.function.parameters) ++ ")",
    "  [dim]line " ++ toString a.function.line ++ "[/]"]
  ++ if a.branches.isEmpty then ["  [dim]No branches found[/]"] else a.branches.map Branch.listing

end Branchwise
