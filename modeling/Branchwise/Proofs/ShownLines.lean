/-
The lines that a run shows.

A run over a file shows the functions with their branches, and a run over a directory its
counts. Whatever comes from a source text is escaped in them, so every documented console shows
them, for every source text.

* `Statement.balanced_markup`, `Branch.balanced_markup`: a step and a branch.
* `Accumulator.safe_listing`: the lines for a function.
* `Command.summary_eq`: the lines on the counts, and those with the messages on faults.
* `Console.failure?`, `Console.lines_snd`: the exception that ends a display of lines.
* `Run.showLines_eq`: what becomes of a run that shows lines.
-/
import Branchwise.Command.Run
import Branchwise.Proofs.MarkupTags
import Branchwise.Proofs.StubNames

namespace Branchwise

open Markup (HasTags Plain Safe tags)

/-! ### Plain texts -/

lemma plain_toString_nat (n : Nat) : Plain (toString n).toList := by
  intro c hc
  rw [toList_toString_nat] at hc
  have hdigit := Nat.isDigit_of_mem_toDigits (by omega) (by omega) hc
  constructor <;> rintro rfl <;> cases hdigit

lemma plain_toString_int (n : Int) : Plain (toString n).toList := by
  cases n with
  | ofNat n => exact plain_toString_nat n
  | negSucc n =>
      have hsign : toString (Int.negSucc n) = "-" ++ toString (n + 1) := rfl
      rw [hsign, String.toList_append]
      refine List.forall_mem_append.mpr ⟨?_, plain_toString_nat (n + 1)⟩
      simp

lemma Source.IsName.plain {name : String} (h : Source.IsName name) : Plain name.toList := by
  intro c hc
  have hpart := Source.forall_part_of_isIdentifier h.identifier c hc
  constructor <;> rintro rfl <;> cases hpart

lemma Function.Sound.plain_qualifiedName {f : Function} (h : f.Sound) :
    Plain f.qualifiedName.toList := by
  rcases h.qualified with ⟨-, hq⟩ | ⟨-, owner, howner, hq⟩
  · rw [hq]
    exact h.name.plain
  · rw [hq, String.toList_append, String.toList_append]
    refine List.forall_mem_append.mpr ⟨List.forall_mem_append.mpr ⟨howner.plain, ?_⟩, h.name.plain⟩
    simp

/-! ### Steps and branches -/

/-- A text behind a keyword has no tags. -/
lemma tags_behind (text : String) : tags (behind text).toList = [] := by
  rw [behind]
  split
  · rfl
  · have hblank : HasTags " " [] := ⟨by decide, by decide⟩
    rw [String.toList_append, hblank.tags_append, Markup.tags_escape]
    rfl

/-- A step closes what it opens. -/
lemma Statement.balanced_markup {s : Statement} (h : s.shapesPath = true) (o : Outcome) :
    Markup.Balanced (s.markup o) := by
  cases s with
  | conditional test body orelse line label =>
      cases o with
      | success =>
          have htags : HasTags "[yellow]if " ["yellow".toList] := ⟨by decide, by decide⟩
          exact Markup.balanced_style htags (by decide) (Markup.tags_escape _)
      | failure =>
          have htags : HasTags "[yellow]else " ["yellow".toList] := ⟨by decide, by decide⟩
          exact Markup.balanced_style htags (by decide) (Markup.tags_escape _)
  | guarded body handlers types line label =>
      cases o with
      | success =>
          have htags : HasTags "[yellow]try[/]" ["yellow".toList, ['/']] := ⟨by decide, by decide⟩
          exact htags.balanced (by decide)
      | failure =>
          have htags : HasTags "[yellow]except" ["yellow".toList] := ⟨by decide, by decide⟩
          exact Markup.balanced_style htags (by decide) (tags_behind _)
  | throw exc line label =>
      have htags : HasTags "[red]raise" ["red".toList] := ⟨by decide, by decide⟩
      exact Markup.balanced_style htags (by decide) (tags_behind _)
  | ret value line label =>
      have htags : HasTags "[green]return" ["green".toList] := ⟨by decide, by decide⟩
      exact Markup.balanced_style htags (by decide) (tags_behind _)
  | other label line => cases h

/-- The steps of a branch that was listed shape branches. -/
lemma Accumulator.Tidy.shapesPath_of_mem_branches {a : Accumulator} (h : a.Tidy) {b : Branch}
    (hb : b ∈ a.branches) {s : Statement} (hs : s ∈ b.steps) : s.shapesPath = true := by
  have hrow : ∀ o, b ∈ (a.collection o).branches → s.shapesPath = true := by
    intro o hb
    obtain ⟨row, hrow, rfl⟩ := List.mem_map.mp hb
    exact (h.collection o).shaping s (List.mem_flatten_of_mem hrow hs)
  rw [Accumulator.branches, List.mem_filter, List.mem_append] at hb
  rcases hb.1 with hb | hb
  · exact hrow .success hb
  · exact hrow .failure hb

/-- A branch closes what it opens. -/
lemma Branch.balanced_markup {b : Branch} (h : ∀ s ∈ b.steps, s.shapesPath = true) :
    Markup.Balanced b.markup := by
  have harrow : HasTags " [dim]→[/] " ["dim".toList, ['/']] := ⟨by decide, by decide⟩
  refine (harrow.balanced (by decide)).joinWith fun part hpart => ?_
  obtain ⟨s, hs, rfl⟩ := List.mem_map.mp hpart
  exact s.balanced_markup (h s hs) b.outcome

lemma Branch.safe_listing {b : Branch} (h : ∀ s ∈ b.steps, s.shapesPath = true) :
    Safe b.listing := by
  have hmarkup := balanced_markup h
  refine Markup.Balanced.safe ?_
  rw [Branch.listing]
  cases b.outcome with
  | success =>
      have hmark : HasTags "  [green]✓[/] " ["green".toList, ['/']] := ⟨by decide, by decide⟩
      exact (hmark.balanced (by decide)).append hmarkup
  | failure =>
      have hmark : HasTags "  [red]✗[/] " ["red".toList, ['/']] := ⟨by decide, by decide⟩
      exact (hmark.balanced (by decide)).append hmarkup

/-! ### Functions -/

/-- **The lines for a function are safe**, whatever is in its source text. -/
lemma Accumulator.safe_listing {a : Accumulator} (h : a.Tidy) (hsound : a.function.Sound) :
    ∀ line ∈ a.listing, Safe line := by
  intro line hline
  rw [Accumulator.listing, List.mem_append, List.mem_pair] at hline
  rcases hline with (rfl | rfl) | hline
  · have hopening : HasTags "\n[bold cyan]" ["bold cyan".toList] := ⟨by decide, by decide⟩
    have hclosing : HasTags "[/](" [['/']] := ⟨by decide, by decide⟩
    have hname := (hopening.append hsound.plain_qualifiedName.hasTags).append hclosing
    have hparameters := Markup.tags_escape_append (Text.joinWith ", " a.function.parameters)
    have htags : tags ("\n[bold cyan]" ++ a.function.qualifiedName ++ "[/]("
        ++ Markup.escape (Text.joinWith ", " a.function.parameters) ++ ")").toList =
        ["bold cyan".toList, ['/']] := by
      rw [String.append_assoc, String.toList_append, hname.tags_append, String.toList_append,
        show ")".toList = [')'] from rfl, hparameters]
      rfl
    refine ⟨?_, by rw [htags]; decide⟩
    rw [Markup.isValid_iff, htags]
    exact .cons rfl (.cons rfl .nil)
  · have hopening : HasTags "  [dim]line " ["dim".toList] := ⟨by decide, by decide⟩
    have hclosing : HasTags "[/]" [['/']] := ⟨by decide, by decide⟩
    have hline := (hopening.append (plain_toString_int a.function.line).hasTags).append hclosing
    exact (hline.balanced (by decide)).safe
  · split at hline
    · rw [List.mem_singleton] at hline
      subst hline
      exact ⟨⟨_, rfl⟩, by decide⟩
    · obtain ⟨b, hb, rfl⟩ := List.mem_map.mp hline
      exact Branch.safe_listing fun s hs => h.shapesPath_of_mem_branches hb hs

/-! ### Counts -/

namespace Command

lemma safe_count {text : String} (h : HasTags text []) (n : Nat) :
    Safe (text ++ toString n) :=
  (h.append (plain_toString_nat n).hasTags).safe .nil rfl

lemma safe_branchCounts (branches success failure : Nat) :
    Safe ("  Branches: " ++ toString branches ++ " ([green]" ++ toString success
      ++ " success[/], [red]" ++ toString failure ++ " failure[/])") := by
  have hfirst : HasTags "  Branches: " [] := ⟨by decide, by decide⟩
  have hgreen : HasTags " ([green]" ["green".toList] := ⟨by decide, by decide⟩
  have hred : HasTags " success[/], [red]" [['/'], "red".toList] := ⟨by decide, by decide⟩
  have hlast : HasTags " failure[/])" [['/']] := ⟨by decide, by decide⟩
  have htags := (((((hfirst.append (plain_toString_nat branches).hasTags).append hgreen).append
    (plain_toString_nat success).hasTags).append hred).append
    (plain_toString_nat failure).hasTags).append hlast
  exact htags.safe (.cons rfl (.cons rfl (.cons rfl (.cons rfl .nil)))) (by decide)

/-- A count in a style. -/
lemma safe_styledCount {opening closing : String} {style behind : List Char}
    (hopening : HasTags opening [style]) (hclosing : HasTags closing [behind])
    (hmatch : Markup.Matches [] [style, behind])
    (hown : [style, behind].all Markup.isOwnTag = true) (n : Nat) :
    Safe (opening ++ toString n ++ closing) :=
  ((hopening.append (plain_toString_nat n).hasTags).append hclosing).safe hmatch hown

/-- The lines on the messages of faults. -/
def errorLines (s : Stats) : List String :=
  s.errors.map fun e => "    " ++ e

/-- **The lines on the counts are safe**, and the messages on faults follow them. -/
lemma summary_eq (s : Stats) :
    ∃ counts, summary s = counts ++ errorLines s ∧ ∀ line ∈ counts, Safe line := by
  have hcounts : ∀ line ∈ ["[green]Done![/green]",
      "  Files analyzed: " ++ toString s.files,
      "  Functions: " ++ toString s.functions,
      "  Branches: " ++ toString s.branches ++ " ([green]" ++ toString s.success
        ++ " success[/], [red]" ++ toString s.failure ++ " failure[/])"], Safe line := by
    simp only [List.forall_mem_cons, List.not_mem_nil, false_implies, implies_true, and_true]
    exact ⟨⟨⟨_, rfl⟩, by decide⟩, safe_count ⟨by decide, by decide⟩ _,
      safe_count ⟨by decide, by decide⟩ _, safe_branchCounts _ _ _⟩
  have hskipped : ∀ line ∈ if s.skipped = 0 then [] else
      ["  [dim]Skipped: " ++ toString s.skipped ++ "[/]"], Safe line := by
    have hdim : HasTags "  [dim]Skipped: " ["dim".toList] := ⟨by decide, by decide⟩
    have hclosing : HasTags "[/]" [['/']] := ⟨by decide, by decide⟩
    split
    · simp
    · rw [List.forall_mem_singleton]
      exact safe_styledCount hdim hclosing (.cons rfl (.cons rfl .nil)) (by decide) _
  have herrors : Safe ("  [red]Errors: " ++ toString s.errors.length ++ "[/red]") := by
    have hred : HasTags "  [red]Errors: " ["red".toList] := ⟨by decide, by decide⟩
    have hclosing : HasTags "[/red]" ["/red".toList] := ⟨by decide, by decide⟩
    exact safe_styledCount hred hclosing (.cons rfl (.cons rfl .nil)) (by decide) _
  have hboth := List.forall_mem_append.mpr ⟨hcounts, hskipped⟩
  by_cases hempty : s.errors.isEmpty = true
  · refine ⟨_, ?_, hboth⟩
    rw [summary, errorLines, if_pos hempty, List.isEmpty_iff.mp hempty, List.map_nil]
  · refine ⟨_, ?_, List.forall_mem_append.mpr ⟨hboth, List.forall_mem_singleton.mpr herrors⟩⟩
    rw [summary, errorLines, if_neg hempty]
    exact List.append_cons _ _ _

end Command

/-! ### Consoles -/

namespace Console

/-- The exception that a markup raises, if it raises one. -/
def failure? (c : Console) (markup : String) : Option Failure :=
  match c.render markup with
  | .ok _ => none
  | .error e => some e

/-- Safe markup is shown by every documented console. -/
lemma Documented.failure?_eq_none {c : Console} (hc : c.Documented) {markup : String}
    (h : Safe markup) : c.failure? markup = none := by
  obtain ⟨text, htext⟩ := h.valid
  obtain ⟨shown, hshown, -⟩ := hc.shows markup text h.own htext
  rw [failure?, hshown]

/-- Markup that closes a style which is not open raises an exception. -/
lemma Documented.failure?_of_not_isValid {c : Console} (hc : c.Documented) {markup : String}
    (hown : (tags markup.toList).all Markup.isOwnTag = true) (h : ¬ Markup.IsValid markup) :
    c.failure? markup = some markupError := by
  cases hvisible : Markup.visible? markup with
  | ok text => exact absurd ⟨text, hvisible⟩ h
  | error e => rw [failure?, hc.refuses markup e hown hvisible]

/-- Lines are shown up to the first one that cannot be. -/
lemma lines_snd (c : Console) (markups : List String) :
    (c.lines markups).2 = markups.findSome? c.failure? := by
  induction markups with
  | nil => rfl
  | cons markup markups ih =>
      rw [List.findSome?_cons, lines, failure?]
      cases c.render markup with
      | error e => rfl
      | ok text => exact ih

/-- Safe lines before others make no difference. -/
lemma Documented.findSome?_append {c : Console} (hc : c.Documented) {safe : List String}
    (h : ∀ line ∈ safe, Safe line) (lines : List String) :
    (safe ++ lines).findSome? c.failure? = lines.findSome? c.failure? := by
  rw [List.findSome?_append, List.findSome?_eq_none_iff.mpr fun line hline =>
    hc.failure?_eq_none (h line hline)]
  rfl

end Console

namespace Run

/-- **A run that shows lines** is ended by the first one that cannot be shown. -/
lemma showLines_eq (o : Run) (c : Console) (markups : List String) :
    ∃ text, o.showLines c markups =
      match markups.findSome? c.failure? with
      | none => o.print text
      | some failure => (o.print text).crashed (.console failure) := by
  rw [← Console.lines_snd, showLines]
  cases hlines : c.lines markups with
  | mk text failure => cases failure <;> exact ⟨text, rfl⟩

/-- A run that shows safe lines goes on. -/
lemma showLines_of_safe (o : Run) {c : Console} (hc : c.Documented) {markups : List String}
    (h : ∀ line ∈ markups, Safe line) : ∃ text, o.showLines c markups = o.print text := by
  obtain ⟨text, htext⟩ := o.showLines_eq c markups
  rw [List.findSome?_eq_none_iff.mpr fun line hline => hc.failure?_eq_none (h line hline)] at htext
  exact ⟨text, htext⟩

end Run

end Branchwise
