/-
Tables over code points. A table is written as words of hexadecimal numbers,
one word per run of code points: `41-5A` is a run, `100-12E/2` takes every
second one, and `C0=41+300` says what belongs to the first member.

* `Span`: one run; `Span.has` is membership.
* `SpanTable.ofRows`: reads a table that is written in ascending order.
* `SpanTable.find?`: the run that holds a code point, by bisection.
* `SpanTable.shifted?`: what belongs to a code point when the run maps its
  members in step.
-/
import Branchwise.Text.Basic

namespace Branchwise.Text

/-- The code points `first, first + step, …, last`, with what belongs to
`first`. -/
structure Span where
  first : Nat
  last : Nat
  step : Nat
  image : List Nat
  deriving Repr, Inhabited

namespace Span

/-- Does the run hold the code point? -/
def has (s : Span) (c : Nat) : Bool :=
  s.first ≤ c && c ≤ s.last && (c - s.first) % s.step == 0

/-- The numbers of a word, each with the mark in front of it; `mark` and `n` are
those of the number that is being read. -/
def fields (mark : Char) (n : Nat) : List Char → List (Char × Nat)
  | [] => [(mark, n)]
  | c :: cs =>
    match hexValue c with
    | some d => fields mark (16 * n + d) cs
    | none => (mark, n) :: fields c 0 cs

/-- Reads one word of a table. -/
def ofWord (word : List Char) : Span :=
  let numbers := fields ' ' 0 word
  let behind (mark : Char) : Option Nat := numbers.lookup mark
  let first := (behind ' ').getD 0
  { first
    last := (behind '-').getD first
    step := (behind '/').getD 1
    image := (numbers.filter fun f => f.1 == '=' || f.1 == '+').map Prod.snd }

end Span

/-- Runs in ascending order of their first members. -/
structure SpanTable where
  spans : Array Span

namespace SpanTable

/-- The words of a row: what stands between blanks. -/
def words (row : List Char) : List (List Char) :=
  (splitOn ' ' row).filter (!·.isEmpty)

/-- Reads a table: rows of words. -/
def ofRows (rows : List String) : SpanTable :=
  ⟨(rows.flatMap fun row => (words row.toList).map Span.ofWord).toArray⟩

/-- The index of the last run among `lo, …, hi - 1` that starts at or before
`c`, for a run at `lo` that does. -/
def lastStart (t : SpanTable) (c : Nat) : Nat → Nat → Nat → Nat
  | 0, lo, _ => lo
  | fuel + 1, lo, hi =>
    if hi ≤ lo + 1 then lo
    else
      let mid := (lo + hi) / 2
      match t.spans[mid]? with
      | some s => if s.first ≤ c then lastStart t c fuel mid hi else lastStart t c fuel lo mid
      | none => lo

/-- The run that holds the code point, if any. -/
def find? (t : SpanTable) (c : Nat) : Option Span :=
  match t.spans[lastStart t c 32 0 t.spans.size]? with
  | some s => if s.has c then some s else none
  | none => none

/-- Is the code point in some run of the table? -/
def contains (t : SpanTable) (c : Nat) : Bool :=
  (t.find? c).isSome

/-- What belongs to the code point when each run maps its members in step
with its first one. -/
def shifted? (t : SpanTable) (c : Nat) : Option (List Nat) :=
  (t.find? c).map fun s => s.image.map (· + (c - s.first))

/-- What belongs to the code point when all members of a run share it. -/
def shared? (t : SpanTable) (c : Nat) : Option Nat :=
  (t.find? c).bind fun s => s.image.head?

end SpanTable

end Branchwise.Text
