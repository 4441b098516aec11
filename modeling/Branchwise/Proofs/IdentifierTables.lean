/-
What the tables of identifier characters and of compatibility forms say
together. Everything about single entries is checked once, by computing with the
bit sets of whole tables.

* `startRuns`, `partRuns`: the characters that start an identifier and those that
  may stand in one, with the ASCII ones.
* `settledKeys`: the pairs whose decomposition ends within a given depth.
* `Consistent`: the tables are sorted, forms are made of characters that have no
  form of their own, they stay within identifiers, and marks start none.
* `tables_consistent`: **the tables are consistent**.
-/
import Mathlib.Tactic.Common
import Branchwise.Proofs.SpanTables
import Branchwise.Text.Compatibility
import Branchwise.Text.IdentifierChars

namespace Branchwise.Text

/-- The runs that the members of a run are mapped to, one for each place of the
image. -/
def Span.imageRuns (s : Span) : List Span :=
  s.image.map fun i => ⟨i, i + (s.last - s.first), 1, []⟩

/-- The digits below 128. -/
def asciiDigits : Span := ⟨0x30, 0x39, 1, []⟩

/-- The letters below 128 and the low line. -/
def asciiStarts : List Span :=
  [⟨0x41, 0x5A, 1, []⟩, ⟨0x5F, 0x5F, 1, []⟩, ⟨0x61, 0x7A, 1, []⟩]

/-- What ends a line or is no character, above 127. -/
def unfitRuns : List Span :=
  [⟨0x80, 0x9F, 1, []⟩, ⟨0x2028, 0x2029, 1, []⟩, ⟨0xD800, 0xDFFF, 1, []⟩]

/-- What may start an identifier. -/
def startRuns : List Span :=
  asciiStarts ++ identifierStarts.spans.toList

/-- What may stand in an identifier. -/
def partRuns : List Span :=
  asciiDigits :: startRuns ++ identifierFollowers.spans.toList

namespace Compatibility

/-- The composed syllables of the Korean script. -/
def syllables : Span := ⟨0xAC00, 0xD7A3, 1, []⟩

/-- The letters that they are composed of: leads, vowels and tails. -/
def letters : List Span :=
  [⟨0x1100, 0x1112, 1, []⟩, ⟨0x1161, 0x1175, 1, []⟩, ⟨0x11A8, 0x11C2, 1, []⟩]

/-! ### Checks -/

/-- Is each part of the pair no pair itself, or one of the known ones? -/
def isSettledBy (pairs : List Span) (known : Nat) (s : Span) : Bool :=
  s.image.all fun a => !(bitsOf pairs).testBit a || known.testBit a

/-- The pairs that nest at most `n` deep. -/
def settledKeys (pairs : List Span) : Nat → Nat
  | 0 => 0
  | n + 1 => bitsOf (pairs.filter (isSettledBy pairs (settledKeys pairs n)))

/-- Is the entry a pair of a first part other than the low line and a second part
above 127, that starts an identifier if its first part does? -/
def isPairEntry (starts : List Span) (s : Span) : Bool :=
  s.first == s.last && s.image.length == 2
  && (s.image.take 1).all (fun a => a != 0x5F
    && (!(bitsOf starts).testBit a || (bitsOf starts).testBit s.first))
  && (s.image.drop 1).all fun b => decide (0x80 ≤ b)

/-- Are the first images of the members starts, unless no member is one? -/
def leadsToStart (starts : List Span) (s : Span) : Bool :=
  apart [s] starts || (!s.image.isEmpty && within (s.imageRuns.take 1) starts)

/-- The tables agree with each other. -/
structure Consistent (singles sequences pairs classes starts followers : List Span) : Prop where
  sorted : ∀ t ∈ [singles, sequences, pairs, classes, starts, followers],
    ascends 0x80 t = true ∧ t.length ≤ 2 ^ 32
  /-- A pair has no other decomposition. -/
  pairs_apart : apart pairs (syllables :: singles ++ sequences) = true
  /-- What a character is replaced by has no form of its own. -/
  images_apart : apart (letters ++ (singles ++ sequences).flatMap Span.imageRuns)
    (syllables :: singles ++ sequences ++ pairs) = true
  pairs_settle : ∀ s ∈ pairs, isSettledBy pairs (settledKeys pairs 2) s = true
  pairs_shape : ∀ s ∈ pairs, isPairEntry (asciiStarts ++ starts) s = true
  /-- Forms stay within identifiers. -/
  images_within : within
    (syllables :: letters ++ pairs ++ (singles ++ sequences ++ pairs).flatMap Span.imageRuns)
    (asciiDigits :: (asciiStarts ++ starts) ++ followers) = true
  syllables_within : within (syllables :: letters) (asciiStarts ++ starts) = true
  /-- The form of a start starts with a start. -/
  leads : ∀ s ∈ singles ++ sequences ++ pairs, leadsToStart (asciiStarts ++ starts) s = true
  /-- No mark starts an identifier. -/
  classes_apart : apart classes (asciiStarts ++ starts) = true
  fit : apart unfitRuns (starts ++ followers) = true
  below : bitsOf (starts ++ followers) < 2 ^ 0x110000

instance (singles sequences pairs classes starts followers : List Span) :
    Decidable (Consistent singles sequences pairs classes starts followers) :=
  decidable_of_iff (_ ∧ _ ∧ _ ∧ _ ∧ _ ∧ _ ∧ _ ∧ _ ∧ _ ∧ _ ∧ _)
    ⟨fun ⟨a, b, c, d, e, f, g, h, i, j, k⟩ => ⟨a, b, c, d, e, f, g, h, i, j, k⟩,
      fun h => ⟨h.sorted, h.pairs_apart, h.images_apart, h.pairs_settle, h.pairs_shape,
        h.images_within, h.syllables_within, h.leads, h.classes_apart, h.fit, h.below⟩⟩

/-- The tables of rows are consistent when the runs that their characters describe
are. -/
lemma consistent_ofRows {a b c d e f : List String} {a' b' c' d' e' f' : List (List Char)}
    (ha : Spelled a a') (hb : Spelled b b') (hc : Spelled c c') (hd : Spelled d d')
    (he : Spelled e e') (hf : Spelled f f')
    (h : Consistent (spansOf a') (spansOf b') (spansOf c') (spansOf d') (spansOf e')
      (spansOf f')) :
    Consistent (SpanTable.ofRows a).spans.toList (SpanTable.ofRows b).spans.toList
      (SpanTable.ofRows c).spans.toList (SpanTable.ofRows d).spans.toList
      (SpanTable.ofRows e).spans.toList (SpanTable.ofRows f).spans.toList := by
  rwa [ha.spans_ofRows, hb.spans_ofRows, hc.spans_ofRows, hd.spans_ofRows, he.spans_ofRows,
    hf.spans_ofRows]

set_option maxRecDepth 100000 in
/-- **The tables are consistent.** -/
theorem tables_consistent : Consistent singles.spans.toList sequences.spans.toList
    pairs.spans.toList classes.spans.toList identifierStarts.spans.toList
    identifierFollowers.spans.toList := by
  unfold singles sequences pairs classes identifierStarts identifierFollowers
  refine consistent_ofRows (by repeat constructor) (by repeat constructor)
    (by repeat constructor) (by repeat constructor) (by repeat constructor)
    (by repeat constructor) ?_
  decide +kernel

end Compatibility

end Branchwise.Text
