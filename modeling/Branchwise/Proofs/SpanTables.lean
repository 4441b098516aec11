/-
Tables over code points as sets: look-up by bisection finds the one run that
holds a code point, and whole tables are compared through their bit sets.

* `Spelled`, `spans_ofRows`: the runs of a table from the characters of its rows.
* `ascends`, `SpanTable.Sorted`: each run lies above the one before.
* `find?_eq_some_iff`: **bisection is membership** in a table that ascends.
* `bitsOf`, `testBit_bitsOf`: the members of runs as the bits of one number.
* `within`, `apart`: inclusion and disjointness of sets of runs, decided as
  equations between numbers.
-/
import Mathlib.Tactic.Common
import Mathlib.Data.Nat.Bitwise
import Branchwise.Text.SpanTable

namespace Branchwise.Text

/-! ### Rows -/

/-- The texts are spelled by the character lists, one by one. -/
inductive Spelled : List String → List (List Char) → Prop
  | nil : Spelled [] []
  | cons {row : List Char} {rows : List String} {rest : List (List Char)} :
      Spelled rows rest → Spelled (String.ofList row :: rows) (row :: rest)

/-- The runs that rows of characters describe. -/
def spansOf (rows : List (List Char)) : List Span :=
  rows.flatMap fun row => (SpanTable.words row).map Span.ofWord

/-- The runs of a table, from the characters of its rows. -/
lemma Spelled.spans_ofRows {rows : List String} {spelling : List (List Char)}
    (h : Spelled rows spelling) :
    (SpanTable.ofRows rows).spans.toList = spansOf spelling := by
  induction h with
  | nil => rfl
  | cons _ ih =>
      simp only [SpanTable.ofRows, spansOf, List.flatMap_cons, String.toList_ofList] at ih ⊢
      rw [ih]

/-! ### Ascending runs -/

namespace Span

/-- Membership in a run that leaves nothing out. -/
lemma has_iff {s : Span} (h : s.step = 1) (c : Nat) :
    s.has c = true ↔ s.first ≤ c ∧ c ≤ s.last := by
  simp [has, h, Nat.mod_one]

end Span

/-- One of the runs holds the code point. -/
def Covers (runs : List Span) (c : Nat) : Prop :=
  ∃ s ∈ runs, s.has c = true

@[simp]
lemma not_covers_nil {c : Nat} : ¬ Covers [] c := by
  simp [Covers]

lemma covers_append {a b : List Span} {c : Nat} :
    Covers (a ++ b) c ↔ Covers a c ∨ Covers b c := by
  simp [Covers, or_and_right, exists_or]

lemma covers_cons {s : Span} {ss : List Span} {c : Nat} :
    Covers (s :: ss) c ↔ s.has c = true ∨ Covers ss c := by
  simp [Covers]

/-- The runs leave nothing out. -/
def Gapless (runs : List Span) : Prop :=
  ∀ s ∈ runs, s.step = 1

@[simp]
lemma gapless_append {a b : List Span} : Gapless (a ++ b) ↔ Gapless a ∧ Gapless b := by
  simp [Gapless, or_imp, forall_and]

@[simp]
lemma gapless_cons {s : Span} {ss : List Span} :
    Gapless (s :: ss) ↔ s.step = 1 ∧ Gapless ss := by
  simp [Gapless]

@[simp]
lemma gapless_nil : Gapless [] := by
  simp [Gapless]

/-- Do the runs leave nothing out and lie one above the other, from `low` on? -/
def ascends (low : Nat) : List Span → Bool
  | [] => true
  | s :: ss =>
    decide (low ≤ s.first) && decide (s.first ≤ s.last) && s.step == 1 && ascends (s.last + 1) ss

/-- What ascending says of each run, and of each run with those behind it. -/
lemma forall_of_ascends {low : Nat} {spans : List Span} (h : ascends low spans = true) :
    (∀ s ∈ spans, low ≤ s.first ∧ s.first ≤ s.last ∧ s.step = 1) ∧
      spans.Pairwise fun a b => a.last < b.first := by
  induction spans generalizing low with
  | nil => simp
  | cons s ss ih =>
      simp only [ascends, Bool.and_eq_true, decide_eq_true_eq, beq_iff_eq] at h
      obtain ⟨⟨⟨hlow, hrun⟩, hstep⟩, hrest⟩ := h
      obtain ⟨hall, hpairs⟩ := ih hrest
      constructor
      · intro r hr
        rcases List.mem_cons.mp hr with rfl | hr
        · exact ⟨hlow, hrun, hstep⟩
        · obtain ⟨hfirst, hr⟩ := hall r hr
          exact ⟨by omega, hr⟩
      · refine List.pairwise_cons.mpr ⟨fun r hr => ?_, hpairs⟩
        have := (hall r hr).1
        omega

/-! ### Bisection -/

namespace SpanTable

variable {t : SpanTable} {c : Nat}

/-- The runs ascend above the ASCII characters, and bisection has enough steps for
them. -/
structure Sorted (t : SpanTable) : Prop where
  ascends : ascends 0x80 t.spans.toList = true
  size : t.spans.toList.length ≤ 2 ^ 32

/-- Bisection keeps a run that starts at or before `c` at its lower end and one
that starts behind `c` at its upper end, and halves the distance between them. -/
lemma lastStart_spec (t : SpanTable) (c fuel lo hi : Nat) (hhi : hi ≤ t.spans.size)
    (hlo : lo < hi) (hfuel : hi - lo ≤ 2 ^ fuel)
    (hbelow : ∀ s, t.spans[lo]? = some s → s.first ≤ c)
    (habove : ∀ s, t.spans[hi]? = some s → c < s.first) :
    (∀ s, t.spans[t.lastStart c fuel lo hi]? = some s → s.first ≤ c) ∧
      (∀ s, t.spans[t.lastStart c fuel lo hi + 1]? = some s → c < s.first) ∧
      t.lastStart c fuel lo hi < t.spans.size := by
  induction fuel generalizing lo hi with
  | zero =>
      have hone : hi = lo + 1 := by
        rw [pow_zero] at hfuel
        omega
      subst hone
      exact ⟨hbelow, habove, by rw [lastStart]; omega⟩
  | succ fuel ih =>
      rw [lastStart]
      split
      · have hone : hi = lo + 1 := by omega
        subst hone
        exact ⟨hbelow, habove, by omega⟩
      · have hmid : (lo + hi) / 2 < t.spans.size := by omega
        have hget : t.spans[(lo + hi) / 2]? = some t.spans[(lo + hi) / 2] :=
          Array.getElem?_eq_getElem hmid
        have hpow : 2 ^ (fuel + 1) = 2 * 2 ^ fuel := by rw [pow_succ, Nat.mul_comm]
        simp only [hget]
        split
        · next hle =>
          refine ih _ _ hhi (by omega) (by omega) (fun s hs => ?_) habove
          rw [hget] at hs
          cases hs
          exact hle
        · next hgt =>
          refine ih _ _ (by omega) (by omega) (by omega) hbelow (fun s hs => ?_)
          rw [hget] at hs
          cases hs
          omega

/-- The run that is found belongs to the table and holds the code point. -/
lemma mem_of_find? {s : Span} (h : t.find? c = some s) :
    s ∈ t.spans.toList ∧ s.has c = true := by
  rw [find?] at h
  split at h
  · next r hr =>
    split at h
    · next hhas =>
      cases h
      exact ⟨Array.mem_toList_iff.mpr (Array.mem_of_getElem? hr), hhas⟩
    · cases h
  · cases h

/-- In a table that ascends, the run that holds a code point is found. -/
lemma find?_of_mem (h : t.Sorted) {s : Span} (hs : s ∈ t.spans.toList) (hc : s.has c = true) :
    t.find? c = some s := by
  obtain ⟨hall, hpairs⟩ := forall_of_ascends h.ascends
  have hsize := h.size
  have hlt := List.pairwise_iff_getElem.mp hpairs
  obtain ⟨j, hj, rfl⟩ := List.getElem_of_mem hs
  obtain ⟨-, -, hstep⟩ := hall _ hs
  obtain ⟨hfirst, hlast⟩ := (Span.has_iff hstep c).mp hc
  have hfirsts : ∀ i (hi : i < t.spans.toList.length), i ≤ j →
      t.spans.toList[i].first ≤ c := by
    intro i hi hij
    rcases Nat.lt_or_eq_of_le hij with hij | rfl
    · have hrun := (hall _ (List.getElem_mem hi)).2.1
      have := hlt i j hi hj hij
      omega
    · exact hfirst
  have hsize' : t.spans.toList.length = t.spans.size := Array.length_toList
  obtain ⟨hbelow, habove, hbound⟩ := lastStart_spec t c 32 0 t.spans.size (Nat.le_refl _)
    (by omega) (by omega)
    (fun s h0 => by
      obtain ⟨h, rfl⟩ := Array.getElem?_eq_some_iff.mp h0
      exact hfirsts 0 (by omega) (Nat.zero_le _))
    (fun s h => by
      rw [Array.getElem?_eq_none (Nat.le_refl _)] at h
      cases h)
  rw [find?]
  generalize t.lastStart c 32 0 t.spans.size = i at hbelow habove hbound ⊢
  have hget : t.spans[i]? = some t.spans.toList[i] := Array.getElem?_eq_getElem hbound
  have hi : i = j := by
    rcases Nat.lt_trichotomy i j with hij | hij | hij
    · have hnext : t.spans[i + 1]? = some t.spans.toList[i + 1] :=
        Array.getElem?_eq_getElem (by omega)
      have hle := hfirsts (i + 1) (by omega) hij
      have := habove _ hnext
      omega
    · exact hij
    · have hle := hbelow _ hget
      have := hlt j i hj (by omega) hij
      omega
  subst hi
  simp only [hget, hc, if_true]

/-- **Bisection is membership**: in a table that ascends, the run that is found
is the run of the table that holds the code point. -/
theorem find?_eq_some_iff (h : t.Sorted) {s : Span} :
    t.find? c = some s ↔ s ∈ t.spans.toList ∧ s.has c = true :=
  ⟨mem_of_find?, fun ⟨hs, hc⟩ => find?_of_mem h hs hc⟩

/-- Nothing is found for a code point that no run holds. -/
lemma find?_eq_none (h : ¬ Covers t.spans.toList c) : t.find? c = none := by
  cases hf : t.find? c with
  | none => rfl
  | some s =>
      obtain ⟨hs, hc⟩ := mem_of_find? hf
      exact absurd ⟨s, hs, hc⟩ h

/-- Membership in a table that ascends. -/
lemma contains_iff (h : t.Sorted) : t.contains c = true ↔ Covers t.spans.toList c := by
  rw [contains, Option.isSome_iff_exists]
  exact exists_congr fun s => find?_eq_some_iff h

lemma Sorted.gapless (h : t.Sorted) : Gapless t.spans.toList :=
  fun s hs => ((forall_of_ascends h.ascends).1 s hs).2.2

/-- A sorted table says nothing of the ASCII characters. -/
lemma Sorted.not_covers (h : t.Sorted) (hc : c < 0x80) : ¬ Covers t.spans.toList c := by
  rintro ⟨s, hs, hhas⟩
  obtain ⟨hlow, -, hstep⟩ := (forall_of_ascends h.ascends).1 s hs
  have := (Span.has_iff hstep c).mp hhas
  omega

end SpanTable

/-! ### Bit sets -/

/-- The members of a run as bits. -/
def Span.bits (s : Span) : Nat :=
  (2 ^ (s.last + 1 - s.first) - 1) <<< s.first

/-- A code point is a bit of the run that holds it. -/
lemma Span.testBit_bits {s : Span} (h : s.step = 1) (c : Nat) :
    s.bits.testBit c = s.has c := by
  rw [bits, Nat.testBit_shiftLeft, Nat.testBit_two_pow_sub_one, Bool.eq_iff_iff, has_iff h]
  simp only [Bool.and_eq_true, decide_eq_true_eq]
  omega

/-- The members of all runs as bits, with those of `acc`. The comparison with zero
makes each intermediate number be computed at once. -/
def bitsFrom (acc : Nat) : List Span → Nat
  | [] => acc
  | s :: ss => if acc = 0 then bitsFrom s.bits ss else bitsFrom (acc ||| s.bits) ss

/-- The members of all runs as bits. -/
def bitsOf (spans : List Span) : Nat :=
  bitsFrom 0 spans

lemma testBit_bitsFrom {spans : List Span} (h : Gapless spans) (acc c : Nat) :
    (bitsFrom acc spans).testBit c = (acc.testBit c || spans.any (·.has c)) := by
  induction spans generalizing acc with
  | nil => simp [bitsFrom]
  | cons s ss ih =>
      obtain ⟨hstep, hrest⟩ := gapless_cons.mp h
      have ih := ih hrest
      have hs := Span.testBit_bits hstep c
      rw [bitsFrom]
      split
      · next hzero => simp [ih, hs, hzero]
      · simp [ih, hs, Bool.or_assoc]

/-- A code point is a bit of the set when one of the runs holds it. -/
lemma testBit_bitsOf {spans : List Span} (h : Gapless spans) (c : Nat) :
    (bitsOf spans).testBit c = true ↔ Covers spans c := by
  simp [bitsOf, testBit_bitsFrom h, Covers]

/-- Is every member of the first runs a member of the second? -/
def within (a b : List Span) : Bool :=
  bitsOf a ||| bitsOf b == bitsOf b

/-- Have the runs no member in common? -/
def apart (a b : List Span) : Bool :=
  bitsOf a &&& bitsOf b == 0

section

variable {a b : List Span} (ha : Gapless a) (hb : Gapless b)
include ha hb

lemma covers_of_within (h : within a b = true) {c : Nat} (hc : Covers a c) : Covers b c := by
  rw [← testBit_bitsOf hb, ← beq_iff_eq.mp h, Nat.testBit_or, (testBit_bitsOf ha c).mpr hc,
    Bool.true_or]

lemma not_covers_of_apart (h : apart a b = true) {c : Nat} (hc : Covers a c) : ¬ Covers b c := by
  intro hc'
  have hbit := Nat.testBit_and (bitsOf a) (bitsOf b) c
  rw [beq_iff_eq.mp h, (testBit_bitsOf ha c).mpr hc, (testBit_bitsOf hb c).mpr hc'] at hbit
  simp at hbit

end

end Branchwise.Text
