/-
The composed form of identifiers is a normal form.

* `decompose_cases`: what one step of decomposition can do.
* `settles_four`: decomposition ends within four steps, in characters that have no
  form of their own.
* `decompose_composePair?`: what composition joins, decomposition takes apart
  again.
* `form_form`: **the form is stable**.
* `form_append`: the low line keeps the forms before and behind it apart.
* `isIdentifier_normalize`: the form of an identifier is an identifier.
* `IsForm`: the words that are their own form, put together by low lines.
-/
import Branchwise.Proofs.Composition
import Branchwise.Proofs.IdentifierTables

namespace Branchwise.Text

/-- May the code point start an identifier? -/
def IsStart (c : Nat) : Prop := Covers startRuns c

/-- May the code point stand in an identifier? -/
def IsPart (c : Nat) : Prop := Covers partRuns c

/-- The run holds the code point and says what it is replaced by. -/
structure Compatibility.Replaces (s : Span) (c : Nat) : Prop where
  mem : s ∈ singles.spans.toList ++ sequences.spans.toList
  has : s.has c = true

/-! ### The tables -/

namespace SpanTable

/-- The image of a code point in a table that ascends. -/
lemma shifted?_of_mem {t : SpanTable} (h : t.Sorted) {s : Span} {c : Nat}
    (hs : s ∈ t.spans.toList) (hc : s.has c = true) :
    t.shifted? c = some (s.image.map (· + (c - s.first))) := by
  rw [shifted?, find?_of_mem h hs hc, Option.map_some]

lemma shifted?_eq_none {t : SpanTable} {c : Nat} (h : ¬ Covers t.spans.toList c) :
    t.shifted? c = none := by
  rw [shifted?, find?_eq_none h, Option.map_none]

/-- What an image is made of belongs to the runs of images. -/
lemma covers_imageRuns {s : Span} {c d : Nat} (hstep : s.step = 1) (hc : s.has c = true)
    (hd : d ∈ s.image.map (· + (c - s.first))) : Covers s.imageRuns d := by
  obtain ⟨i, hi, rfl⟩ := List.mem_map.mp hd
  obtain ⟨hfirst, hlast⟩ := (Span.has_iff hstep c).mp hc
  refine ⟨_, List.mem_map.mpr ⟨i, hi, rfl⟩, (Span.has_iff rfl _).mpr ⟨?_, ?_⟩⟩
  · exact Nat.le_add_right _ _
  · show i + (c - s.first) ≤ i + (s.last - s.first)
    omega

end SpanTable

@[simp]
lemma gapless_imageRuns (spans : List Span) : Gapless (spans.flatMap Span.imageRuns) := by
  intro s hs
  obtain ⟨r, -, hs⟩ := List.mem_flatMap.mp hs
  obtain ⟨i, -, rfl⟩ := List.mem_map.mp hs
  rfl

@[simp]
lemma gapless_asciiStarts : Gapless asciiStarts := by
  simp [asciiStarts]

namespace Compatibility

@[simp]
lemma gapless_letters : Gapless letters := by
  simp [letters]

lemma sorted_of_mem {t : SpanTable}
    (h : t.spans.toList ∈ [singles.spans.toList, sequences.spans.toList, pairs.spans.toList,
      classes.spans.toList, identifierStarts.spans.toList, identifierFollowers.spans.toList]) :
    t.Sorted :=
  ⟨(tables_consistent.sorted _ h).1, (tables_consistent.sorted _ h).2⟩

lemma singles_sorted : singles.Sorted := sorted_of_mem (by simp)
lemma sequences_sorted : sequences.Sorted := sorted_of_mem (by simp)
lemma pairs_sorted : pairs.Sorted := sorted_of_mem (by simp)
lemma classes_sorted : classes.Sorted := sorted_of_mem (by simp)
lemma starts_sorted : identifierStarts.Sorted := sorted_of_mem (by simp)
lemma followers_sorted : identifierFollowers.Sorted := sorted_of_mem (by simp)

@[simp]
lemma gapless_startRuns : Gapless startRuns := by
  simp [startRuns, starts_sorted.gapless]

@[simp]
lemma gapless_partRuns : Gapless partRuns := by
  simp [partRuns, followers_sorted.gapless, asciiDigits]

/-! ### Decomposition -/

/-- The runs of all characters that are decomposed. -/
def keyRuns : List Span :=
  syllables :: singles.spans.toList ++ sequences.spans.toList ++ pairs.spans.toList

/-- The code point has no form other than itself. -/
def Basic (c : Nat) : Prop := ¬ Covers keyRuns c

@[simp]
lemma gapless_keyRuns : Gapless keyRuns := by
  simp [keyRuns, syllables, singles_sorted.gapless, sequences_sorted.gapless,
    pairs_sorted.gapless]

lemma isSyllable_iff (c : Nat) : isSyllable c = true ↔ syllables.has c = true := by
  simp [isSyllable, Span.has_iff, syllables]

lemma basic_iff {c : Nat} : Basic c ↔ isSyllable c = false ∧ ¬ Covers singles.spans.toList c ∧
    ¬ Covers sequences.spans.toList c ∧ ¬ Covers pairs.spans.toList c := by
  rw [Basic, keyRuns, covers_append, covers_append, covers_cons, ← isSyllable_iff]
  simp [and_assoc]

/-- One step of decomposition, as a choice between the tables. -/
lemma decompose_succ (n c : Nat) : decompose (n + 1) c =
    if isSyllable c = true then syllableParts c
    else (singles.shifted? c).getD ((sequences.shifted? c).getD
      (((pairs.shifted? c).map (·.flatMap (decompose n))).getD [c])) := by
  rw [decompose, decomposeStep]
  generalize singles.shifted? c = single
  generalize sequences.shifted? c = sequence
  generalize pairs.shifted? c = pair
  cases single <;> cases sequence <;> cases pair <;> rfl

lemma decompose_of_basic {c : Nat} (h : Basic c) (n : Nat) : decompose n c = [c] := by
  obtain ⟨hsyl, hsingle, hsequence, hpair⟩ := basic_iff.mp h
  cases n with
  | zero => rfl
  | succ n =>
      rw [decompose_succ, SpanTable.shifted?_eq_none hsingle,
        SpanTable.shifted?_eq_none hsequence, SpanTable.shifted?_eq_none hpair]
      simp [hsyl]

/-- The parts of a syllable are letters. -/
lemma covers_letters {c d : Nat} (hc : isSyllable c = true) (hd : d ∈ syllableParts c) :
    Covers letters d := by
  simp only [isSyllable, Bool.and_eq_true, decide_eq_true_eq] at hc
  simp only [syllableParts] at hd
  simp only [letters, covers_cons, Span.has_iff]
  split at hd
  · simp only [List.mem_cons, List.not_mem_nil, or_false] at hd
    omega
  · simp only [List.mem_cons, List.not_mem_nil, or_false] at hd
    omega

/-- What a character is replaced by is basic. -/
lemma basic_of_covers_images {d : Nat} (hd : Covers (letters ++
    (singles.spans.toList ++ sequences.spans.toList).flatMap Span.imageRuns) d) : Basic d :=
  not_covers_of_apart (by simp) gapless_keyRuns tables_consistent.images_apart hd

/-- A pair is neither a syllable nor a member of the other tables. -/
lemma not_covers_of_pair {c : Nat} (hc : Covers pairs.spans.toList c) :
    isSyllable c = false ∧ ¬ Covers singles.spans.toList c ∧
      ¬ Covers sequences.spans.toList c := by
  have h := not_covers_of_apart pairs_sorted.gapless
    (by simp [syllables, singles_sorted.gapless, sequences_sorted.gapless])
    tables_consistent.pairs_apart hc
  rw [covers_append, covers_cons, ← isSyllable_iff] at h
  simpa [and_assoc] using h

lemma Replaces.step {s : Span} {c : Nat} (h : Replaces s c) : s.step = 1 := by
  rcases List.mem_append.mp h.mem with hs | hs
  · exact singles_sorted.gapless s hs
  · exact sequences_sorted.gapless s hs

/-- What one step of decomposition can do. -/
lemma decompose_cases (c : Nat) :
    (isSyllable c = true ∧ ∀ n, decompose (n + 1) c = syllableParts c) ∨
    (∃ s, Replaces s c ∧ ∀ n, decompose (n + 1) c = s.image.map (· + (c - s.first))) ∨
    (∃ s ∈ pairs.spans.toList, s.has c = true) ∨
    (Basic c ∧ ∀ n, decompose n c = [c]) := by
  by_cases hsyl : isSyllable c = true
  · exact .inl ⟨hsyl, fun n => by rw [decompose_succ, if_pos hsyl]⟩
  by_cases hsingle : Covers singles.spans.toList c
  · obtain ⟨s, hs, hc⟩ := hsingle
    refine .inr (.inl ⟨s, ⟨List.mem_append_left _ hs, hc⟩, fun n => ?_⟩)
    rw [decompose_succ, if_neg hsyl, SpanTable.shifted?_of_mem singles_sorted hs hc,
      Option.getD_some]
  by_cases hsequence : Covers sequences.spans.toList c
  · obtain ⟨s, hs, hc⟩ := hsequence
    refine .inr (.inl ⟨s, ⟨List.mem_append_right _ hs, hc⟩, fun n => ?_⟩)
    rw [decompose_succ, if_neg hsyl, SpanTable.shifted?_eq_none hsingle, Option.getD_none,
      SpanTable.shifted?_of_mem sequences_sorted hs hc, Option.getD_some]
  by_cases hpair : Covers pairs.spans.toList c
  · exact .inr (.inr (.inl hpair))
  · have hbasic : Basic c := basic_iff.mpr ⟨by simpa using hsyl, hsingle, hsequence, hpair⟩
    exact .inr (.inr (.inr ⟨hbasic, decompose_of_basic hbasic⟩))

/-- What a replaced character is replaced by. -/
lemma Replaces.covers {s : Span} {c d : Nat} (h : Replaces s c)
    (hd : d ∈ s.image.map (· + (c - s.first))) :
    Covers ((singles.spans.toList ++ sequences.spans.toList).flatMap Span.imageRuns) d := by
  obtain ⟨r, hr, hrd⟩ := SpanTable.covers_imageRuns h.step h.has hd
  exact ⟨r, List.mem_flatMap.mpr ⟨s, h.mem, hr⟩, hrd⟩

/-- A pair: its key is one code point, its parts are two, the low line is no first
part and no ASCII character a second one. -/
lemma pair_entry {s : Span} (hs : s ∈ pairs.spans.toList) :
    ∃ a b, s.image = [a, b] ∧ (∀ c, s.has c = true ↔ c = s.first) ∧ a ≠ 0x5F ∧ 0x80 ≤ b ∧
      (IsStart a → IsStart s.first) := by
  have h := tables_consistent.pairs_shape s hs
  simp only [isPairEntry, Bool.and_eq_true, beq_iff_eq] at h
  obtain ⟨⟨⟨hkey, hlength⟩, hfirst⟩, hsecond⟩ := h
  obtain ⟨a, b, himage⟩ := List.length_eq_two.mp hlength
  rw [himage] at hfirst hsecond
  simp only [List.take_succ_cons, List.take_zero, List.drop_succ_cons, List.drop_zero,
    List.all_cons, List.all_nil, Bool.and_true, Bool.and_eq_true, bne_iff_ne, ne_eq,
    Bool.or_eq_true, Bool.not_eq_true', decide_eq_true_eq] at hfirst hsecond
  obtain ⟨hline, hstart⟩ := hfirst
  refine ⟨a, b, himage, fun c => ?_, hline, hsecond, fun ha => ?_⟩
  · rw [Span.has_iff (pairs_sorted.gapless s hs)]
    omega
  · rcases hstart with hstart | hstart
    · rw [← Bool.not_eq_true] at hstart
      exact absurd ((testBit_bitsOf gapless_startRuns a).mpr ha) hstart
    · exact (testBit_bitsOf gapless_startRuns _).mp hstart

/-- A pair is decomposed into the decompositions of its parts. -/
lemma decompose_pair {s : Span} (hs : s ∈ pairs.spans.toList) (n : Nat) :
    decompose (n + 1) s.first = s.image.flatMap (decompose n) := by
  obtain ⟨a, b, himage, hkey, -⟩ := pair_entry hs
  have hc : s.has s.first = true := (hkey _).mpr rfl
  obtain ⟨hsyl, hsingle, hsequence⟩ := not_covers_of_pair ⟨s, hs, hc⟩
  rw [decompose_succ, if_neg (by simp [hsyl]), SpanTable.shifted?_eq_none hsingle,
    SpanTable.shifted?_eq_none hsequence, SpanTable.shifted?_of_mem pairs_sorted hs hc]
  simp

/-- Decomposition of the code point ends within `n` steps, in basic ones. -/
def Settles (n c : Nat) : Prop :=
  (∀ m, decompose (n + m) c = decompose n c) ∧ ∀ d ∈ decompose n c, Basic d

lemma Settles.mono {n m c : Nat} (h : Settles n c) (hle : n ≤ m) : Settles m c := by
  obtain ⟨k, rfl⟩ := Nat.exists_eq_add_of_le hle
  refine ⟨fun j => ?_, fun d hd => h.2 d ?_⟩
  · rw [Nat.add_assoc, h.1, h.1]
  · rwa [h.1] at hd

/-- All but the pairs are decomposed at once. -/
lemma settles_one {c : Nat} (h : ¬ Covers pairs.spans.toList c) : Settles 1 c := by
  rcases decompose_cases c with ⟨hsyl, hall⟩ | ⟨s, hs, hall⟩ | hpair | ⟨hbasic, hall⟩
  · refine ⟨fun m => by rw [Nat.add_comm, hall, hall 0], fun d hd => ?_⟩
    rw [hall 0] at hd
    exact basic_of_covers_images (covers_append.mpr (.inl (covers_letters hsyl hd)))
  · refine ⟨fun m => by rw [Nat.add_comm, hall, hall 0], fun d hd => ?_⟩
    rw [hall 0] at hd
    exact basic_of_covers_images (covers_append.mpr (.inr (hs.covers hd)))
  · exact absurd hpair h
  · refine ⟨fun m => by rw [hall, hall], fun d hd => ?_⟩
    rw [hall, List.mem_singleton] at hd
    exact hd ▸ hbasic

/-- A pair takes one step more than its parts. -/
lemma settles_pair {s : Span} (hs : s ∈ pairs.spans.toList) {n : Nat}
    (h : ∀ a ∈ s.image, Settles n a) : Settles (n + 1) s.first := by
  constructor
  · intro m
    rw [Nat.add_right_comm, decompose_pair hs, decompose_pair hs]
    exact List.flatMap_congr fun a ha => (h a ha).1 m
  · intro d hd
    rw [decompose_pair hs, List.mem_flatMap] at hd
    obtain ⟨a, ha, hd⟩ := hd
    exact (h a ha).2 d hd

/-- The parts of a pair settle when each of them is no pair or a known one. -/
lemma settles_of_isSettledBy {n known : Nat} {s : Span}
    (hknown : ∀ c, known.testBit c = true → Settles (n + 1) c)
    (hs : isSettledBy pairs.spans.toList known s = true) : ∀ a ∈ s.image, Settles (n + 1) a := by
  intro a ha
  have hcase := List.all_eq_true.mp hs a ha
  rw [Bool.or_eq_true, Bool.not_eq_true', ← Bool.not_eq_true,
    testBit_bitsOf pairs_sorted.gapless] at hcase
  rcases hcase with hpair | hbit
  · exact (settles_one hpair).mono (by omega)
  · exact hknown a hbit

/-- The pairs that nest at most `n` deep settle in one step more. -/
lemma settles_of_settledKeys (n c : Nat)
    (h : (settledKeys pairs.spans.toList n).testBit c = true) : Settles (n + 1) c := by
  induction n generalizing c with
  | zero => simp [settledKeys] at h
  | succ n ih =>
      have hgapless : Gapless (pairs.spans.toList.filter
          (isSettledBy pairs.spans.toList (settledKeys pairs.spans.toList n))) :=
        fun s hs => pairs_sorted.gapless s (List.mem_filter.mp hs).1
      rw [settledKeys, testBit_bitsOf hgapless] at h
      obtain ⟨s, hs, hc⟩ := h
      obtain ⟨hs, hsettled⟩ := List.mem_filter.mp hs
      obtain ⟨a, b, -, hkey, -⟩ := pair_entry hs
      rw [(hkey c).mp hc]
      exact settles_pair hs (settles_of_isSettledBy ih hsettled)

lemma settles_three_of_mem {s : Span} (hs : s ∈ pairs.spans.toList) :
    ∀ a ∈ s.image, Settles 3 a :=
  settles_of_isSettledBy (settles_of_settledKeys 2) (tables_consistent.pairs_settle s hs)

/-- Decomposition ends within four steps, in characters that have no form of
their own. -/
lemma settles_four (c : Nat) : Settles 4 c := by
  by_cases hpair : Covers pairs.spans.toList c
  · obtain ⟨s, hs, hc⟩ := hpair
    obtain ⟨a, b, -, hkey, -⟩ := pair_entry hs
    rw [(hkey c).mp hc]
    exact settles_pair hs (settles_three_of_mem hs)
  · exact (settles_one hpair).mono (by omega)

/-- The full decomposition of a pair is that of its parts. -/
lemma decompose_four_pair {s : Span} (hs : s ∈ pairs.spans.toList) :
    decompose 4 s.first = s.image.flatMap (decompose 4) := by
  rw [decompose_pair hs]
  exact List.flatMap_congr fun a ha => ((settles_three_of_mem hs a ha).1 1).symm

/-! ### Composition of two characters -/

/-- The three ways in which two code points compose. -/
lemma composePair?_cases {a b j : Nat} (h : composePair? a b = some j) :
    (0x1100 ≤ a ∧ a < 0x1113 ∧ 0x1161 ≤ b ∧ b < 0x1176 ∧
      j = 0xAC00 + ((a - 0x1100) * 21 + (b - 0x1161)) * 28) ∨
    (isSyllable a = true ∧ (a - 0xAC00) % 28 = 0 ∧ 0x11A7 < b ∧ b < 0x11C3 ∧
      j = a + (b - 0x11A7)) ∨
    (∃ s ∈ pairs.spans.toList, s.image = [a, b] ∧ j = s.first) := by
  rw [composePair?] at h
  split at h
  · next hlead =>
    simp only [Bool.and_eq_true, decide_eq_true_eq] at hlead
    exact .inl ⟨hlead.1.1.1, hlead.1.1.2, hlead.1.2, hlead.2, (Option.some.inj h).symm⟩
  · split at h
    · next htail =>
      simp only [Bool.and_eq_true, decide_eq_true_eq, beq_iff_eq] at htail
      exact .inr (.inl ⟨htail.1.1.1, htail.1.1.2, htail.1.2, htail.2, (Option.some.inj h).symm⟩)
    · obtain ⟨s, hs, rfl⟩ := Option.map_eq_some_iff.mp h
      have himage := Array.find?_some hs
      have hmem := Array.mem_of_find?_eq_some hs
      exact .inr (.inr ⟨s, Array.mem_toList_iff.mpr hmem, by simpa using himage, rfl⟩)

/-- What composition joins, decomposition takes apart again. -/
lemma decompose_composePair? {a b j : Nat} (h : composePair? a b = some j) :
    decompose 4 j = decompose 4 a ++ decompose 4 b := by
  have hletter : ∀ d, Covers letters d → decompose 4 d = [d] := fun d hd =>
    decompose_of_basic (basic_of_covers_images (covers_append.mpr (.inl hd))) 4
  have hsyllable : ∀ c, isSyllable c = true → decompose 4 c = syllableParts c := fun c hc => by
    rw [decompose_succ, if_pos hc]
  rcases composePair?_cases h with
    ⟨ha, ha', hb, hb', hj⟩ | ⟨ha, htail, hb, hb', hj⟩ | ⟨s, hs, himage, rfl⟩
  · have hsyl : isSyllable j = true := by
      simp only [isSyllable, Bool.and_eq_true, decide_eq_true_eq]
      omega
    have hparts : syllableParts j = [a, b] := by
      simp only [syllableParts]
      rw [if_pos (by omega)]
      simp only [List.cons.injEq, and_true]
      omega
    rw [hsyllable j hsyl, hparts, hletter a, hletter b]
    · rfl
    · simp only [letters, covers_cons, Span.has_iff]
      omega
    · simp only [letters, covers_cons, Span.has_iff]
      omega
  · have hrange := ha
    simp only [isSyllable, Bool.and_eq_true, decide_eq_true_eq] at hrange
    have hsyl : isSyllable j = true := by
      simp only [isSyllable, Bool.and_eq_true, decide_eq_true_eq]
      omega
    have hparts : syllableParts j = syllableParts a ++ [b] := by
      simp only [syllableParts]
      rw [if_neg (by omega), if_pos (by omega)]
      simp only [List.cons_append, List.nil_append, List.cons.injEq, and_true]
      omega
    rw [hsyllable j hsyl, hparts, hsyllable a ha, hletter b]
    simp only [letters, covers_cons, Span.has_iff]
    omega
  · rw [decompose_four_pair hs, himage]
    simp

/-! ### Forms stay within identifiers -/

lemma isPart_of_covers {d : Nat} (h : Covers (syllables :: letters ++ pairs.spans.toList ++
    (singles.spans.toList ++ sequences.spans.toList ++ pairs.spans.toList).flatMap
      Span.imageRuns) d) : IsPart d :=
  covers_of_within (by simp [syllables, pairs_sorted.gapless]) gapless_partRuns
    tables_consistent.images_within h

/-- The images of a run belong to the runs of images of the table. -/
lemma covers_images {s : Span} {spans : List Span} (hs : s ∈ spans) (hstep : s.step = 1)
    {c d : Nat} (hc : s.has c = true) (hd : d ∈ s.image.map (· + (c - s.first))) :
    Covers (spans.flatMap Span.imageRuns) d := by
  obtain ⟨r, hr, hrd⟩ := SpanTable.covers_imageRuns hstep hc hd
  exact ⟨r, List.mem_flatMap.mpr ⟨s, hs, hr⟩, hrd⟩

/-- The parts of a pair may stand in an identifier. -/
lemma isPart_of_mem_pair {s : Span} (hs : s ∈ pairs.spans.toList) {a : Nat}
    (ha : a ∈ s.image) : IsPart a := by
  obtain ⟨-, -, -, hkey, -⟩ := pair_entry hs
  refine isPart_of_covers (covers_append.mpr (.inr ?_))
  refine covers_images (List.mem_append_right _ hs) (pairs_sorted.gapless s hs)
    ((hkey s.first).mpr rfl) ?_
  simpa using ha

lemma isPart_decompose {n c d : Nat} (hc : IsPart c) (hd : d ∈ decompose n c) : IsPart d := by
  induction n generalizing c with
  | zero =>
      rw [decompose, List.mem_singleton] at hd
      exact hd ▸ hc
  | succ n ih =>
      rcases decompose_cases c with ⟨hsyl, hall⟩ | ⟨s, hs, hall⟩ | ⟨s, hs, hkey⟩ | ⟨-, hall⟩
      · rw [hall] at hd
        have := covers_letters hsyl hd
        exact isPart_of_covers (by simp [covers_append, covers_cons, this])
      · rw [hall] at hd
        have := hs.covers hd
        refine isPart_of_covers (covers_append.mpr (.inr ?_))
        rw [List.flatMap_append, covers_append]
        exact .inl this
      · obtain ⟨-, -, -, hfirst, -⟩ := pair_entry hs
        rw [(hfirst c).mp hkey, decompose_pair hs, List.mem_flatMap] at hd
        obtain ⟨a, ha, hd⟩ := hd
        exact ih (isPart_of_mem_pair hs ha) hd
      · rw [hall, List.mem_singleton] at hd
        exact hd ▸ hc

lemma isPart_composePair? {a b j : Nat} (h : composePair? a b = some j) : IsPart j := by
  have hsyllable : isSyllable j = true → IsPart j := fun hj =>
    isPart_of_covers (by simp [covers_append, covers_cons, (isSyllable_iff j).mp hj])
  rcases composePair?_cases h with
    ⟨ha, ha', hb, hb', hj⟩ | ⟨ha, htail, hb, hb', hj⟩ | ⟨s, hs, himage, rfl⟩
  · apply hsyllable
    simp only [isSyllable, Bool.and_eq_true, decide_eq_true_eq]
    omega
  · apply hsyllable
    simp only [isSyllable, Bool.and_eq_true, decide_eq_true_eq] at ha ⊢
    omega
  · obtain ⟨-, -, -, hkey, -⟩ := pair_entry hs
    have : Covers pairs.spans.toList s.first := ⟨s, hs, (hkey _).mpr rfl⟩
    exact isPart_of_covers (by simp [covers_append, covers_cons, this])

/-! ### Forms start as identifiers do -/

lemma isStart_of_letter {d : Nat} (h : Covers (syllables :: letters) d) : IsStart d :=
  covers_of_within (by simp [syllables]) gapless_startRuns tables_consistent.syllables_within h

/-- The image of a start starts with a start. -/
lemma exists_image_eq_cons {s : Span}
    (hs : s ∈ singles.spans.toList ++ sequences.spans.toList ++ pairs.spans.toList)
    (hstep : s.step = 1) {c : Nat} (hc : s.has c = true) (hstart : IsStart c) :
    ∃ i is, s.image = i :: is ∧ IsStart (i + (c - s.first)) := by
  have h := tables_consistent.leads s hs
  rw [leadsToStart, Bool.or_eq_true, Bool.and_eq_true] at h
  rcases h with hapart | ⟨hne, hwithin⟩
  · exact absurd hstart (not_covers_of_apart (by simp [hstep]) gapless_startRuns hapart
      (covers_cons.mpr (.inl hc)))
  · cases himage : s.image with
    | nil => simp [himage] at hne
    | cons i is =>
        refine ⟨i, is, rfl, covers_of_within ?_ gapless_startRuns hwithin ?_⟩
        · simp [Span.imageRuns, himage]
        · obtain ⟨hfirst, hlast⟩ := (Span.has_iff hstep c).mp hc
          simp only [Span.imageRuns, himage, List.map_cons, List.take_succ_cons, List.take_zero,
            covers_cons, Span.has_iff]
          omega

lemma exists_decompose_eq_cons {c : Nat} (hc : IsStart c) (n : Nat) :
    ∃ d ds, decompose n c = d :: ds ∧ IsStart d := by
  induction n generalizing c with
  | zero => exact ⟨c, [], rfl, hc⟩
  | succ n ih =>
      rcases decompose_cases c with ⟨hsyl, hall⟩ | ⟨s, hs, hall⟩ | ⟨s, hs, hkey⟩ | ⟨-, hall⟩
      · have hlead : ∃ d ds, syllableParts c = d :: ds := by
          rw [syllableParts]
          split
          · exact ⟨_, _, rfl⟩
          · exact ⟨_, _, rfl⟩
        obtain ⟨d, ds, hparts⟩ := hlead
        have hd := covers_letters hsyl (hparts ▸ List.mem_cons_self)
        exact ⟨d, ds, by rw [hall, hparts], isStart_of_letter (covers_cons.mpr (.inr hd))⟩
      · obtain ⟨i, is, himage, hi⟩ :=
          exists_image_eq_cons (List.mem_append_left _ hs.1) hs.step hs.2 hc
        exact ⟨_, _, by rw [hall, himage, List.map_cons], hi⟩
      · obtain ⟨a, b, himage, hfirst, -⟩ := pair_entry hs
        obtain ⟨i, is, himage', hi⟩ := exists_image_eq_cons (List.mem_append_right _ hs)
          (pairs_sorted.gapless s hs) hkey hc
        obtain rfl := (hfirst c).mp hkey
        rw [Nat.sub_self, Nat.add_zero] at hi
        obtain ⟨d, ds, hd, hstart⟩ := ih hi
        refine ⟨d, ds ++ is.flatMap (decompose n), ?_, hstart⟩
        rw [decompose_pair hs, himage', List.flatMap_cons, hd, List.cons_append]
      · exact ⟨c, [], hall _, hc⟩

lemma isStart_composePair? {a b j : Nat} (h : composePair? a b = some j) (ha : IsStart a) :
    IsStart j := by
  have hsyllable : isSyllable j = true → IsStart j := fun hj =>
    isStart_of_letter (covers_cons.mpr (.inl ((isSyllable_iff j).mp hj)))
  rcases composePair?_cases h with
    ⟨hl, hl', hb, hb', hj⟩ | ⟨hl, htail, hb, hb', hj⟩ | ⟨s, hs, himage, rfl⟩
  · apply hsyllable
    simp only [isSyllable, Bool.and_eq_true, decide_eq_true_eq]
    omega
  · apply hsyllable
    simp only [isSyllable, Bool.and_eq_true, decide_eq_true_eq] at hl ⊢
    omega
  · obtain ⟨a', b', himage', -, -, -, hstart⟩ := pair_entry hs
    rw [himage, List.cons.injEq] at himage'
    exact hstart (himage'.1 ▸ ha)

lemma combiningClass_of_not_covers {c : Nat} (h : ¬ Covers classes.spans.toList c) :
    combiningClass c = 0 := by
  rw [combiningClass, SpanTable.shared?, SpanTable.find?_eq_none h]
  rfl

/-- No mark starts an identifier. -/
lemma combiningClass_of_isStart {c : Nat} (h : IsStart c) : combiningClass c = 0 :=
  combiningClass_of_not_covers fun hc =>
    not_covers_of_apart classes_sorted.gapless gapless_startRuns tables_consistent.classes_apart
      hc h

/-! ### ASCII characters -/

lemma basic_of_ascii {c : Nat} (h : c < 0x80) : Basic c := by
  refine basic_iff.mpr ⟨?_, singles_sorted.not_covers h, sequences_sorted.not_covers h,
    pairs_sorted.not_covers h⟩
  simp only [isSyllable, Bool.and_eq_false_iff, decide_eq_false_iff_not]
  omega

/-- Nothing composes with an ASCII character behind it. -/
lemma composePair?_ascii {b : Nat} (h : b < 0x80) (a : Nat) : composePair? a b = none := by
  cases hpair : composePair? a b with
  | none => rfl
  | some j =>
      rcases composePair?_cases hpair with
        ⟨-, -, hb, -⟩ | ⟨-, -, hb, -⟩ | ⟨s, hs, himage, -⟩
      · omega
      · omega
      · obtain ⟨a', b', himage', -, -, hb, -⟩ := pair_entry hs
        rw [himage] at himage'
        cases himage'
        omega

/-- Nothing composes with the low line before it. -/
lemma composePair?_line (b : Nat) : composePair? 0x5F b = none := by
  cases hpair : composePair? 0x5F b with
  | none => rfl
  | some j =>
      rcases composePair?_cases hpair with ⟨ha, -⟩ | ⟨ha, -⟩ | ⟨s, hs, himage, -⟩
      · omega
      · simp [isSyllable] at ha
      · obtain ⟨a', b', himage', -, hline, -⟩ := pair_entry hs
        rw [himage] at himage'
        cases himage'
        exact absurd rfl hline

/-! ### The form -/

/-- **The form is stable**: what is in composed form is its own form. -/
theorem form_form (cs : List Nat) : form (form cs) = form cs := by
  have hbasic : ∀ c ∈ sortMarks combiningClass (cs.flatMap (decompose 4)),
      decompose 4 c = [c] := by
    intro c hc
    rw [mem_sortMarks, List.mem_flatMap] at hc
    obtain ⟨d, -, hc⟩ := hc
    exact decompose_of_basic ((settles_four d).2 c hc) 4
  have hback := sortMarks_flatMap_compose (fun a b j => decompose_composePair?) hbasic
    (isChain_sortMarks _)
  rw [form, form, hback]

/-- ASCII texts are their own form. -/
lemma form_of_ascii {cs : List Nat} (h : ∀ c ∈ cs, c < 0x80) : form cs = cs := by
  have hdecompose : cs.flatMap (decompose 4) = cs := by
    rw [List.flatMap_congr fun c hc => decompose_of_basic (basic_of_ascii (h c hc)) 4,
      List.flatMap_singleton']
  have hclass : ∀ c ∈ cs, combiningClass c = 0 := fun c hc =>
    combiningClass_of_not_covers (classes_sorted.not_covers (h c hc))
  rw [form, hdecompose, sortMarks_of_starters hclass,
    compose_of_unpaired fun c hc => composePair?_ascii (h c hc)]

/-- The low line keeps the forms before and behind it apart. -/
lemma form_append (u v : List Nat) : form (u ++ 0x5F :: v) = form u ++ 0x5F :: form v := by
  have hline : decompose 4 0x5F = [0x5F] := decompose_of_basic (basic_of_ascii (by omega)) 4
  have hclass : combiningClass 0x5F = 0 :=
    combiningClass_of_not_covers (classes_sorted.not_covers (by omega))
  rw [form, List.flatMap_append, List.flatMap_cons, hline, List.singleton_append,
    sortMarks_append hclass,
    compose_append hclass (composePair?_ascii (by omega)) composePair?_line]
  rfl

lemma isPart_form {cs : List Nat} (h : ∀ c ∈ cs, IsPart c) : ∀ d ∈ form cs, IsPart d := by
  refine forall_mem_compose (fun a b j => isPart_composePair?) fun d hd => ?_
  rw [mem_sortMarks, List.mem_flatMap] at hd
  obtain ⟨c, hc, hd⟩ := hd
  exact isPart_decompose (h c hc) hd

lemma exists_form_eq_cons {c : Nat} (hc : IsStart c) (cs : List Nat) :
    ∃ d ds, form (c :: cs) = d :: ds ∧ IsStart d := by
  obtain ⟨e, es, he, hstart⟩ := exists_decompose_eq_cons hc 4
  have hsort := sortMarks_append (combiningClass_of_isStart hstart) []
    (es ++ cs.flatMap (decompose 4))
  rw [form, List.flatMap_cons, he, List.cons_append]
  rw [List.nil_append] at hsort
  rw [hsort]
  exact exists_compose_eq_cons (fun a b j => isStart_composePair?) hstart _

end Compatibility

/-! ### Identifiers -/

open Compatibility

lemma isAlpha_iff (c : Char) : c.isAlpha = true ↔
    (0x41 ≤ c.toNat ∧ c.toNat ≤ 0x5A) ∨ (0x61 ≤ c.toNat ∧ c.toNat ≤ 0x7A) := by
  have hupper : c.isUpper = true ↔ 'A'.val ≤ c.val ∧ c.val ≤ 'Z'.val := decide_eq_true_iff
  have hlower : c.isLower = true ↔ 'a'.val ≤ c.val ∧ c.val ≤ 'z'.val := by
    change (decide _ && decide _) = true ↔ _
    rw [Bool.and_eq_true, decide_eq_true_iff, decide_eq_true_iff]
  change (c.isUpper || c.isLower) = true ↔ _
  rw [Bool.or_eq_true, hupper, hlower]
  simp only [UInt32.le_iff_toNat_le]
  rfl

lemma isDigit_iff (c : Char) : c.isDigit = true ↔ 0x30 ≤ c.toNat ∧ c.toNat ≤ 0x39 := by
  simp [Char.isDigit, UInt32.le_iff_toNat_le]

lemma eq_line_iff (c : Char) : c = '_' ↔ c.toNat = 0x5F :=
  Char.toNat_inj.symm

lemma covers_asciiStarts {c : Nat} : Covers asciiStarts c ↔
    ((0x41 ≤ c ∧ c ≤ 0x5A) ∨ (0x61 ≤ c ∧ c ≤ 0x7A)) ∨ c = 0x5F := by
  simp only [asciiStarts, covers_cons, not_covers_nil, Span.has_iff, or_false]
  omega

lemma has_asciiDigits {c : Nat} : asciiDigits.has c = true ↔ 0x30 ≤ c ∧ c ≤ 0x39 :=
  Span.has_iff rfl c

lemma isIdentifierStart_iff (c : Char) : isIdentifierStart c = true ↔ IsStart c.toNat := by
  rw [isIdentifierStart, IsStart, startRuns, covers_append]
  split
  · next h =>
    have hnot := starts_sorted.not_covers h
    simp only [hnot, or_false, covers_asciiStarts, Bool.or_eq_true, isAlpha_iff, beq_iff_eq,
      eq_line_iff]
  · next h =>
    rw [SpanTable.contains_iff starts_sorted, covers_asciiStarts]
    exact ⟨.inr, fun hc => hc.resolve_left (by omega)⟩

lemma isIdentifierPart_iff (c : Char) : isIdentifierPart c = true ↔ IsPart c.toNat := by
  rw [isIdentifierPart, IsPart, partRuns, startRuns, covers_append, covers_cons, covers_append]
  split
  · next h =>
    have hstarts := starts_sorted.not_covers h
    have hfollowers := followers_sorted.not_covers h
    simp only [hstarts, hfollowers, or_false, covers_asciiStarts, has_asciiDigits,
      Bool.or_eq_true, Char.isAlphanum, isAlpha_iff, isDigit_iff, beq_iff_eq, eq_line_iff]
    omega
  · next h =>
    rw [Bool.or_eq_true, SpanTable.contains_iff starts_sorted,
      SpanTable.contains_iff followers_sorted]
    have hascii : ¬ (asciiDigits.has c.toNat = true ∨ Covers asciiStarts c.toNat) := by
      rw [covers_asciiStarts, has_asciiDigits]
      omega
    tauto

/-- What may start an identifier may stand in one. -/
lemma IsStart.isPart {c : Nat} (h : IsStart c) : IsPart c := by
  rw [IsPart, partRuns, covers_append, covers_cons]
  exact .inl (.inr h)

/-- What may stand in an identifier is an ASCII character or a member of the tables. -/
lemma IsPart.cases {c : Nat} (h : IsPart c) : (0x30 ≤ c ∧ c < 0x80) ∨
    Covers (identifierStarts.spans.toList ++ identifierFollowers.spans.toList) c := by
  rw [IsPart, partRuns, startRuns, covers_append, covers_cons, covers_append] at h
  rw [covers_asciiStarts, has_asciiDigits] at h
  rw [covers_append]
  rcases h with (h | h | h) | h
  · exact .inl (by omega)
  · exact .inl (by omega)
  · exact .inr (.inl h)
  · exact .inr (.inr h)

lemma lt_of_testBit {x n k : Nat} (h : x.testBit n = true) (hx : x < 2 ^ k) : n < k := by
  have hle : 2 ^ n ≤ x := Nat.ge_two_pow_of_testBit h
  exact (Nat.pow_lt_pow_iff_right (by omega)).mp (Nat.lt_of_le_of_lt hle hx)

/-- No character of an identifier is a control or a line break, and each is a
character. -/
lemma IsPart.fit {c : Nat} (h : IsPart c) : 0x30 ≤ c ∧ ¬ (0x80 ≤ c ∧ c ≤ 0x9F) ∧
    ¬ (0x2028 ≤ c ∧ c ≤ 0x2029) ∧ c.isValidChar := by
  rcases h.cases with h | h
  · exact ⟨h.1, by omega, by omega, .inl (by omega)⟩
  · have hgapless :
        Gapless (identifierStarts.spans.toList ++ identifierFollowers.spans.toList) := by
      simp [starts_sorted.gapless, followers_sorted.gapless]
    have hbelow := lt_of_testBit ((testBit_bitsOf hgapless c).mpr h) tables_consistent.below
    have hunfit : ¬ Covers unfitRuns c := fun hc =>
      not_covers_of_apart (by simp [unfitRuns]) hgapless tables_consistent.fit hc h
    have hlow : 0x80 ≤ c := by
      by_contra hlow
      rw [covers_append] at h
      exact h.elim (starts_sorted.not_covers (by omega)) (followers_sorted.not_covers (by omega))
    simp only [unfitRuns, covers_cons, not_covers_nil, Span.has_iff, or_false] at hunfit
    exact ⟨by omega, by omega, by omega, by rw [Nat.isValidChar]; omega⟩

lemma toNat_ofNat {c : Nat} (h : c.isValidChar) : (Char.ofNat c).toNat = c := by
  rw [Char.ofNat, dif_pos h]
  rfl

lemma IsPart.toNat_ofNat {c : Nat} (h : IsPart c) : (Char.ofNat c).toNat = c :=
  Text.toNat_ofNat h.fit.2.2.2

/-- The form of a text, whatever its characters are. -/
lemma normalize_eq (text : List Char) :
    normalize text = (form (text.map Char.toNat)).map Char.ofNat := by
  rw [Compatibility.normalize]
  split
  · next h =>
    rw [form_of_ascii, List.map_map]
    · have hid : Char.ofNat ∘ Char.toNat = id := funext Char.ofNat_toNat
      rw [hid, List.map_id]
    · intro c hc
      obtain ⟨d, hd, rfl⟩ := List.mem_map.mp hc
      simpa using List.all_eq_true.mp h d hd
  · rfl

lemma isPart_form_map {text : List Char} (h : ∀ c ∈ text, isIdentifierPart c = true) :
    ∀ d ∈ form (text.map Char.toNat), IsPart d := by
  refine isPart_form fun c hc => ?_
  obtain ⟨d, hd, rfl⟩ := List.mem_map.mp hc
  exact (isIdentifierPart_iff d).mp (h d hd)

/-- The form of characters of identifiers is made of such characters. -/
lemma isIdentifierPart_normalize {text : List Char}
    (h : ∀ c ∈ text, isIdentifierPart c = true) : ∀ c ∈ normalize text,
      isIdentifierPart c = true := by
  intro c hc
  rw [normalize_eq, List.mem_map] at hc
  obtain ⟨d, hd, rfl⟩ := hc
  have hpart := isPart_form_map h d hd
  rw [isIdentifierPart_iff, hpart.toNat_ofNat]
  exact hpart

/-- **The form of an identifier is an identifier.** -/
theorem isIdentifier_normalize {text : List Char} (h : isIdentifier text = true) :
    isIdentifier (normalize text) = true := by
  cases text with
  | nil => cases h
  | cons c cs =>
      rw [isIdentifier, Bool.and_eq_true, List.all_eq_true] at h
      have hstart := (isIdentifierStart_iff c).mp h.1
      have hparts : ∀ d ∈ c :: cs, isIdentifierPart d = true := by
        intro d hd
        rcases List.mem_cons.mp hd with rfl | hd
        · exact (isIdentifierPart_iff d).mpr hstart.isPart
        · exact h.2 d hd
      have hform := isIdentifierPart_normalize hparts
      obtain ⟨d, ds, hd, hdstart⟩ := exists_form_eq_cons hstart (cs.map Char.toNat)
      have heq : normalize (c :: cs) = Char.ofNat d :: ds.map Char.ofNat := by
        rw [normalize_eq, List.map_cons, hd, List.map_cons]
      rw [heq] at hform ⊢
      rw [isIdentifier, Bool.and_eq_true, List.all_eq_true, isIdentifierStart_iff,
        hdstart.isPart.toNat_ofNat]
      exact ⟨hdstart, fun e he => hform e (List.mem_cons_of_mem _ he)⟩

/-! ### Words that are their own form -/

/-- A word of identifier characters that is its own form. -/
structure IsForm (word : List Char) : Prop where
  parts : ∀ c ∈ word, isIdentifierPart c = true
  stable : normalize word = word

/-- The form of a word is its own form. -/
lemma isForm_normalize {word : List Char} (h : ∀ c ∈ word, isIdentifierPart c = true) :
    IsForm (normalize word) := by
  refine ⟨isIdentifierPart_normalize h, ?_⟩
  have hback : (normalize word).map Char.toNat = form (word.map Char.toNat) := by
    rw [normalize_eq, List.map_map]
    conv_rhs => rw [← List.map_id (form (word.map Char.toNat))]
    exact List.map_congr_left fun d hd => (isPart_form_map h d hd).toNat_ofNat
  rw [normalize_eq (normalize word), hback, form_form, ← normalize_eq]

lemma isForm_of_ascii {word : List Char}
    (h : ∀ c ∈ word, c.toNat < 128 ∧ isIdentifierPart c = true) : IsForm word := by
  refine ⟨fun c hc => (h c hc).2, ?_⟩
  rw [Compatibility.normalize, if_pos]
  simpa using fun c hc => (h c hc).1

/-- Words that are their own form stay so when a low line joins them. -/
lemma IsForm.join {u v : List Char} (hu : IsForm u) (hv : IsForm v) : IsForm (u ++ '_' :: v) := by
  constructor
  · intro c hc
    rw [List.mem_append, List.mem_cons] at hc
    rcases hc with hc | rfl | hc
    · exact hu.parts c hc
    · decide
    · exact hv.parts c hc
  · have hmap : (u ++ '_' :: v).map Char.toNat = u.map Char.toNat ++ 0x5F :: v.map Char.toNat := by
      simp
    rw [normalize_eq, hmap, form_append, List.map_append, List.map_cons, ← normalize_eq,
      ← normalize_eq, hu.stable, hv.stable]

end Branchwise.Text
