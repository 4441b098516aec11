/-
The texts of expressions hold no control characters: no NUL, and of the
characters that end a line none but the line feed, which only a text quoted
within a formatted text can bring in.

* `IsShown`, `Shown`: the characters, and the texts made of them; `Unbroken` texts hold
  no line feeds either.
* `unbroken_of_printable`, `unbroken_quoted`: what shows as itself, and quoted forms.
* `Made`, `Admits`: texts made of characters with a property, and a property that all
  characters have but those that end a line; `OneLine` texts are made of such characters.
* `Quoting.made_fitAll`, `Constant.made_print`: the parts of formatted texts, and
  constants.
-/
import Branchwise.Proofs.NormalForm
import Branchwise.Source.Functions
import Branchwise.Text.Lines

namespace Branchwise

open Text

/-! ### Characters -/

/-- The character is not NUL, and ends no line unless it is the line feed. -/
def IsShown (c : Char) : Prop :=
  c ≠ '\x00' ∧ (isLineBreak c = true → c = '\n')

/-- The text is made of such characters. -/
def Shown (text : List Char) : Prop :=
  ∀ c ∈ text, IsShown c

lemma shown_cons {c : Char} {cs : List Char} : Shown (c :: cs) ↔ IsShown c ∧ Shown cs := by
  simp [Shown]

instance (c : Char) : Decidable (IsShown c) :=
  inferInstanceAs (Decidable (c ≠ '\x00' ∧ (isLineBreak c = true → c = '\n')))

/-- The text holds no NUL and nothing that ends a line. -/
def Unbroken (text : List Char) : Prop :=
  ∀ c ∈ text, c ≠ '\x00' ∧ isLineBreak c = false

lemma unbroken_nil : Unbroken [] := by
  simp [Unbroken]

lemma unbroken_cons {c : Char} {cs : List Char} :
    Unbroken (c :: cs) ↔ (c ≠ '\x00' ∧ isLineBreak c = false) ∧ Unbroken cs :=
  List.forall_mem_cons

lemma unbroken_append {a b : List Char} : Unbroken (a ++ b) ↔ Unbroken a ∧ Unbroken b :=
  List.forall_mem_append

/-- A shown text without line feeds is unbroken. -/
lemma Shown.unbroken {text : List Char} (h : Shown text) (hn : '\n' ∉ text) : Unbroken text := by
  intro c hc
  refine ⟨(h c hc).1, ?_⟩
  by_contra hbreak
  have heq : c = '\n' := (h c hc).2 (by simpa using hbreak)
  exact hn (heq ▸ hc)

-- not by way of all characters, as the search for instances would have it
instance (text : List Char) : Decidable (Unbroken text) :=
  List.decidableBAll (fun c => c ≠ '\x00' ∧ isLineBreak c = false) text

lemma unbroken_of_toNat {c : Char} (h : 32 ≤ c.toNat) (h' : ¬ (0x80 ≤ c.toNat ∧ c.toNat ≤ 0x9F))
    (h'' : ¬ (0x2028 ≤ c.toNat ∧ c.toNat ≤ 0x2029)) : c ≠ '\x00' ∧ isLineBreak c = false := by
  constructor
  · rintro rfl
    simp at h
  · by_contra hbreak
    simp only [isLineBreak, Bool.not_eq_false, Bool.or_eq_true, Bool.and_eq_true, decide_eq_true_eq,
      beq_iff_eq] at hbreak
    omega

/-- Printable ASCII characters end no line. -/
lemma unbroken_of_ascii {c : Char} (h : 32 ≤ c.toNat) (h' : c.toNat < 0x80) :
    c ≠ '\x00' ∧ isLineBreak c = false :=
  unbroken_of_toNat h (by omega) (by omega)

/-- The characters of identifiers end no line. -/
lemma unbroken_of_parts {text : List Char} (h : ∀ c ∈ text, isIdentifierPart c = true) :
    Unbroken text := by
  intro c hc
  obtain ⟨hlow, hcontrol, hbreak, -⟩ := ((isIdentifierPart_iff c).mp (h c hc)).fit
  exact unbroken_of_toNat (by omega) hcontrol hbreak

/-- What holds of a separator and of the parts holds of the parts put together. -/
lemma forall_mem_intercalate {P : Char → Prop} {sep : List Char} (hsep : ∀ c ∈ sep, P c)
    {parts : List (List Char)} (h : ∀ p ∈ parts, ∀ c ∈ p, P c) :
    ∀ c ∈ sep.intercalate parts, P c := by
  induction parts with
  | nil => simp
  | cons p ps ih =>
      obtain ⟨hp, hps⟩ := List.forall_mem_cons.mp h
      cases ps with
      | nil => simpa using hp
      | cons q ps =>
          rw [List.intercalate_cons_cons, List.forall_mem_append, List.forall_mem_append]
          exact ⟨⟨hp, hsep⟩, ih hps⟩

lemma unbroken_flatMap {α : Type} {f : α → List Char} {l : List α} (h : ∀ a ∈ l, Unbroken (f a)) :
    Unbroken (l.flatMap f) := by
  intro c hc
  obtain ⟨a, ha, hc⟩ := List.mem_flatMap.mp hc
  exact h a ha c hc

lemma Unbroken.sublist {a b : List Char} (h : Unbroken b) (hab : a.Sublist b) : Unbroken a :=
  fun c hc => h c (hab.subset hc)

/-! ### Printable code points -/

/-- The table of printable code points is sorted and holds characters only, none of
them a control or a line break. -/
structure PrintsText (spans : List Span) : Prop where
  ascends : ascends 0x80 spans = true
  size : spans.length ≤ 2 ^ 32
  fit : apart unfitRuns spans = true
  below : bitsOf spans < 2 ^ 0x110000

instance (spans : List Span) : Decidable (PrintsText spans) :=
  decidable_of_iff (_ ∧ _ ∧ _ ∧ _)
    ⟨fun ⟨a, b, c, d⟩ => ⟨a, b, c, d⟩, fun h => ⟨h.ascends, h.size, h.fit, h.below⟩⟩

lemma printsText_ofRows {rows : List String} {spelling : List (List Char)}
    (h : Spelled rows spelling) (hp : PrintsText (spansOf spelling)) :
    PrintsText (SpanTable.ofRows rows).spans.toList := by
  rwa [h.spans_ofRows]

set_option maxRecDepth 100000 in
lemma printableSpans_printsText : PrintsText printableSpans.spans.toList := by
  unfold printableSpans
  refine printsText_ofRows (by repeat constructor) ?_
  decide +kernel

/-- What shows as itself ends no line. -/
lemma unbroken_of_printable {c : Nat} (h : isPrintable c = true) : Unbroken [Char.ofNat c] := by
  rw [unbroken_cons, and_iff_left unbroken_nil]
  rw [isPrintable] at h
  split at h
  · next hascii =>
    simp only [Bool.and_eq_true, decide_eq_true_eq] at h
    have hvalid : c.isValidChar := .inl (by omega)
    have := toNat_ofNat hvalid
    exact unbroken_of_ascii (by omega) (by omega)
  · next hhigh =>
    have hp := printableSpans_printsText
    have hsorted : printableSpans.Sorted := ⟨hp.ascends, hp.size⟩
    rw [SpanTable.contains_iff hsorted] at h
    have hunfit : ¬ Covers unfitRuns c := fun hc =>
      not_covers_of_apart (by simp [unfitRuns]) hsorted.gapless hp.fit hc h
    have hbelow := lt_of_testBit ((testBit_bitsOf hsorted.gapless c).mpr h) hp.below
    simp only [unfitRuns, covers_cons, not_covers_nil, Span.has_iff, or_false] at hunfit
    have hvalid : c.isValidChar := by rw [Nat.isValidChar]; omega
    have := toNat_ofNat hvalid
    exact unbroken_of_toNat (by omega) (by omega) (by omega)

/-! ### Quoted forms -/

lemma unbroken_hexDigits (width n : Nat) : Unbroken (hexDigits width n) := by
  have hall : ∀ m < 16, Unbroken [hexDigit m] := by decide
  induction width generalizing n with
  | zero => exact unbroken_nil
  | succ width ih =>
      rw [hexDigits, unbroken_append]
      exact ⟨ih _, hall _ (Nat.mod_lt _ (by omega))⟩

lemma unbroken_escapeCode (c : Nat) : Unbroken (escapeCode c) := by
  rw [escapeCode]
  split_ifs
  · decide
  · decide
  · decide
  · decide
  all_goals
    rw [unbroken_cons, unbroken_cons]
    exact ⟨by decide, by decide, unbroken_hexDigits _ _⟩

lemma unbroken_quoteMark (codes : List Nat) : Unbroken [quoteMark codes] := by
  rw [quoteMark]
  split_ifs
  · decide
  · decide

/-- A quoted code point is unbroken, if those that stand by themselves are. -/
lemma unbroken_quoteCode {shows : Nat → Bool} (h : ∀ c, shows c = true → Unbroken [Char.ofNat c])
    {mark : Char} (hmark : Unbroken [mark]) (c : Nat) : Unbroken (quoteCode shows mark c) := by
  rw [quoteCode]
  split_ifs with heq hescape
  · rw [unbroken_cons]
    exact ⟨by decide, hmark⟩
  · exact unbroken_escapeCode c
  · simp only [Bool.or_eq_true, Bool.not_eq_true', not_or, Bool.not_eq_false] at hescape
    exact h c hescape.2

lemma unbroken_quotedBody (codes : List Nat) : Unbroken (quotedBody codes) :=
  unbroken_flatMap fun c _ =>
    unbroken_quoteCode (fun _ => unbroken_of_printable) (unbroken_quoteMark codes) c

lemma unbroken_quoted (codes : List Nat) : Unbroken (quoted codes) := by
  have hmark := unbroken_quoteMark codes
  rw [quoted, unbroken_append, unbroken_cons]
  exact ⟨⟨hmark _ (List.mem_singleton_self _), unbroken_quotedBody codes⟩, hmark⟩

lemma unbroken_quotedBytes (bytes : List Nat) : Unbroken (quotedBytes bytes) := by
  have hascii : ∀ c, (decide (32 ≤ c) && decide (c < 127)) = true → Unbroken [Char.ofNat c] := by
    intro c hc
    simp only [Bool.and_eq_true, decide_eq_true_eq] at hc
    have hvalid : c.isValidChar := .inl (by omega)
    have := toNat_ofNat hvalid
    rw [unbroken_cons]
    exact ⟨unbroken_of_ascii (by omega) (by omega), unbroken_nil⟩
  have hmark := unbroken_quoteMark bytes
  rw [quotedBytes, unbroken_append, unbroken_cons, unbroken_cons]
  exact ⟨⟨by decide, hmark _ (List.mem_singleton_self _),
    unbroken_flatMap fun c _ => unbroken_quoteCode hascii hmark c⟩, hmark⟩

/-! ### Texts of a kind -/

/-- The text is made of characters with the property. -/
def Made (P : Char → Prop) (text : List Char) : Prop :=
  ∀ c ∈ text, P c

/-- All characters have the property but NUL and those that end a line. -/
def Admits (P : Char → Prop) : Prop :=
  ∀ c, c ≠ '\x00' → isLineBreak c = false → P c

section Made

variable {P : Char → Prop}

@[simp]
lemma made_nil : Made P [] := by
  simp [Made]

@[simp]
lemma made_cons {c : Char} {cs : List Char} : Made P (c :: cs) ↔ P c ∧ Made P cs := by
  simp [Made]

@[simp]
lemma made_append {a b : List Char} : Made P (a ++ b) ↔ Made P a ∧ Made P b := by
  simp [Made, or_imp, forall_and]

lemma made_intercalate {sep : List Char} (hsep : Made P sep) {texts : List (List Char)}
    (h : ∀ t ∈ texts, Made P t) : Made P (sep.intercalate texts) :=
  forall_mem_intercalate hsep h

lemma made_flatMap {α : Type} {f : α → List Char} {l : List α} (h : ∀ a ∈ l, Made P (f a)) :
    Made P (l.flatMap f) := by
  intro c hc
  obtain ⟨a, ha, hc⟩ := List.mem_flatMap.mp hc
  exact h a ha c hc

lemma Made.sublist {a b : List Char} (h : Made P b) (hab : a.Sublist b) : Made P a :=
  fun c hc => h c (hab.subset hc)

lemma Admits.text (hP : Admits P) {text : List Char} (h : Unbroken text) : Made P text :=
  fun c hc => hP c (h c hc).1 (h c hc).2

lemma Admits.char (hP : Admits P) {c : Char} (h : Unbroken [c]) : P c :=
  hP.text h c (List.mem_singleton_self c)

end Made

lemma admits_isShown : Admits IsShown := by
  intro c hnul hbreak
  exact ⟨hnul, fun h => absurd h (by simp [hbreak])⟩

lemma admits_ne_feed : Admits (· ≠ '\n') := by
  rintro c - hbreak rfl
  cases hbreak

/-- The text holds nothing that ends a line. -/
def OneLine (text : List Char) : Prop :=
  Made (isLineBreak · = false) text

instance (text : List Char) : Decidable (OneLine text) :=
  List.decidableBAll (isLineBreak · = false) text

lemma admits_oneLine : Admits (isLineBreak · = false) :=
  fun _ _ hbreak => hbreak

lemma Unbroken.oneLine {text : List Char} (h : Unbroken text) : OneLine text :=
  admits_oneLine.text h

namespace Source.Quoting

variable {P : Char → Prop} (hP : Admits P)

include hP

/-- A code point stands by itself if it is a line feed, unless `strict`. -/
lemma made_showCode {strict : Bool} {c : Nat} (h : strict = false → c = 10 → P '\n') :
    Made P (showCode strict c) := by
  rw [showCode]
  split_ifs with hraw hescape
  · simp only [Bool.and_eq_true, Bool.not_eq_true', Bool.or_eq_true, decide_eq_true_eq] at hraw
    obtain ⟨hstrict, rfl | rfl⟩ := hraw
    · rw [made_cons]
      exact ⟨h hstrict rfl, made_nil⟩
    · exact hP.text (by decide)
  · exact hP.text (unbroken_escapeCode c)
  · simp only [Bool.or_eq_true, Bool.not_eq_true', not_or, Bool.not_eq_false] at hescape
    exact hP.text (unbroken_of_printable hescape.2)

/-- Fitting a text writes its codes, between marks of the kind. -/
lemma made_fit {strict : Bool} {marks : List (List Char)} (hmarks : ∀ m ∈ marks, Made P m)
    {text : List Nat} (h : strict = false → 10 ∈ text → P '\n') :
    Made P (fit strict marks text).1 ∧ ∀ m ∈ (fit strict marks text).2, Made P m := by
  have hshown : Made P (text.flatMap (showCode strict)) :=
    made_flatMap fun c hc => made_showCode hP fun hstrict hfeed => h hstrict (hfeed ▸ hc)
  rw [fit]
  generalize text.flatMap (showCode strict) = shown at hshown ⊢
  have husable : ∀ m ∈ (if shown.contains '\n' then marks.filter (·.length == 3) else marks).filter
      (!occurs · shown), Made P m := by
    intro m hm
    have hm := (List.mem_filter.mp hm).1
    split at hm
    · exact hmarks m (List.mem_filter.mp hm).1
    · exact hmarks m hm
  dsimp only
  split
  · -- no mark is left, so the quoted form is used
    refine ⟨hP.text (unbroken_quotedBody text), fun m hm => ?_⟩
    rw [List.mem_singleton] at hm
    subst hm
    cases hfound : marks.find? (·.contains (quoteMark text)) with
    | none => exact hP.text (unbroken_quoteMark text)
    | some m => exact hmarks m (List.mem_of_find?_eq_some hfound)
  · next usable _ =>
    split
    · exact ⟨hshown, husable⟩
    · next last hlast =>
      have hmem : last ∈ shown := List.mem_of_getLast? hlast
      split
      · refine ⟨?_, fun m hm => husable m (List.mem_filter.mp hm).1⟩
        rw [made_append, made_cons, made_cons]
        exact ⟨hshown.sublist (List.dropLast_sublist _), hP.char (by decide), hshown last hmem,
          made_nil⟩
      · refine ⟨hshown, fun m hm => ?_⟩
        rcases List.mem_append.mp hm with hm | hm
        · exact husable m (List.mem_filter.mp hm).1
        · exact husable m (List.mem_filter.mp hm).1

lemma made_marks : ∀ m ∈ marks, Made P m := by
  have hmarks : ∀ m ∈ marks, Unbroken m := by decide
  exact fun m hm => hP.text (hmarks m hm)

lemma made_enclose {marks : List (List Char)} (h : ∀ m ∈ marks, Made P m) {text : List Char}
    (ht : Made P text) : Made P (enclose marks text) := by
  have hmark : Made P (marks.head?.getD ['\'']) := by
    cases marks with
    | nil => exact hP.text (by decide)
    | cons m ms => exact h m List.mem_cons_self
  simp [enclose, hmark, ht]

lemma made_sparing {text : List Nat} (h : 10 ∈ text → P '\n') : Made P (sparing text) := by
  obtain ⟨htext, hmarks⟩ :
      Made P (fit false marks text).1 ∧ ∀ m ∈ (fit false marks text).2, Made P m :=
    made_fit hP (made_marks hP) fun _ => h
  exact made_enclose hP hmarks htext

/-- Fitting the parts of a formatted text writes their codes. Those of constants show no
line feed. -/
lemma made_fitAll {marks : List (List Char)} (hmarks : ∀ m ∈ marks, Made P m)
    {parts : List (List Nat × Bool)} (h : ∀ part ∈ parts, part.2 = false → 10 ∈ part.1 → P '\n') :
    Made P (fitAll marks parts).1 ∧ ∀ m ∈ (fitAll marks parts).2, Made P m := by
  induction parts generalizing marks with
  | nil => exact ⟨made_nil, hmarks⟩
  | cons part parts ih =>
      obtain ⟨text, isConstant⟩ := part
      obtain ⟨hpart, hparts⟩ := List.forall_mem_cons.mp h
      obtain ⟨htext, hmarks⟩ := made_fit hP hmarks hpart
      obtain ⟨hrest, hfinal⟩ := ih hmarks hparts
      exact ⟨made_append.mpr ⟨htext, hrest⟩, hfinal⟩

end Source.Quoting

/-! ### Numbers -/

lemma unbroken_toDigits (n : Nat) : Unbroken (Nat.toDigits 10 n) := by
  intro c hc
  have hdigit := (isDigit_iff c).mp (Nat.isDigit_of_mem_toDigits (by omega) (by omega) hc)
  exact unbroken_of_ascii (by omega) (by omega)

namespace Decimal

lemma unbroken_zeros (n : Nat) : Unbroken (zeros n) := by
  intro c hc
  rw [List.eq_of_mem_replicate hc]
  decide

lemma unbroken_exponentPart (e : Int) : Unbroken (exponentPart e) := by
  have hsign : Unbroken [if e < 0 then '-' else '+'] := by
    split
    · decide
    · decide
  rw [exponentPart, unbroken_append, unbroken_cons, unbroken_cons]
  exact ⟨⟨by decide, hsign _ (List.mem_singleton_self _), unbroken_zeros _⟩, unbroken_toDigits _⟩

lemma unbroken_layOut (l : Layout) (d : Decimal) : Unbroken (layOut l d) := by
  have hdigits := unbroken_toDigits d.digits
  have hdot : '.' ≠ '\x00' ∧ isLineBreak '.' = false := by decide
  have hzero : '0' ≠ '\x00' ∧ isLineBreak '0' = false := by decide
  have htake : ∀ n, Unbroken ((Nat.toDigits 10 d.digits).take n) :=
    fun n => hdigits.sublist (List.take_sublist n _)
  have hdrop : ∀ n, Unbroken ((Nat.toDigits 10 d.digits).drop n) :=
    fun n => hdigits.sublist (List.drop_sublist n _)
  rw [layOut]
  split_ifs <;>
    simp only [unbroken_append, unbroken_cons, unbroken_nil, hdigits, hdot, hzero, htake, hdrop,
      unbroken_zeros, unbroken_exponentPart, and_self, ne_eq, not_false_eq_true]

lemma unbroken_render {l : Layout} (h : Unbroken l.infinity.toList) (d : Decimal) :
    Unbroken (render l d) := by
  rw [render]
  split_ifs
  · exact unbroken_layOut l _
  · exact h
  · exact unbroken_layOut l _

end Decimal

namespace Source

/-! ### Constants -/

/-- Is the constant a text with a line feed? -/
def Constant.holdsFeed : Constant → Bool
  | text _ cs => cs.contains 10
  | _ => false

/-- A line feed in a text is shown only where backslashes are avoided. -/
lemma Constant.made_print {P : Char → Prop} (hP : Admits P) {plain : Bool} {c : Constant}
    (hc : plain = true → c.holdsFeed = true → P '\n') {text : List Char}
    (h : c.print plain = some text) : Made P text := by
  cases c with
  | noneLit | trueLit | falseLit | ellipsis =>
      cases h
      exact hP.text (by decide)
  | int n =>
      rw [Constant.print] at h
      split at h
      · cases h
        exact hP.text (unbroken_toDigits n)
      · cases h
  | float d =>
      cases h
      exact hP.text (Decimal.unbroken_render (by decide) d)
  | imaginary d =>
      cases h
      rw [made_append]
      exact ⟨hP.text (Decimal.unbroken_render (by decide) d), hP.text (by decide)⟩
  | text marked cs =>
      cases h
      rw [made_append]
      constructor
      · split
        · exact hP.text (by decide)
        · exact made_nil
      · split
        · next hplain =>
          exact Quoting.made_sparing hP fun hfeed => hc hplain (List.contains_iff_mem.mpr hfeed)
        · exact hP.text (unbroken_quoted cs)
  | bytes bs =>
      cases h
      exact hP.text (unbroken_quotedBytes bs)

end Source

end Branchwise
