/-
Escaped texts in markup.

A text that was escaped holds no tag of its own any more, so it can stand between
two tags without disturbing them.

* `Markup.Parts`: the parts of a markup, as a relation; `Markup.parts_segments` and
  `Markup.Parts.segments_eq` say that it is `Markup.segments`.
* `Markup.Parts.written`: tags that get more backslashes stay tags, and nothing else
  becomes one.
* `Markup.parts_escape`: the parts of an escaped text and of the tag behind it.
* `Markup.eventsOf_append`, `Markup.exists_eventsOf_raised`: the events of parts, and of tags that
  are made plain texts.
* `Markup.visible?_escape`: an escaped text between two tags is shown.
-/
import Mathlib.Data.List.Basic
import Mathlib.Data.List.Infix
import Mathlib.Data.List.Induction
import Mathlib.Data.List.TakeWhile
import Mathlib.Tactic.Common
import Branchwise.Markup

namespace Branchwise.Markup

/-! ### Tags -/

/-- What can stand inside a tag. -/
structure IsInside (inside : List Char) : Prop where
  starts : ∃ c cs, inside = c :: cs ∧ startsTag c = true
  opening : '[' ∉ inside
  closing : ']' ∉ inside

lemma closing?_append {inside : List Char} (hopening : '[' ∉ inside) (hclosing : ']' ∉ inside)
    (rest : List Char) : closing? (inside ++ ']' :: rest) = some (inside, rest) := by
  induction inside with
  | nil => rfl
  | cons c inside ih =>
      simp only [List.mem_cons, not_or] at hopening hclosing
      have := ih hopening.2 hclosing.2
      rw [List.cons_append, closing?.eq_def]
      split
      · contradiction
      · next h => exact absurd (List.cons.inj h).1.symm hclosing.1
      · next h => exact absurd (List.cons.inj h).1.symm hopening.1
      · next h =>
        obtain ⟨rfl, rfl⟩ := List.cons.inj h
        rw [this]

lemma closing?_cases {text inside rest : List Char} (h : closing? text = some (inside, rest)) :
    text = inside ++ ']' :: rest ∧ '[' ∉ inside ∧ ']' ∉ inside := by
  fun_induction closing? text generalizing inside with
  | case1 => cases h
  | case2 => cases h; simp
  | case3 => cases h
  | case4 c cs hc hc' inside' rest' hclosing ih =>
      cases h
      obtain ⟨rfl, hopening, hclosing⟩ := ih hclosing
      have hne : c ≠ ']' := fun hc'' => hc hc''
      have hne' : c ≠ '[' := fun hc'' => hc' hc''
      exact ⟨rfl, by simp [hopening, hne'.symm], by simp [hclosing, hne.symm]⟩
  | case5 => cases h

lemma startsTag_opening : startsTag '[' = false := by decide

lemma startsTag_closing : startsTag ']' = false := by decide

lemma startsTag_backslash : startsTag '\\' = false := by decide

/-- **A tag at the start of a text.** -/
lemma tag?_eq_some_iff {text inside rest : List Char} :
    tag? text = some (inside, rest) ↔ IsInside inside ∧ text = '[' :: (inside ++ ']' :: rest) := by
  constructor
  · intro h
    rw [tag?.eq_def] at h
    split at h
    · next c cs =>
      split at h
      · next hstarts =>
        split at h
        · next inside' rest' hclosing =>
          cases h
          obtain ⟨rfl, hopening, hclosing⟩ := closing?_cases hclosing
          have hne : c ≠ '[' := by rintro rfl; cases hstarts.symm.trans startsTag_opening
          have hne' : c ≠ ']' := by rintro rfl; cases hstarts.symm.trans startsTag_closing
          exact ⟨⟨⟨c, _, rfl, hstarts⟩, by simp [hopening, hne.symm],
            by simp [hclosing, hne'.symm]⟩, rfl⟩
        · cases h
      · cases h
    · cases h
  · rintro ⟨⟨⟨c, cs, rfl, hstarts⟩, hopening, hclosing⟩, rfl⟩
    simp only [List.mem_cons, not_or] at hopening hclosing
    rw [List.cons_append, tag?, if_pos hstarts, closing?_append hopening.2 hclosing.2]

/-- Only a bracket starts a tag. -/
lemma tag?_cons_of_ne {c : Char} (hc : c ≠ '[') (cs : List Char) : tag? (c :: cs) = none := by
  rw [tag?.eq_def]
  split
  · next h => exact absurd (List.cons.inj h).1 hc
  · rfl

lemma tag?_opening_of_not_startsTag {text : List Char}
    (h : ∀ c ∈ text.head?, startsTag c = false) : tag? ('[' :: text) = none := by
  cases text with
  | nil => rfl
  | cons c cs => rw [tag?, if_neg (by simp [h c rfl])]

/-! ### Parts -/

/-- The parts of a markup. -/
inductive Parts : List Char → List Segment → Prop where
  | nil : Parts [] []
  | char {c : Char} {cs : List Char} {parts : List Segment}
      (h : tag? ((c :: cs).dropWhile (· == '\\')) = none) :
      Parts cs parts → Parts (c :: cs) (.char c :: parts)
  | tag (backslashes : Nat) {inside rest : List Char} {parts : List Segment}
      (h : IsInside inside) :
      Parts rest parts →
        Parts (List.replicate backslashes '\\' ++ '[' :: (inside ++ ']' :: rest))
          (.tag backslashes inside :: parts)

lemma takeWhile_backslashes (n : Nat) {c : Char} (hc : c ≠ '\\') (cs : List Char) :
    (List.replicate n '\\' ++ c :: cs).takeWhile (· == '\\') = List.replicate n '\\' := by
  induction n with
  | zero => simp [hc]
  | succ n ih => simpa [List.replicate_succ] using ih

lemma dropWhile_backslashes (n : Nat) {c : Char} (hc : c ≠ '\\') (cs : List Char) :
    (List.replicate n '\\' ++ c :: cs).dropWhile (· == '\\') = c :: cs := by
  induction n with
  | zero => simp [hc]
  | succ n ih => simpa [List.replicate_succ] using ih

lemma replicate_append_dropWhile (text : List Char) :
    List.replicate (text.takeWhile (· == '\\')).length '\\' ++ text.dropWhile (· == '\\') =
      text := by
  have : text.takeWhile (· == '\\') = List.replicate (text.takeWhile (· == '\\')).length '\\' :=
    List.eq_replicate_iff.mpr ⟨rfl, fun c hc => by simpa using List.mem_takeWhile_imp hc⟩
  rw [← this]
  exact List.takeWhile_append_dropWhile

lemma parts_segmentsFrom {fuel : Nat} {text : List Char} (h : text.length ≤ fuel) :
    Parts text (segmentsFrom fuel text) := by
  fun_induction segmentsFrom fuel text with
  | case1 text =>
      obtain rfl : text = [] := List.eq_nil_of_length_eq_zero (by omega)
      exact .nil
  | case2 => exact .nil
  | case3 fuel c cs slashes inside rest htag ih =>
      obtain ⟨hinside, htext⟩ := tag?_eq_some_iff.mp htag
      have hwhole := replicate_append_dropWhile (c :: cs)
      rw [htext] at hwhole
      have hlength := congrArg List.length hwhole
      simp only [List.length_append, List.length_cons] at hlength h
      rw [← hwhole]
      exact .tag _ hinside (ih (by omega))
  | case4 fuel c cs htag ih => exact .char htag (ih (by simpa using h))

lemma parts_segments (text : List Char) : Parts text (segments text) :=
  parts_segmentsFrom le_rfl

lemma Parts.segmentsFrom_eq {text : List Char} {parts : List Segment} (h : Parts text parts)
    {fuel : Nat} (hfuel : text.length ≤ fuel) : segmentsFrom fuel text = parts := by
  induction h generalizing fuel with
  | nil => cases fuel <;> rfl
  | @char c cs parts htag _ ih =>
      obtain ⟨fuel, rfl⟩ : ∃ n, fuel = n + 1 := ⟨fuel - 1, by simp at hfuel; omega⟩
      rw [segmentsFrom, htag]
      exact congrArg _ (ih (by simpa using hfuel))
  | @tag n inside rest parts hinside _ ih =>
      simp only [List.length_append, List.length_replicate, List.length_cons] at hfuel
      obtain ⟨fuel, rfl⟩ : ∃ n, fuel = n + 1 := ⟨fuel - 1, by omega⟩
      have htag := dropWhile_backslashes n (c := '[') (by decide) (inside ++ ']' :: rest)
      have hslashes := takeWhile_backslashes n (c := '[') (by decide) (inside ++ ']' :: rest)
      cases htext : List.replicate n '\\' ++ '[' :: (inside ++ ']' :: rest) with
      | nil => simp at htext
      | cons c cs =>
          rw [htext] at htag hslashes
          rw [segmentsFrom, hslashes, htag, tag?_eq_some_iff.mpr ⟨hinside, rfl⟩]
          simp only [List.length_replicate]
          exact congrArg _ (ih (by omega))

lemma Parts.segments_eq {text : List Char} {parts : List Segment} (h : Parts text parts) :
    segments text = parts :=
  h.segmentsFrom_eq le_rfl

/-! ### Backslashes before tags -/

/-- A part with another number of backslashes before its tag. -/
def Segment.withBackslashes (n : Nat → Nat) : Segment → Segment
  | char c => .char c
  | tag backslashes inside => .tag (n backslashes) inside

/-- A part as it is written, with another number of backslashes before its tag. -/
def Segment.written (n : Nat → Nat) : Segment → List Char
  | char c => [c]
  | tag backslashes inside => List.replicate (n backslashes) '\\' ++ '[' :: (inside ++ [']'])

/-- A text that completes no tag before it. -/
structure IsApart (text : List Char) : Prop where
  closing : closing? text = none
  starts : ∀ c ∈ text.head?, startsTag c = false

lemma closing?_backslashes (n : Nat) {text : List Char} (h : closing? text = none) :
    closing? (List.replicate n '\\' ++ text) = none := by
  induction n with
  | zero => exact h
  | succ n ih => rw [List.replicate_succ, List.cons_append, closing?, ih] <;> decide

lemma isApart_backslashes (n : Nat) {text : List Char} (h : IsApart text) :
    IsApart (List.replicate n '\\' ++ text) := by
  refine ⟨closing?_backslashes n h.closing, fun c hc => ?_⟩
  cases n with
  | zero => exact h.starts c hc
  | succ n =>
      obtain rfl : '\\' = c := by simpa [List.replicate_succ] using hc
      exact startsTag_backslash

lemma isApart_nil : IsApart [] := ⟨rfl, by simp⟩

lemma isApart_opening (text : List Char) : IsApart ('[' :: text) := by
  refine ⟨rfl, fun c hc => ?_⟩
  obtain rfl : '[' = c := by simpa using hc
  exact startsTag_opening

section Written

variable {n : Nat → Nat} {text : List Char} {parts : List Segment} {suffix : List Char}

lemma flatMap_written_tag (backslashes : Nat) (inside : List Char) :
    (Segment.tag backslashes inside :: parts).flatMap (Segment.written n) ++ suffix =
      List.replicate (n backslashes) '\\' ++
        '[' :: (inside ++ ']' :: (parts.flatMap (Segment.written n) ++ suffix)) := by
  simp [Segment.written]

lemma flatMap_written_char (c : Char) :
    (Segment.char c :: parts).flatMap (Segment.written n) ++ suffix =
      c :: (parts.flatMap (Segment.written n) ++ suffix) := rfl

lemma Parts.closing?_written (h : Parts text parts) (hsuffix : IsApart suffix)
    (htext : closing? text = none) :
    closing? (parts.flatMap (Segment.written n) ++ suffix) = none := by
  induction h with
  | nil => exact hsuffix.closing
  | @char c cs parts _ _ ih =>
      rw [flatMap_written_char]
      rw [closing?.eq_def] at htext ⊢
      split at htext
      · contradiction
      · cases htext
      · next h =>
        obtain ⟨rfl, -⟩ := List.cons.inj h
        rfl
      · next c' cs' hclosing hopening h =>
        obtain ⟨rfl, rfl⟩ := List.cons.inj h
        cases hcs : closing? cs with
        | some => simp [hcs] at htext
        | none => simp [ih hcs]
  | tag backslashes _ _ _ =>
      rw [flatMap_written_tag]
      exact closing?_backslashes _ rfl

lemma Parts.startsTag_written (h : Parts text parts) (hsuffix : IsApart suffix)
    (htext : ∀ c ∈ text.head?, startsTag c = false) :
    ∀ c ∈ (parts.flatMap (Segment.written n) ++ suffix).head?, startsTag c = false := by
  cases h with
  | nil => exact hsuffix.starts
  | char _ _ => exact htext
  | tag backslashes _ _ =>
      rw [flatMap_written_tag]
      exact (isApart_backslashes _ (isApart_opening _)).starts

/-- A tag starts with a bracket or a backslash. -/
lemma Parts.of_startsTag {c : Char} {cs : List Char} (h : Parts (c :: cs) parts)
    (hc : startsTag c = true) : ∃ rest, parts = .char c :: rest ∧ Parts cs rest := by
  generalize htext : c :: cs = text at h
  cases h with
  | nil => cases htext
  | char _ hrest =>
      obtain ⟨rfl, rfl⟩ := List.cons.inj htext
      exact ⟨_, rfl, hrest⟩
  | tag backslashes _ _ =>
      exfalso
      have hhead := (isApart_backslashes backslashes (isApart_opening _)).starts c
        (by rw [← htext]; rfl)
      rw [hc] at hhead
      cases hhead

variable (hn : ∀ backslashes, backslashes ≤ n backslashes)

include hn

lemma Parts.tag?_written (h : Parts text parts) (hsuffix : IsApart suffix) (hne : text ≠ [])
    (htext : tag? text = none) : tag? (parts.flatMap (Segment.written n) ++ suffix) = none := by
  cases h with
  | nil => exact absurd rfl hne
  | @char c cs parts _ hrest =>
      rw [flatMap_written_char]
      by_cases hc : c = '['
      · subst hc
        by_cases hstarts : ∀ c ∈ cs.head?, startsTag c = false
        · exact tag?_opening_of_not_startsTag (hrest.startsTag_written hsuffix hstarts)
        · -- the bracket would start a tag if a closing one came before the next opening one
          push Not at hstarts
          obtain ⟨d, hd, hstarts⟩ := hstarts
          obtain ⟨ds, rfl⟩ : ∃ ds, cs = d :: ds := by
            cases cs with
            | nil => cases hd
            | cons e es => exact ⟨es, by simpa using hd⟩
          replace hstarts := eq_true_of_ne_false hstarts
          obtain ⟨parts, rfl, hds⟩ := hrest.of_startsTag hstarts
          rw [tag?, if_pos hstarts] at htext
          rw [flatMap_written_char, tag?, if_pos hstarts]
          cases hclosing : closing? ds with
          | some => simp [hclosing] at htext
          | none => rw [hds.closing?_written hsuffix hclosing]
      · exact tag?_cons_of_ne hc _
  | @tag backslashes inside rest parts hinside _ =>
      have hpos : 0 < backslashes := by
        by_contra h0
        obtain rfl : backslashes = 0 := by omega
        rw [List.replicate_zero, List.nil_append, tag?_eq_some_iff.mpr ⟨hinside, rfl⟩] at htext
        cases htext
      have hle := hn backslashes
      obtain ⟨k, hk⟩ : ∃ k, n backslashes = k + 1 := ⟨n backslashes - 1, by omega⟩
      rw [flatMap_written_tag, hk, List.replicate_succ]
      exact tag?_cons_of_ne (by decide) _

/-- What is no tag behind its backslashes is not written as one. -/
lemma Parts.tag?_dropWhile_written (h : Parts text parts) (hsuffix : IsApart suffix)
    (hne : text ≠ []) (hlast : ¬ ['\\'] <:+ text)
    (htext : tag? (text.dropWhile (· == '\\')) = none) :
    tag? ((parts.flatMap (Segment.written n) ++ suffix).dropWhile (· == '\\')) = none := by
  induction h with
  | nil => exact absurd rfl hne
  | @char c cs parts htag hrest ih =>
      rw [flatMap_written_char]
      by_cases hc : c = '\\'
      · subst hc
        have hcs : cs ≠ [] := by
          rintro rfl
          exact hlast List.suffix_rfl
        exact ih hcs (fun h => hlast (h.trans (List.suffix_cons _ _))) htag
      · have hdrop : ∀ ds : List Char, (c :: ds).dropWhile (· == '\\') = c :: ds := by simp [hc]
        rw [hdrop] at htext ⊢
        exact (Parts.char htag hrest).tag?_written hn hsuffix hne htext
  | tag backslashes hinside _ _ =>
      rw [dropWhile_backslashes _ (by decide), tag?_eq_some_iff.mpr ⟨hinside, rfl⟩] at htext
      cases htext

/-- **Tags that get more backslashes stay tags, and nothing else becomes one**, also if
something follows that completes no tag. -/
lemma Parts.written (h : Parts text parts) (hlast : ¬ ['\\'] <:+ text)
    (hsuffix : IsApart suffix) {rest : List Segment} (hrest : Parts suffix rest) :
    Parts (parts.flatMap (Segment.written n) ++ suffix)
      (parts.map (Segment.withBackslashes n) ++ rest) := by
  induction h with
  | nil => exact hrest
  | @char c cs parts htag hparts ih =>
      refine .char ?_ (ih fun h => hlast (h.trans (List.suffix_cons _ _)))
      exact (Parts.char htag hparts).tag?_dropWhile_written hn hsuffix (by simp) hlast htag
  | @tag backslashes inside text parts hinside _ ih =>
      rw [flatMap_written_tag]
      refine .tag _ hinside (ih fun h => hlast (h.trans ?_))
      exact ⟨List.replicate backslashes '\\' ++ '[' :: (inside ++ [']']), by simp⟩

omit hn

/-- Written as they are, the parts give the text back. -/
lemma Parts.flatMap_written_id (h : Parts text parts) :
    parts.flatMap (Segment.written id) = text := by
  induction h with
  | nil => rfl
  | char _ _ ih => exact congrArg _ ih
  | tag backslashes _ _ ih => simp [Segment.written, ih]

/-- What is written ends like the text. -/
lemma Parts.getLast?_written (h : Parts text parts) :
    (parts.flatMap (Segment.written n)).getLast? = text.getLast? := by
  induction h with
  | nil => rfl
  | @char c cs _ _ _ ih => simp [Segment.written, List.getLast?_cons, ih]
  | tag _ _ _ ih => simp [Segment.written, List.getLast?_append, List.getLast?_cons, ih]

end Written

/-! ### Escaping -/

lemma Segment.withBackslashes_id : Segment.withBackslashes id = id := by
  funext part
  cases part <;> rfl

/-- The backslashes of an escaped part. -/
def raised (backslashes : Nat) : Nat := 2 * backslashes + 1

lemma le_raised (backslashes : Nat) : backslashes ≤ raised backslashes := by
  rw [raised]
  omega

lemma Segment.escaped_eq_written : Segment.escaped = Segment.written raised := by
  funext part
  cases part <;> simp [Segment.escaped, Segment.written, raised]

/-- The backslashes at the end of an escaped text. -/
def closed (backslashes : Nat) : Nat := if backslashes = 1 then 2 else backslashes

lemma closeBackslash_append {text : List Char} (h : ¬ ['\\'] <:+ text) (k : Nat) :
    closeBackslash (text ++ List.replicate k '\\') = text ++ List.replicate (closed k) '\\' := by
  match k with
  | 0 =>
      have hfalse : (['\\'].isSuffixOf text) = false := by
        rwa [← Bool.not_eq_true, List.isSuffixOf_iff_suffix]
      rw [List.replicate_zero, List.append_nil, closeBackslash, hfalse]
      simp [closed]
  | 1 =>
      have hfalse : (['\\', '\\'].isSuffixOf (text ++ ['\\'])) = false := by
        rw [← Bool.not_eq_true, List.isSuffixOf_iff_suffix]
        intro (hsuffix : ['\\'] ++ ['\\'] <:+ text ++ ['\\'])
        exact h ((List.suffix_append_inj_of_length_eq rfl).mp hsuffix).1
      have htrue : (['\\'].isSuffixOf (text ++ ['\\'])) = true :=
        List.isSuffixOf_iff_suffix.mpr (List.suffix_append _ _)
      rw [List.replicate_one, closeBackslash, hfalse, htrue]
      simp [closed]
  | k + 2 =>
      have htrue : (['\\', '\\'].isSuffixOf (text ++ List.replicate (k + 2) '\\')) = true := by
        rw [List.isSuffixOf_iff_suffix, List.replicate_add, ← List.append_assoc]
        exact List.suffix_append _ _
      rw [closeBackslash, htrue]
      simp [closed]

/-- A text is one that does not end with a backslash, with backslashes behind it. -/
lemma exists_eq_append_backslashes (text : List Char) :
    ∃ body k, text = body ++ List.replicate k '\\' ∧ ¬ ['\\'] <:+ body := by
  induction text using List.reverseRecOn with
  | nil => exact ⟨[], 0, rfl, by simp⟩
  | append_singleton text c ih =>
      by_cases hc : c = '\\'
      · obtain ⟨body, k, rfl, hbody⟩ := ih
        exact ⟨body, k + 1, by rw [hc, List.replicate_succ', List.append_assoc], hbody⟩
      · refine ⟨text ++ [c], 0, by simp, ?_⟩
        rw [List.singleton_suffix_iff_getLast?_eq_some]
        simpa using hc

lemma parts_backslashes (k : Nat) :
    Parts (List.replicate k '\\') (List.replicate k (.char '\\')) := by
  induction k with
  | zero => exact .nil
  | succ k ih =>
      refine .char ?_ ih
      have hdrop : (List.replicate (k + 1) '\\').dropWhile (· == '\\') = [] := by simp
      rw [← List.replicate_succ, hdrop]
      rfl

lemma flatMap_written_backslashes (n : Nat → Nat) (k : Nat) :
    (List.replicate k (Segment.char '\\')).flatMap (Segment.written n) = List.replicate k '\\' := by
  induction k with
  | zero => rfl
  | succ k ih => simpa [List.replicate_succ, Segment.written] using ih

section Body

variable {body : List Char} (hbody : ¬ ['\\'] <:+ body) (k : Nat)

include hbody

/-- Backslashes at the end belong to no tag. -/
lemma parts_append_backslashes :
    Parts (body ++ List.replicate k '\\') (segments body ++ List.replicate k (.char '\\')) := by
  have hparts := parts_segments body
  have hsuffix : IsApart (List.replicate k '\\') := by
    simpa using isApart_backslashes k isApart_nil
  have hwhole := hparts.written (n := id) (fun _ => le_rfl) hbody hsuffix (parts_backslashes k)
  rwa [hparts.flatMap_written_id, Segment.withBackslashes_id, List.map_id] at hwhole

lemma toList_escape {text : String} (htext : text.toList = body ++ List.replicate k '\\') :
    (escape text).toList =
      (segments body).flatMap (Segment.written raised) ++ List.replicate (closed k) '\\' := by
  have hescaped : ¬ ['\\'] <:+ (segments body).flatMap (Segment.written raised) := by
    rwa [List.singleton_suffix_iff_getLast?_eq_some, (parts_segments body).getLast?_written,
      ← List.singleton_suffix_iff_getLast?_eq_some]
  rw [escape, String.toList_ofList, htext, (parts_append_backslashes hbody k).segments_eq,
    Segment.escaped_eq_written, List.flatMap_append, flatMap_written_backslashes,
    closeBackslash_append hescaped]

/-- **The parts of an escaped text with a tag behind it.** The backslashes at the end of the
text become part of the tag. -/
lemma parts_escape {text : String} (htext : text.toList = body ++ List.replicate k '\\')
    {inside : List Char} (hinside : IsInside inside) :
    Parts ((escape text).toList ++ '[' :: (inside ++ [']']))
      ((segments body).map (Segment.withBackslashes raised) ++ [.tag (closed k) inside]) := by
  rw [toList_escape hbody k htext, List.append_assoc]
  exact (parts_segments body).written le_raised hbody (isApart_backslashes _ (isApart_opening _))
    (.tag (closed k) hinside .nil)

end Body

/-! ### What is shown -/

/-- What is shown of a text whose tags are escaped: all of it but the backslashes before
brackets that open no tag. -/
def seen : List Segment → List Char
  | [] => []
  | .char '\\' :: .char '[' :: rest => '[' :: seen rest
  | .char c :: rest => c :: seen rest
  | .tag backslashes inside :: rest =>
    List.replicate backslashes '\\' ++ '[' :: (inside ++ ']' :: seen rest)

lemma shownBy_shown {openTags : List (List Char)} {events : List Event} {shown : List Char}
    (h : shownBy openTags events = .ok shown) (text : List Char) :
    shownBy openTags (.shown text :: events) = .ok (text ++ shown) := by
  rw [shownBy, h]

lemma eventsOf_char {c : Char} {rest : List Segment}
    (h : c = '\\' → rest.head? ≠ some (.char '[')) :
    eventsOf (.char c :: rest) = .shown [c] :: eventsOf rest := by
  rw [eventsOf.eq_3]
  rintro rest' rfl rfl
  exact h rfl rfl

/-- Parts are read one after the other, unless a backslash comes before a bracket. -/
lemma eventsOf_append {parts rest : List Segment}
    (h : parts.getLast? = some (.char '\\') → rest.head? ≠ some (.char '[')) :
    eventsOf (parts ++ rest) = eventsOf parts ++ eventsOf rest := by
  fun_induction eventsOf parts with
  | case1 => rfl
  | case2 parts ih =>
      have hparts := ih fun hlast => h (by simp [List.getLast?_cons, hlast])
      exact congrArg _ hparts
  | case3 c parts hne ih =>
      have hparts := ih fun hlast => h (by simp [List.getLast?_cons, hlast])
      rw [List.cons_append, eventsOf_char, hparts, List.cons_append]
      rintro rfl
      cases parts with
      | nil => exact h rfl
      | cons part parts =>
          rintro hpart
          obtain rfl : part = .char '[' := by simpa using hpart
          exact hne parts rfl rfl
  | case4 backslashes inside parts ih =>
      have hparts := ih fun hlast => h (by simp [List.getLast?_cons, hlast])
      rw [List.cons_append, eventsOf, hparts]
      rfl

/-- Escaped parts are shown, and neither open nor close anything. -/
lemma exists_eventsOf_raised (parts : List Segment) :
    ∃ texts : List (List Char),
      eventsOf (parts.map (Segment.withBackslashes raised)) = texts.map .shown ∧
        texts.flatten = seen parts := by
  fun_induction seen parts with
  | case1 => exact ⟨[], rfl, rfl⟩
  | case2 rest ih =>
      obtain ⟨texts, hevents, hseen⟩ := ih
      exact ⟨['['] :: texts, congrArg _ hevents, congrArg _ hseen⟩
  | case3 c rest hne ih =>
      obtain ⟨texts, hevents, hseen⟩ := ih
      refine ⟨[c] :: texts, ?_, congrArg _ hseen⟩
      rw [List.map_cons, Segment.withBackslashes, eventsOf_char, hevents, List.map_cons]
      rintro rfl
      cases rest with
      | nil => simp
      | cons part rest =>
          cases part with
          | char d =>
              intro hd
              obtain rfl : d = '[' := by simpa [Segment.withBackslashes] using hd
              exact hne rest rfl rfl
          | tag => simp [Segment.withBackslashes]
  | case4 backslashes inside rest ih =>
      obtain ⟨texts, hevents, hseen⟩ := ih
      have hhalf : raised backslashes / 2 = backslashes := by rw [raised]; omega
      have hodd : raised backslashes % 2 = 1 := by rw [raised]; omega
      refine ⟨List.replicate backslashes '\\' :: ('[' :: inside ++ [']']) :: texts, ?_, ?_⟩
      · rw [List.map_cons, Segment.withBackslashes, eventsOf, hhalf, if_pos hodd, hevents]
        rfl
      · simp [hseen]

/-- Escaped tags neither open nor close anything. -/
lemma shownBy_raised {openTags : List (List Char)} {backslashes : Nat} {inside shown : List Char}
    (h : shownBy openTags (eventsOf [.tag backslashes inside]) = .ok shown)
    (parts : List Segment) :
    shownBy openTags (eventsOf (parts.map (Segment.withBackslashes raised) ++
      [.tag backslashes inside])) = .ok (seen parts ++ shown) := by
  obtain ⟨texts, hevents, hseen⟩ := exists_eventsOf_raised parts
  rw [eventsOf_append fun _ => by simp, hevents, ← hseen]
  clear hevents hseen
  induction texts with
  | nil => exact h
  | cons text texts ih =>
      rw [List.flatten_cons, List.append_assoc]
      exact shownBy_shown ih text

/-- A tag with backslashes before it is shown itself if their number is odd. -/
lemma exists_shownBy_tag {openTags after : List (List Char)} {inside : List Char}
    (h : afterTag inside openTags = .ok after) (backslashes : Nat) :
    ∃ shown, shownBy openTags (eventsOf [.tag backslashes inside]) = .ok shown ∧
      (backslashes = 0 → shown = []) := by
  rw [eventsOf, eventsOf]
  by_cases hodd : backslashes % 2 = 1
  · rw [if_pos hodd]
    refine ⟨_, shownBy_shown (shownBy_shown rfl _) _, ?_⟩
    rintro rfl
    cases hodd
  · rw [if_neg hodd]
    refine ⟨List.replicate (backslashes / 2) '\\' ++ [], shownBy_shown ?_ _, ?_⟩
    · rw [shownBy, h]
      rfl
    · rintro rfl
      rfl

/-- What is seen are all characters of the text but some backslashes. -/
lemma filter_seen (parts : List Segment) :
    (seen parts).filter (· != '\\') = (parts.flatMap (Segment.written id)).filter (· != '\\') := by
  fun_induction seen parts with
  | case1 => rfl
  | case2 rest ih => simpa [Segment.written] using ih
  | case3 c rest _ ih => simp [Segment.written, List.filter_cons, ih]
  | case4 backslashes inside rest ih => simp [Segment.written, ih]

lemma seen_eq (parts : List Segment) (h : '\\' ∉ parts.flatMap (Segment.written id)) :
    seen parts = parts.flatMap (Segment.written id) := by
  fun_induction seen parts with
  | case1 => rfl
  | case2 rest ih => simp [Segment.written] at h
  | case3 c rest _ ih =>
      simp only [List.flatMap_cons, List.mem_append, not_or] at h
      rw [ih h.2]
      rfl
  | case4 backslashes inside rest ih =>
      simp only [List.flatMap_cons, List.mem_append, not_or] at h
      simp [Segment.written, ih h.2]

/-- **An escaped text between two tags is shown**, whatever stands in it: all of it if there
is no backslash in it, and otherwise all but some of the backslashes. -/
lemma visible?_escape {opening closing : String} {before behind : List Char}
    {openTags after : List (List Char)} (hbefore : IsInside before) (hbehind : IsInside behind)
    (hopen : afterTag before [] = .ok openTags) (hclose : afterTag behind openTags = .ok after)
    (hopening : opening.toList = '[' :: (before ++ [']']))
    (hclosing : closing.toList = '[' :: (behind ++ [']'])) (text : String) :
    ∃ shown, visible? (opening ++ escape text ++ closing) = .ok shown ∧
      (text.toList.filter (· != '\\')).Sublist shown.toList ∧
      ('\\' ∉ text.toList → shown = text) := by
  obtain ⟨body, k, htext, hbody⟩ := exists_eq_append_backslashes text.toList
  have hparts := Parts.tag 0 hbefore (parts_escape hbody k htext hbehind)
  obtain ⟨tail, htail, hnil⟩ := exists_shownBy_tag hclose (closed k)
  have hwritten := (parts_segments body).flatMap_written_id
  refine ⟨String.ofList (seen (segments body) ++ tail), ?_, ?_, fun hnone => ?_⟩
  · have hmarkup : (opening ++ escape text ++ closing).toList =
        List.replicate 0 '\\' ++ '[' :: (before ++
          ']' :: ((escape text).toList ++ '[' :: (behind ++ [']']))) := by
      simp [hopening, hclosing]
    rw [visible?, events, hmarkup, hparts.segments_eq, eventsOf, if_neg (by decide), shownBy,
      shownBy, hopen]
    dsimp only
    rw [shownBy_raised htail]
    rfl
  · have hfilter := filter_seen (segments body)
    rw [hwritten] at hfilter
    rw [String.toList_ofList, htext, List.filter_append, List.filter_replicate_of_neg (by decide),
      List.append_nil, ← hfilter]
    exact List.filter_sublist.trans (List.sublist_append_left _ _)
  · obtain rfl : k = 0 := by
      by_contra hk
      apply hnone
      rw [htext]
      simp [hk]
    rw [List.replicate_zero, List.append_nil] at htext
    rw [htext] at hnone
    rw [hnil rfl, List.append_nil, seen_eq _ (by rwa [hwritten]), hwritten, ← htext,
      String.ofList_toList]

end Branchwise.Markup
