/-
The tags of a markup.

Whether a markup can be shown depends on its tags alone: every closing one must find an
open one.

* `Markup.Matches`: every closing tag finds an open one;
  `Markup.isValid_iff` says that a markup is then shown, and only then.
* `Markup.tags_append_tag`, `Markup.tags_escape`: the tags of what is put together from
  pieces. An escaped text has none.
* `Markup.HasTags`: a piece whose tags do not depend on what follows.
* `Markup.Safe`: a markup whose tags match and are ones that this library writes.
* `Markup.Balanced`: a piece that closes what it opens; `Markup.balanced_style` says that a
  text in a style is one.
* `Markup.OpensNothing`: a text without tags, which can stand in any markup.
-/
import Mathlib.Data.List.Chain
import Branchwise.Proofs.EscapedText

namespace Branchwise.Markup

/-! ### Tags that are obeyed -/

lemma Segment.obeyed?_of_odd {backslashes : Nat} (h : backslashes % 2 = 1) (inside : List Char) :
    (tag backslashes inside).obeyed? = none :=
  if_pos h

lemma Segment.obeyed?_of_even {backslashes : Nat} (h : ¬ backslashes % 2 = 1)
    (inside : List Char) : (tag backslashes inside).obeyed? = some inside :=
  if_neg h

/-- Every closing tag finds an open one. -/
inductive Matches : List (List Char) → List (List Char) → Prop where
  | nil {openTags : List (List Char)} : Matches openTags []
  | cons {openTags after : List (List Char)} {inside : List Char} {tags : List (List Char)}
      (h : afterTag inside openTags = .ok after) :
      Matches after tags → Matches openTags (inside :: tags)

lemma exists_shownBy_shown {openTags : List (List Char)} {text : List Char} {events : List Event} :
    (∃ shown, shownBy openTags (.shown text :: events) = .ok shown) ↔
      ∃ shown, shownBy openTags events = .ok shown := by
  rw [shownBy]
  cases shownBy openTags events <;> simp

lemma exists_shownBy_tag_cons {openTags : List (List Char)} {inside : List Char}
    {events : List Event} :
    (∃ shown, shownBy openTags (.tag inside :: events) = .ok shown) ↔
      ∃ after, afterTag inside openTags = .ok after ∧
        ∃ shown, shownBy after events = .ok shown := by
  rw [shownBy]
  cases afterTag inside openTags <;> simp

lemma matches_cons_iff {openTags : List (List Char)} {inside : List Char}
    {tags : List (List Char)} :
    Matches openTags (inside :: tags) ↔
      ∃ after, afterTag inside openTags = .ok after ∧ Matches after tags := by
  constructor
  · rintro (_ | ⟨h, htags⟩)
    exact ⟨_, h, htags⟩
  · rintro ⟨after, h, htags⟩
    exact .cons h htags

/-- Only tags decide whether parts can be shown. -/
lemma exists_shownBy_iff {openTags : List (List Char)} (parts : List Segment) :
    (∃ shown, shownBy openTags (eventsOf parts) = .ok shown) ↔
      Matches openTags (parts.filterMap Segment.obeyed?) := by
  fun_induction eventsOf parts generalizing openTags with
  | case1 => exact iff_of_true ⟨[], rfl⟩ .nil
  -- a backslash that is dropped takes no tag with it
  | case2 rest ih => exact exists_shownBy_shown.trans ih
  | case3 c rest _ ih => exact exists_shownBy_shown.trans ih
  | case4 backslashes inside rest ih =>
      rw [exists_shownBy_shown]
      by_cases hodd : backslashes % 2 = 1
      · rw [if_pos hodd, exists_shownBy_shown, ih,
          List.filterMap_cons_none (Segment.obeyed?_of_odd hodd inside)]
      · rw [if_neg hodd, exists_shownBy_tag_cons,
          List.filterMap_cons_some (Segment.obeyed?_of_even hodd inside), matches_cons_iff]
        simp only [ih]

/-- The markup can be shown. -/
def IsValid (markup : String) : Prop :=
  ∃ text, visible? markup = .ok text

/-- **A markup is shown if its tags match, and only then.** -/
lemma isValid_iff (markup : String) : IsValid markup ↔ Matches [] (tags markup.toList) := by
  rw [IsValid, tags, ← exists_shownBy_iff, visible?, events]
  cases shownBy [] (eventsOf (segments markup.toList)) <;> simp [Except.map]

/-! ### Tags of pieces -/

/-- What completes no tag before it keeps its tags, up to the backslashes before it. -/
lemma tags_append {body suffix : List Char} (hbody : ¬ ['\\'] <:+ body)
    (hsuffix : IsApart suffix) : tags (body ++ suffix) = tags body ++ tags suffix := by
  have hparts := (parts_segments body).written (n := id) (fun _ => le_rfl) hbody hsuffix
    (parts_segments suffix)
  rw [(parts_segments body).flatMap_written_id, Segment.withBackslashes_id, List.map_id] at hparts
  rw [tags, hparts.segments_eq, List.filterMap_append]
  rfl

lemma filterMap_obeyed?_chars (k : Nat) :
    (List.replicate k (Segment.char '\\')).filterMap Segment.obeyed? = [] := by
  rw [List.filterMap_eq_nil_iff]
  intro part hpart
  rw [List.eq_of_mem_replicate hpart]
  rfl

lemma tags_append_backslashes {body : List Char} (hbody : ¬ ['\\'] <:+ body) (k : Nat) :
    tags (body ++ List.replicate k '\\') = tags body := by
  rw [tags, (parts_append_backslashes hbody k).segments_eq, List.filterMap_append,
    filterMap_obeyed?_chars, List.append_nil]
  rfl

/-- **A tag behind a text** is obeyed, unless the backslashes at the end of the text make it a
plain text. -/
lemma tags_append_tag (text : List Char) {inside : List Char} (h : IsInside inside)
    (rest : List Char) :
    tags (text ++ '[' :: (inside ++ ']' :: rest)) = tags text ++ inside :: tags rest ∨
      tags (text ++ '[' :: (inside ++ ']' :: rest)) = tags text ++ tags rest := by
  -- the backslashes at the end of the text belong to the tag, and their number decides
  obtain ⟨body, k, rfl, hbody⟩ := exists_eq_append_backslashes text
  have hsuffix := isApart_backslashes k (isApart_opening (inside ++ ']' :: rest))
  have hparts : Parts (List.replicate k '\\' ++ '[' :: (inside ++ ']' :: rest))
      (.tag k inside :: segments rest) := .tag k h (parts_segments rest)
  rw [List.append_assoc, tags_append hbody hsuffix, tags_append_backslashes hbody]
  by_cases hodd : k % 2 = 1
  · refine .inr (congrArg _ ?_)
    rw [tags, hparts.segments_eq, List.filterMap_cons_none (Segment.obeyed?_of_odd hodd inside)]
    rfl
  · refine .inl (congrArg _ ?_)
    rw [tags, hparts.segments_eq, List.filterMap_cons_some (Segment.obeyed?_of_even hodd inside)]
    rfl

lemma filterMap_obeyed?_raised (parts : List Segment) :
    (parts.map (Segment.withBackslashes raised)).filterMap Segment.obeyed? = [] := by
  rw [List.filterMap_map, List.filterMap_eq_nil_iff]
  intro part _
  cases part with
  | char c => rfl
  | tag backslashes inside =>
      have hodd : raised backslashes % 2 = 1 := by rw [raised]; omega
      exact Segment.obeyed?_of_odd hodd inside

/-- **An escaped text has no tags.** -/
lemma tags_escape (text : String) : tags (escape text).toList = [] := by
  obtain ⟨body, k, htext, hbody⟩ := exists_eq_append_backslashes text.toList
  have hsuffix : IsApart (List.replicate (closed k) '\\') := by
    simpa using isApart_backslashes (closed k) isApart_nil
  have hparts := (parts_segments body).written le_raised hbody hsuffix
    (parts_backslashes (closed k))
  rw [← toList_escape hbody k htext] at hparts
  rw [tags, hparts.segments_eq, List.filterMap_append, filterMap_obeyed?_chars, List.append_nil,
    filterMap_obeyed?_raised]

/-- A tag of a markup stands in it. -/
lemma infix_of_mem_tags {text inside : List Char} (h : inside ∈ tags text) :
    '[' :: inside <:+: text := by
  have hparts := parts_segments text
  rw [tags] at h
  generalize segments text = parts at hparts h
  induction hparts with
  | nil => simp at h
  | @char c cs parts _ _ ih =>
      rw [List.filterMap_cons_none rfl] at h
      exact (ih h).trans (List.suffix_cons c cs).isInfix
  | @tag backslashes inside' rest parts _ _ ih =>
      rw [List.mem_filterMap] at h
      obtain ⟨part, hpart, hobeyed⟩ := h
      rcases List.mem_cons.mp hpart with rfl | hpart
      · by_cases hodd : backslashes % 2 = 1
        · rw [Segment.obeyed?_of_odd hodd] at hobeyed
          cases hobeyed
        · rw [Segment.obeyed?_of_even hodd] at hobeyed
          cases hobeyed
          exact ⟨List.replicate backslashes '\\', ']' :: rest, by simp⟩
      · refine (ih (List.mem_filterMap.mpr ⟨part, hpart, hobeyed⟩)).trans ?_
        exact ⟨List.replicate backslashes '\\' ++ '[' :: (inside' ++ [']']), [], by simp⟩

/-- A tag of a markup is one. -/
lemma isInside_of_mem_tags {text inside : List Char} (h : inside ∈ tags text) :
    IsInside inside := by
  have hparts := parts_segments text
  rw [tags] at h
  generalize segments text = parts at hparts h
  induction hparts with
  | nil => simp at h
  | char _ _ ih =>
      rw [List.filterMap_cons_none rfl] at h
      exact ih h
  | @tag backslashes inside' rest parts hinside _ ih =>
      rw [List.mem_filterMap] at h
      obtain ⟨part, hpart, hobeyed⟩ := h
      rcases List.mem_cons.mp hpart with rfl | hpart
      · rw [Segment.obeyed?] at hobeyed
        split at hobeyed
        · cases hobeyed
        · cases hobeyed
          exact hinside
      · exact ih (List.mem_filterMap.mpr ⟨part, hpart, hobeyed⟩)

lemma tags_of_not_mem {text : List Char} (h : '[' ∉ text) : tags text = [] := by
  rw [List.eq_nil_iff_forall_not_mem]
  intro inside hinside
  exact h ((infix_of_mem_tags hinside).subset List.mem_cons_self)

/-- An escaped text has no tags with a parenthesis behind it either. -/
lemma tags_escape_append (text : String) : tags ((escape text).toList ++ [')']) = [] := by
  have hescape := tags_escape text
  obtain ⟨body, k, htext, hbody⟩ := exists_eq_append_backslashes (escape text).toList
  rw [htext, tags_append_backslashes hbody] at hescape
  have hsuffix : IsApart (List.replicate k '\\' ++ [')']) := by
    refine isApart_backslashes k ⟨rfl, fun c hc => ?_⟩
    obtain rfl : ')' = c := by simpa using hc
    rfl
  rw [htext, List.append_assoc, tags_append hbody hsuffix, hescape, List.nil_append]
  exact tags_of_not_mem (by simp)

/-! ### Whole pieces -/

/-- A part that is the same whatever follows it. -/
def Segment.isWhole : Segment → Bool
  | char c => c != '[' && c != '\\'
  | tag _ _ => true

/-- A piece with the given tags, whatever follows it. -/
structure HasTags (text : String) (ts : List (List Char)) : Prop where
  whole : (segments text.toList).all Segment.isWhole = true
  tags_eq : tags text.toList = ts

lemma Parts.append_of_isWhole {text rest : List Char} {parts parts' : List Segment}
    (h : Parts text parts) (hwhole : parts.all Segment.isWhole = true) (h' : Parts rest parts') :
    Parts (text ++ rest) (parts ++ parts') := by
  induction h with
  | nil => exact h'
  | @char c cs parts _ _ ih =>
      rw [List.all_cons, Bool.and_eq_true, Segment.isWhole, Bool.and_eq_true, bne_iff_ne,
        bne_iff_ne] at hwhole
      refine .char ?_ (ih hwhole.2)
      rw [List.dropWhile_cons_of_neg (by simpa using hwhole.1.2)]
      exact tag?_cons_of_ne hwhole.1.1 _
  | @tag backslashes inside text parts hinside _ ih =>
      rw [List.all_cons, Bool.and_eq_true] at hwhole
      rw [List.append_assoc, List.cons_append, List.append_assoc, List.cons_append]
      exact .tag backslashes hinside (ih hwhole.2)

namespace HasTags

variable {text text' : String} {ts ts' : List (List Char)}

lemma segments_append (h : HasTags text ts) (rest : List Char) :
    segments (text.toList ++ rest) = segments text.toList ++ segments rest :=
  ((parts_segments _).append_of_isWhole h.whole (parts_segments rest)).segments_eq

lemma tags_append (h : HasTags text ts) (rest : List Char) :
    tags (text.toList ++ rest) = ts ++ tags rest := by
  rw [tags, h.segments_append, List.filterMap_append, ← h.tags_eq]
  rfl

lemma append (h : HasTags text ts) (h' : HasTags text' ts') :
    HasTags (text ++ text') (ts ++ ts') where
  whole := by
    rw [String.toList_append, h.segments_append, List.all_append, h.whole, h'.whole]
    rfl
  tags_eq := by rw [String.toList_append, h.tags_append, h'.tags_eq]

lemma isValid (h : HasTags text ts) (hts : Matches [] ts) : IsValid text := by
  rwa [isValid_iff, h.tags_eq]

end HasTags

/-- A text that has nothing to do with tags, wherever it stands. -/
def Plain (text : List Char) : Prop :=
  ∀ c ∈ text, c ≠ '[' ∧ c ≠ '\\'

lemma Plain.hasTags {text : String} (h : Plain text.toList) : HasTags text [] where
  whole := by
    have hparts := parts_segments text.toList
    generalize segments text.toList = parts at hparts
    generalize text.toList = cs at h hparts
    induction hparts with
    | nil => rfl
    | char _ _ ih =>
        obtain ⟨hc, hcs⟩ := List.forall_mem_cons.mp h
        rw [List.all_cons, ih hcs, Segment.isWhole]
        simp [hc.1, hc.2]
    | tag backslashes _ _ _ => exact absurd rfl (h '[' (by simp)).1
  tags_eq := tags_of_not_mem fun hmem => (h '[' hmem).1 rfl

lemma afterTag_of_opening {inside : List Char} (h : inside.head? ≠ some '/')
    (openTags : List (List Char)) : afterTag inside openTags = .ok (inside :: openTags) := by
  rw [afterTag.eq_def]
  split
  · exact absurd rfl h
  · exact absurd rfl h
  · rfl

/-- A closing tag with the name of an open one. -/
lemma exists_afterTag_of_mem {name : List Char} {openTags : List (List Char)}
    (hmem : name ∈ openTags) : ∃ after, afterTag ('/' :: name) openTags = .ok after := by
  cases name with
  | nil =>
      cases openTags with
      | nil => simp at hmem
      | cons style openTags => exact ⟨openTags, rfl⟩
  | cons c cs =>
      rw [afterTag, if_pos (List.contains_iff_mem.mpr hmem)]
      · exact ⟨_, rfl⟩
      · simp

/-! ### Safe markup -/

/-- The style is one that this library writes. -/
def IsOwnStyle (style : List Char) : Prop :=
  style ∈ ownStyles.map String.toList

instance (style : List Char) : Decidable (IsOwnStyle style) :=
  inferInstanceAs (Decidable (style ∈ ownStyles.map String.toList))

lemma IsOwnStyle.head? {style : List Char} (h : IsOwnStyle style) : style.head? ≠ some '/' := by
  have hall : ∀ style ∈ ownStyles.map String.toList, style.head? ≠ some '/' := by decide
  exact hall style h

lemma IsOwnStyle.opening {style : List Char} (h : IsOwnStyle style) :
    isOwnTag style = true := by
  have hall : ∀ style ∈ ownStyles.map String.toList, isOwnTag style = true := by decide
  exact hall style h

lemma IsOwnStyle.closing {style : List Char} (h : IsOwnStyle style) :
    isOwnTag ('/' :: style) = true := by
  have hall : ∀ style ∈ ownStyles.map String.toList, isOwnTag ('/' :: style) = true := by decide
  exact hall style h

/-- Markup whose tags match, and which has no tags but those that this library writes. -/
structure Safe (markup : String) : Prop where
  valid : IsValid markup
  own : (tags markup.toList).all isOwnTag = true

lemma HasTags.safe {text : String} {ts : List (List Char)} (h : HasTags text ts)
    (hts : Matches [] ts) (hown : ts.all isOwnTag = true) : Safe text :=
  ⟨h.isValid hts, by rwa [h.tags_eq]⟩

/-! ### Balanced pieces -/

/-- The tags are ones that this library writes, and they match if at least `n` tags are open
before them. -/
structure Fits (n : Nat) (tags : List (List Char)) : Prop where
  matched (openTags : List (List Char)) : n ≤ openTags.length → Matches openTags tags
  own : tags.all isOwnTag = true

/-- A piece that closes what it opens: what follows it sees the same tags open, or more. -/
def Balanced (text : String) : Prop :=
  ∀ n rest, Fits n (tags rest) → Fits n (tags (text.toList ++ rest))

lemma Balanced.append {text text' : String} (h : Balanced text) (h' : Balanced text') :
    Balanced (text ++ text') := by
  intro n rest hrest
  rw [String.toList_append, List.append_assoc]
  exact h n _ (h' n rest hrest)

lemma Balanced.joinWith {sep : String} (hsep : Balanced sep) {parts : List String}
    (h : ∀ part ∈ parts, Balanced part) : Balanced (Text.joinWith sep parts) := by
  induction parts with
  | nil => exact fun n rest hrest => hrest
  | cons part parts ih =>
      rw [List.forall_mem_cons] at h
      cases parts with
      | nil => exact h.1
      | cons next parts =>
          intro n rest hrest
          have hnext := ih h.2 n rest hrest
          rw [Text.joinWith, String.toList_intercalate] at hnext ⊢
          rw [List.map_cons, List.map_cons, List.intercalate_cons_cons, ← List.map_cons,
            List.append_assoc, List.append_assoc]
          exact h.1 n _ (hsep n _ hnext)

lemma Balanced.safe {text : String} (h : Balanced text) : Safe text := by
  have hfits := h 0 [] ⟨fun openTags _ => .nil, rfl⟩
  rw [List.append_nil] at hfits
  exact ⟨(isValid_iff text).mpr (hfits.matched [] le_rfl), hfits.own⟩

/-- A piece that closes what it opens, behind a style that stays open. -/
lemma Balanced.safe_behind {text opening : String} {style : List Char} (h : Balanced text)
    (hopening : HasTags opening [style]) (hstyle : IsOwnStyle style) : Safe (opening ++ text) := by
  have hfits := h 0 [] ⟨fun openTags _ => .nil, rfl⟩
  rw [List.append_nil] at hfits
  have htags : tags (opening ++ text).toList = style :: tags text.toList := by
    rw [String.toList_append, hopening.tags_append]
    rfl
  refine ⟨?_, ?_⟩
  · rw [isValid_iff, htags]
    exact .cons (afterTag_of_opening hstyle.head? []) (hfits.matched _ (Nat.zero_le _))
  · rw [htags, List.all_cons, hstyle.opening, hfits.own]
    rfl

/-- A style and what closes it. -/
lemma HasTags.balanced {text : String} {style : List Char} (h : HasTags text [style, ['/']])
    (hstyle : IsOwnStyle style) : Balanced text := by
  intro n rest hrest
  rw [h.tags_append]
  refine ⟨fun openTags hn => ?_, ?_⟩
  · exact .cons (afterTag_of_opening hstyle.head? openTags)
      (.cons rfl (hrest.matched openTags hn))
  · rw [List.all_append, hrest.own, List.all_cons, hstyle.opening]
    rfl

/-- **A text without tags in a style.** The backslashes at its end may keep the style open. -/
lemma balanced_style {opening : String} {style : List Char} (hopening : HasTags opening [style])
    (hstyle : IsOwnStyle style) {text : String} (htext : tags text.toList = []) :
    Balanced (opening ++ text ++ "[/]") := by
  intro n rest hrest
  have hslash : IsInside ['/'] := ⟨⟨'/', [], rfl, rfl⟩, by decide, by decide⟩
  have hmarkup : (opening ++ text ++ "[/]").toList ++ rest =
      opening.toList ++ (text.toList ++ '[' :: (['/'] ++ ']' :: rest)) := by
    simp
  rw [hmarkup, hopening.tags_append, List.singleton_append]
  have hafter := afterTag_of_opening hstyle.head?
  rcases tags_append_tag text.toList hslash rest with htags | htags
  · rw [htags, htext]
    refine ⟨fun openTags hn => .cons (hafter openTags) (.cons rfl (hrest.matched openTags hn)), ?_⟩
    rw [List.nil_append, List.all_cons, List.all_cons, hstyle.opening, hrest.own]
    rfl
  · rw [htags, htext]
    refine ⟨fun openTags hn =>
      .cons (hafter openTags) (hrest.matched _ (Nat.le_succ_of_le hn)), ?_⟩
    rw [List.nil_append, List.all_cons, hstyle.opening, hrest.own]
    rfl

/-! ### Texts without tags -/

/-- No opening bracket has the start of a tag behind it, so there is no tag. -/
def OpensNothing (text : List Char) : Prop :=
  text.IsChain fun a b => a = '[' → startsTag b = false

instance (text : List Char) : Decidable (OpensNothing text) :=
  inferInstanceAs (Decidable (text.IsChain fun a b => a = '[' → startsTag b = false))

lemma opensNothing_of_not_mem {text : List Char} (h : '[' ∉ text) : OpensNothing text := by
  induction text with
  | nil => exact List.isChain_nil
  | cons c cs ih =>
      rw [List.mem_cons, not_or] at h
      refine List.isChain_cons.mpr ⟨fun d _ hc => absurd hc.symm h.1, ih h.2⟩

lemma opensNothing_singleton (c : Char) : OpensNothing [c] :=
  List.isChain_singleton c

lemma OpensNothing.append {a b : List Char} (ha : OpensNothing a) (hb : OpensNothing b)
    (h : a.getLast? = some '[' → ∀ c ∈ b.head?, startsTag c = false) : OpensNothing (a ++ b) := by
  refine List.isChain_append.mpr ⟨ha, hb, fun x hx y hy hopening => ?_⟩
  subst hopening
  exact h hx y hy

/-- A text whose characters stand for themselves or are written with a backslash. -/
lemma OpensNothing.flatMap {f : Char → List Char}
    (hf : ∀ c, f c = [c] ∨ '[' ∉ f c ∧ (f c).head? = some '\\') {text : List Char}
    (h : OpensNothing text) : OpensNothing (text.flatMap f) := by
  induction text with
  | nil => exact List.isChain_nil
  | cons c cs ih =>
      obtain ⟨hnext, hcs⟩ := List.isChain_cons.mp h
      rw [List.flatMap_cons]
      rcases hf c with hc | ⟨hc, -⟩
      · -- only a bracket that stands for itself can have the start of a tag behind it
        rw [hc]
        refine (opensNothing_singleton c).append (ih hcs) fun hlast => ?_
        obtain rfl : c = '[' := by simpa using hlast
        cases cs with
        | nil => simp
        | cons d ds =>
            rcases hf d with hd | ⟨-, hd⟩
            · simpa [hd] using hnext d rfl rfl
            · cases hfd : f d with
              | nil => simp [hfd] at hd
              | cons e es =>
                  obtain rfl : e = '\\' := by simpa [hfd] using hd
                  simpa [hfd] using startsTag_backslash
      · refine (opensNothing_of_not_mem hc).append (ih hcs) fun hlast => ?_
        exact absurd (List.mem_of_getLast? hlast) hc

/-- **A text in which nothing starts a tag has none.** -/
lemma OpensNothing.tags_eq {text : List Char} (h : OpensNothing text) : tags text = [] := by
  rw [List.eq_nil_iff_forall_not_mem]
  intro inside hinside
  obtain ⟨c, cs, rfl, hstarts⟩ := (isInside_of_mem_tags hinside).starts
  have hchain := List.IsChain.infix h (infix_of_mem_tags hinside)
  rw [List.isChain_cons_cons] at hchain
  cases hstarts.symm.trans (hchain.1 rfl)

/-- A text without tags in a style that is closed by its name. -/
lemma safe_between {opening closing : String} {style trail : List Char}
    (hopening : HasTags opening [style]) (hstyle : IsOwnStyle style)
    (hclosing : closing.toList = '[' :: ('/' :: style ++ ']' :: trail))
    (hinside : IsInside ('/' :: style)) (htrail : '[' ∉ trail) {text : String}
    (htext : tags text.toList = []) : Safe (opening ++ text ++ closing) := by
  have htags : tags (opening ++ text ++ closing).toList =
      style :: tags (text.toList ++ '[' :: ('/' :: style ++ ']' :: trail)) := by
    rw [String.toList_append, String.toList_append, List.append_assoc, hopening.tags_append,
      hclosing, List.singleton_append]
  obtain ⟨after, hafter⟩ := exists_afterTag_of_mem (List.mem_singleton_self style)
  have hopen := afterTag_of_opening hstyle.head? []
  rcases tags_append_tag text.toList hinside trail with hbehind | hbehind
  · rw [hbehind, htext, tags_of_not_mem htrail, List.nil_append] at htags
    refine ⟨?_, ?_⟩
    · rw [isValid_iff, htags]
      exact .cons hopen (.cons hafter .nil)
    · rw [htags]
      simp [hstyle.opening, hstyle.closing]
  · rw [hbehind, htext, tags_of_not_mem htrail, List.nil_append] at htags
    refine ⟨?_, ?_⟩
    · rw [isValid_iff, htags]
      exact .cons hopen .nil
    · rw [htags]
      simp [hstyle.opening]

end Branchwise.Markup
