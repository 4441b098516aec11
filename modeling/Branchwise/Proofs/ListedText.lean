/-
The text that a listing shows.

The texts of the steps are escaped, so their brackets open no tags. But the reader of a markup
drops a backslash before a bracket that opens no tag, and it takes the backslashes at the end of
a text for those of the tag behind it. Emoji codes, which a console may replace, are text to it.

* `Markup.shownOf`, `Markup.visible?_eq_ok_iff`: what a markup shows, apart from its tags.
* `Markup.Renders`: a piece that shows the same and has the same tags whatever follows it.
* `Markup.trailing`, `Markup.inStyle`, `Markup.renders_escape`: an escaped text with a closing tag
  behind it.
* `Markup.Survives`, `Markup.survives_of_count`: the texts that are shown as they are.
* `Markup.KeepsTag`, `Markup.KeepsTag.filter_inStyle`: the texts that lose backslashes only.
* `Statement.plain`, `Branch.plain`: the texts of steps and branches without markup.
* `forall_count_eq_of_intercalate`: what the joined steps show tells what each of them shows.
* `markup_shows_iff`: **what the listing of a branch shows**.
-/
import Mathlib.Data.List.DropRight
import Branchwise.Proofs.ShownLines

namespace Branchwise

namespace Markup

/-! ### What is shown -/

/-- The text that an event shows. -/
def Event.text : Event → List Char
  | shown text => text
  | tag _ => []

/-- What a markup shows, whether its tags match or not. -/
def shownOf (markup : List Char) : List Char :=
  (eventsOf (segments markup)).flatMap Event.text

lemma eq_of_shownBy {openTags : List (List Char)} {events : List Event} {shown : List Char}
    (h : shownBy openTags events = .ok shown) : shown = events.flatMap Event.text := by
  fun_induction shownBy openTags events generalizing shown with
  | case1 =>
      cases h
      rfl
  | case2 openTags text rest shown' hrest ih =>
      cases h
      rw [List.flatMap_cons, ← ih hrest]
      rfl
  | case3 => cases h
  | case4 openTags inside rest after hafter ih => exact ih h
  | case5 => cases h

/-- **A markup shows the texts of its events**, if it can be shown. -/
lemma visible?_eq_ok_iff {markup text : String} :
    visible? markup = .ok text ↔ IsValid markup ∧ text.toList = shownOf markup.toList := by
  have hone : ∀ text', visible? markup = .ok text' → text'.toList = shownOf markup.toList := by
    intro text' h
    rw [visible?] at h
    cases hshown : shownBy [] (events markup) with
    | error unmatched =>
        rw [hshown] at h
        cases h
    | ok shown =>
        rw [hshown] at h
        cases h
        rw [String.toList_ofList]
        exact eq_of_shownBy hshown
  constructor
  · exact fun h => ⟨⟨text, h⟩, hone text h⟩
  · rintro ⟨⟨text', h⟩, htext⟩
    rwa [String.toList_inj.mp (htext.trans (hone text' h).symm)]

/-! ### Pieces -/

/-- The piece shows the text and has the tags, whatever follows it. -/
structure Renders (piece : String) (text : List Char) (ts : List (List Char)) : Prop where
  shown (rest : List Char) : shownOf (piece.toList ++ rest) = text ++ shownOf rest
  tags_eq (rest : List Char) : tags (piece.toList ++ rest) = ts ++ tags rest

namespace Renders

variable {piece piece' : String} {text text' : List Char} {ts ts' : List (List Char)}

lemma of_segments {parts : List Segment} (hlast : parts.getLast? ≠ some (.char '\\'))
    (h : ∀ rest, segments (piece.toList ++ rest) = parts ++ segments rest) :
    Renders piece ((eventsOf parts).flatMap Event.text) (parts.filterMap Segment.obeyed?) where
  shown rest := by
    rw [shownOf, h, eventsOf_append fun hslash => absurd hslash hlast, List.flatMap_append]
    rfl
  tags_eq rest := by
    rw [tags, h, List.filterMap_append]
    rfl

lemma append (h : Renders piece text ts) (h' : Renders piece' text' ts') :
    Renders (piece ++ piece') (text ++ text') (ts ++ ts') where
  shown rest := by
    rw [String.toList_append, List.append_assoc, h.shown, h'.shown, List.append_assoc]
  tags_eq rest := by
    rw [String.toList_append, List.append_assoc, h.tags_eq, h'.tags_eq, List.append_assoc]

lemma nil : Renders "" [] [] := ⟨fun _ => rfl, fun _ => rfl⟩

lemma joinWith {sep : String} (hsep : Renders sep text ts) {α : Type} {piece : α → String}
    {shown : α → List Char} {tagged : α → List (List Char)} {items : List α}
    (h : ∀ a ∈ items, Renders (piece a) (shown a) (tagged a)) :
    Renders (Text.joinWith sep (items.map piece)) (text.intercalate (items.map shown))
      (ts.intercalate (items.map tagged)) := by
  induction items with
  | nil => exact nil
  | cons a items ih =>
      obtain ⟨ha, hitems⟩ := List.forall_mem_cons.mp h
      cases items with
      | nil => simpa [Text.joinWith] using ha
      | cons b items =>
          have hrest := (ha.append hsep).append (ih hitems)
          simp only [Text.joinWith, List.map_cons] at hrest ⊢
          rwa [String.intercalate_cons_cons, List.intercalate_cons_cons,
            List.intercalate_cons_cons]

end Renders

/-- A piece of whole parts shows the same, whatever follows it. -/
lemma HasTags.renders {piece : String} {ts : List (List Char)} (h : HasTags piece ts) :
    Renders piece (shownOf piece.toList) ts := by
  have hlast : (segments piece.toList).getLast? ≠ some (.char '\\') := by
    intro hlast
    have hwhole := List.all_eq_true.mp h.whole _ (List.mem_of_getLast? hlast)
    exact absurd hwhole (by decide)
  have hrenders := Renders.of_segments hlast h.segments_append
  rwa [show (segments piece.toList).filterMap Segment.obeyed? = ts from h.tags_eq] at hrenders

/-! ### Escaped texts in a style -/

/-- The number of backslashes at the end of a text. -/
def trailing (text : List Char) : Nat :=
  (text.rtakeWhile (· == '\\')).length

/-- What is shown of an escaped text with a closing tag behind it. Of more than one backslash at
its end, half are shown, and an odd number of them makes the tag a plain text. -/
def inStyle (text : List Char) : List Char :=
  seen (segments (text.rdropWhile (· == '\\'))) ++
    List.replicate (closed (trailing text) / 2) '\\' ++
      if closed (trailing text) % 2 = 1 then ['[', '/', ']'] else []

/-- The closing tag behind an escaped text, unless it is a plain text. -/
def closingTags (text : List Char) : List (List Char) :=
  if closed (trailing text) % 2 = 1 then [] else [['/']]

section Body

variable {body : List Char} (hbody : ¬ ['\\'] <:+ body) (k : Nat)

include hbody

lemma rdropWhile_append_backslashes :
    (body ++ List.replicate k '\\').rdropWhile (· == '\\') = body := by
  induction k with
  | zero =>
      rw [List.replicate_zero, List.append_nil, List.rdropWhile_eq_self_iff]
      intro hne hlast
      refine hbody (List.singleton_suffix_iff_getLast?_eq_some.mpr ?_)
      rw [List.getLast?_eq_some_getLast hne, eq_of_beq hlast]
  | succ k ih =>
      rw [List.replicate_succ', ← List.append_assoc, List.rdropWhile_concat_pos _ _ _ rfl, ih]

lemma trailing_append : trailing (body ++ List.replicate k '\\') = k := by
  have hwhole : (body ++ List.replicate k '\\').rdropWhile (· == '\\') ++
      (body ++ List.replicate k '\\').rtakeWhile (· == '\\') = body ++ List.replicate k '\\' :=
    List.rdropWhile_append_rtakeWhile
  rw [rdropWhile_append_backslashes hbody] at hwhole
  rw [trailing, List.append_cancel_left hwhole, List.length_replicate]

lemma inStyle_append : inStyle (body ++ List.replicate k '\\') =
    seen (segments body) ++ List.replicate (closed k / 2) '\\' ++
      if closed k % 2 = 1 then ['[', '/', ']'] else [] := by
  rw [inStyle, rdropWhile_append_backslashes hbody, trailing_append hbody]

/-- The parts of an escaped text and of the closing tag behind it, whatever follows. -/
lemma segments_escape_append {text : String} (htext : text.toList = body ++ List.replicate k '\\')
    (rest : List Char) :
    segments ((escape text ++ "[/]").toList ++ rest) =
      (segments body).map (Segment.withBackslashes raised) ++ [.tag (closed k) ['/']] ++
        segments rest := by
  have hslash : IsInside ['/'] := ⟨⟨'/', [], rfl, rfl⟩, by decide, by decide⟩
  have hparts := (parts_segments body).written le_raised hbody
    (isApart_backslashes (closed k) (isApart_opening (['/'] ++ ']' :: rest)))
    (.tag (closed k) hslash (parts_segments rest))
  have hmarkup : (escape text ++ "[/]").toList ++ rest =
      (segments body).flatMap (Segment.written raised) ++
        (List.replicate (closed k) '\\' ++ '[' :: (['/'] ++ ']' :: rest)) := by
    rw [String.toList_append, toList_escape hbody k htext]
    simp
  rw [hmarkup, hparts.segments_eq, List.append_assoc]
  rfl

end Body

lemma seen_eq_flatMap (parts : List Segment) :
    seen parts = (eventsOf (parts.map (Segment.withBackslashes raised))).flatMap Event.text := by
  obtain ⟨texts, hevents, hseen⟩ := exists_eventsOf_raised parts
  rw [hevents, ← hseen, List.flatMap_map, List.flatten_eq_flatMap]
  rfl

/-- **An escaped text with a closing tag behind it**, whatever follows. -/
lemma renders_escape (text : String) :
    Renders (escape text ++ "[/]") (inStyle text.toList) (closingTags text.toList) := by
  obtain ⟨body, k, htext, hbody⟩ := exists_eq_append_backslashes text.toList
  have hrenders := Renders.of_segments (by simp) (segments_escape_append hbody k htext)
  rw [eventsOf_append fun _ => by simp, List.flatMap_append, ← seen_eq_flatMap,
    List.filterMap_append, filterMap_obeyed?_raised, List.nil_append] at hrenders
  rw [htext, inStyle_append hbody, closingTags, trailing_append hbody]
  by_cases hodd : closed k % 2 = 1
  · rw [eventsOf, if_pos hodd,
      List.filterMap_cons_none (Segment.obeyed?_of_odd hodd _)] at hrenders
    rw [if_pos hodd, if_pos hodd]
    simpa [eventsOf, Event.text] using hrenders
  · rw [eventsOf, if_neg hodd,
      List.filterMap_cons_some (Segment.obeyed?_of_even hodd _)] at hrenders
    rw [if_neg hodd, if_neg hodd]
    simpa [eventsOf, Event.text] using hrenders

/-! ### Texts that are shown as they are -/

/-- A backslash directly before a bracket stands before a tag. -/
def KeepsBrackets (text : List Char) : Prop :=
  ∀ rest, '\\' :: '[' :: rest <:+ text → (tag? ('[' :: rest)).isSome = true

lemma keepsBrackets_nil : KeepsBrackets [] := by
  intro rest hrest
  cases List.suffix_nil.mp hrest

lemma keepsBrackets_cons {c : Char} {cs : List Char} : KeepsBrackets (c :: cs) ↔
    (c = '\\' → cs.head? = some '[' → (tag? cs).isSome = true) ∧ KeepsBrackets cs := by
  constructor
  · refine fun h => ⟨?_, fun rest hrest => h rest (hrest.trans (List.suffix_cons c cs))⟩
    rintro rfl hhead
    obtain ⟨rest, rfl⟩ : ∃ rest, cs = '[' :: rest := by
      cases cs with
      | nil => cases hhead
      | cons d ds => exact ⟨ds, by simpa using hhead⟩
    exact h rest List.suffix_rfl
  · rintro ⟨hhead, hcs⟩ rest hrest
    rcases List.suffix_cons_iff.mp hrest with heq | hrest
    · obtain ⟨rfl, rfl⟩ := List.cons.inj heq
      exact hhead rfl rfl
    · exact hcs rest hrest

/-- Nothing is lost within a tag. -/
lemma keepsBrackets_closing {inside : List Char} (h : '[' ∉ inside) (rest : List Char) :
    KeepsBrackets (inside ++ ']' :: rest) ↔ KeepsBrackets rest := by
  induction inside with
  | nil =>
      rw [List.nil_append, keepsBrackets_cons, and_iff_right]
      intro hc
      cases hc
  | cons c inside ih =>
      rw [List.mem_cons, not_or] at h
      rw [List.cons_append, keepsBrackets_cons, ih h.2, and_iff_right]
      intro _ hhead
      cases inside with
      | nil => simp at hhead
      | cons d inside =>
          obtain rfl : d = '[' := by simpa using hhead
          exact absurd List.mem_cons_self h.2

lemma keepsBrackets_tag (backslashes : Nat) {inside : List Char} (h : IsInside inside)
    (rest : List Char) :
    KeepsBrackets (List.replicate backslashes '\\' ++ '[' :: (inside ++ ']' :: rest)) ↔
      KeepsBrackets rest := by
  induction backslashes with
  | zero =>
      rw [List.replicate_zero, List.nil_append, keepsBrackets_cons,
        keepsBrackets_closing h.opening, and_iff_right]
      intro hc
      cases hc
  | succ n ih =>
      rw [List.replicate_succ, List.cons_append, keepsBrackets_cons, ih, and_iff_right]
      intro _ hhead
      cases n with
      | zero =>
          rw [List.replicate_zero, List.nil_append, tag?_eq_some_iff.mpr ⟨h, rfl⟩]
          rfl
      | succ n => simp [List.replicate_succ] at hhead

/-- **What is seen of a text is the text**, unless a backslash stands before a bracket that opens
no tag. -/
lemma seen_eq_iff {text : List Char} {parts : List Segment} (h : Parts text parts) :
    seen parts = text ↔ KeepsBrackets text := by
  fun_induction seen parts generalizing text with
  | case1 =>
      cases h
      exact iff_of_true rfl keepsBrackets_nil
  | case2 rest ih =>
      -- the backslash is dropped
      obtain _ | ⟨-, hbracket⟩ := h
      obtain _ | ⟨htag, -⟩ := hbracket
      refine iff_of_false (by simp) fun hkeeps => ?_
      have hsome := hkeeps _ List.suffix_rfl
      rw [List.dropWhile_cons_of_neg (by decide)] at htag
      rw [htag] at hsome
      cases hsome
  | case3 c rest hne ih =>
      obtain _ | ⟨htag, hrest⟩ := h
      rw [List.cons.injEq, and_iff_right rfl, ih hrest, keepsBrackets_cons, and_iff_right]
      rintro rfl hhead
      -- a bracket behind the backslash would be a part of its own, or a tag
      cases hrest with
      | nil => cases hhead
      | char htag' _ =>
          obtain rfl := Option.some.inj hhead
          exact absurd rfl (hne _ rfl)
      | tag n hinside _ =>
          rw [List.dropWhile_cons_of_pos (by decide), dropWhile_backslashes _ (by decide),
            tag?_eq_some_iff.mpr ⟨hinside, rfl⟩] at htag
          cases htag
  | case4 n inside rest ih =>
      obtain _ | _ | ⟨-, hinside, hrest⟩ := h
      rw [keepsBrackets_tag n hinside, ← ih hrest]
      simp

/-- A text that is shown as it is, in a style. -/
structure Survives (text : List Char) : Prop where
  brackets : KeepsBrackets text
  ending : trailing text ≤ 1

lemma seen_sublist (parts : List Segment) :
    (seen parts).Sublist (parts.flatMap (Segment.written id)) := by
  fun_induction seen parts with
  | case1 => exact List.Sublist.slnil
  | case2 rest ih => exact (ih.cons_cons '[').cons '\\'
  | case3 c rest _ ih => exact ih.cons_cons c
  | case4 backslashes inside rest ih =>
      rw [List.flatMap_cons, Segment.written, List.append_assoc, List.cons_append,
        List.append_assoc]
      exact (((ih.cons_cons ']').append_left inside).cons_cons '[').append_left _

lemma seen_segments_sublist (text : List Char) : (seen (segments text)).Sublist text := by
  have hsublist := seen_sublist (segments text)
  rwa [(parts_segments text).flatMap_written_id] at hsublist

/-- All characters but backslashes are seen. -/
lemma filter_seen_segments (text : List Char) :
    (seen (segments text)).filter (· != '\\') = text.filter (· != '\\') := by
  rw [filter_seen, (parts_segments text).flatMap_written_id]

/-- What is seen of a text is the text if no backslash is lost. -/
lemma seen_segments_eq {text : List Char}
    (h : (seen (segments text)).count '\\' = text.count '\\') : seen (segments text) = text := by
  have hperm : (seen (segments text)).Perm text := by
    rw [List.perm_iff_count]
    intro c
    by_cases hc : c = '\\'
    · rw [hc, h]
    · have hcount : ∀ cs : List Char, (cs.filter (· != '\\')).count c = cs.count c :=
        fun cs => List.count_filter (by simpa using hc)
      rw [← hcount, filter_seen_segments, hcount]
  exact (seen_segments_sublist text).eq_of_length hperm.length_eq

lemma seen_segments_append {body : List Char} (hbody : ¬ ['\\'] <:+ body) (k : Nat) :
    seen (segments (body ++ List.replicate k '\\')) =
      seen (segments body) ++ List.replicate k '\\' := by
  have hslashes : seen (List.replicate k (.char '\\')) = List.replicate k '\\' := by
    rw [seen_eq_iff (parts_backslashes k)]
    intro rest hrest
    have hmem := hrest.subset (List.mem_cons_of_mem _ List.mem_cons_self)
    exact absurd (List.eq_of_mem_replicate hmem) (by decide)
  rw [(parts_append_backslashes hbody k).segments_eq, seen_eq_flatMap, List.map_append,
    eventsOf_append, List.flatMap_append, ← seen_eq_flatMap, ← seen_eq_flatMap, hslashes]
  rintro -
  cases k <;> simp [List.replicate_succ, Segment.withBackslashes]

lemma inStyle_eq_seen {text : List Char} (h : trailing text ≤ 1) :
    inStyle text = seen (segments text) := by
  obtain ⟨body, k, rfl, hbody⟩ := exists_eq_append_backslashes text
  rw [trailing_append hbody] at h
  have heven : closed k % 2 = 0 ∧ closed k / 2 = k := by
    rw [closed]
    split <;> omega
  rw [inStyle_append hbody, seen_segments_append hbody, heven.1, heven.2,
    if_neg Nat.zero_ne_one, List.append_nil]

/-- A text that survives is shown as it is. -/
lemma Survives.inStyle_eq {text : List Char} (h : Survives text) : inStyle text = text := by
  rw [inStyle_eq_seen h.ending]
  exact (seen_eq_iff (parts_segments text)).mpr h.brackets

lemma count_backslash_inStyle {body : List Char} (hbody : ¬ ['\\'] <:+ body) (k : Nat) :
    (inStyle (body ++ List.replicate k '\\')).count '\\' =
      (seen (segments body)).count '\\' + closed k / 2 := by
  rw [inStyle_append hbody, List.count_append, List.count_append, List.count_replicate_self]
  split <;> rfl

/-- No backslash is added, and of more than one at the end, some are lost. -/
lemma count_backslash_inStyle_le (text : List Char) :
    (inStyle text).count '\\' ≤ text.count '\\' ∧
      ((inStyle text).count '\\' = text.count '\\' → trailing text ≤ 1) := by
  obtain ⟨body, k, rfl, hbody⟩ := exists_eq_append_backslashes text
  have hseen := (seen_segments_sublist body).count_le '\\'
  have hhalf : closed k / 2 ≤ k ∧ (closed k / 2 = k → k ≤ 1) := by
    rw [closed]
    split <;> omega
  rw [trailing_append hbody, count_backslash_inStyle hbody, List.count_append,
    List.count_replicate_self]
  omega

/-- A text survives if no backslash is lost. -/
lemma survives_of_count {text : List Char}
    (h : (inStyle text).count '\\' = text.count '\\') : Survives text := by
  have hending := (count_backslash_inStyle_le text).2 h
  rw [inStyle_eq_seen hending] at h
  exact ⟨(seen_eq_iff (parts_segments text)).mp (seen_segments_eq h), hending⟩

instance (text : List Char) : Decidable (KeepsBrackets text) :=
  decidable_of_iff _ (seen_eq_iff (parts_segments text))

instance (text : List Char) : Decidable (Survives text) :=
  decidable_of_iff (KeepsBrackets text ∧ trailing text ≤ 1)
    ⟨fun h => ⟨h.1, h.2⟩, fun h => ⟨h.brackets, h.ending⟩⟩

/-- The text ends with backslashes that leave the tag behind it a tag: a single one, which is
written twice, or an even number. -/
def KeepsTag (text : List Char) : Prop :=
  trailing text ≤ 1 ∨ trailing text % 2 = 0

instance (text : List Char) : Decidable (KeepsTag text) :=
  inferInstanceAs (Decidable (_ ∨ _))

lemma closed_mod_two (k : Nat) : closed k % 2 = 1 ↔ ¬ (k ≤ 1 ∨ k % 2 = 0) := by
  rw [closed]
  split <;> omega

lemma KeepsTag.closingTags_eq {text : List Char} (h : KeepsTag text) :
    closingTags text = [['/']] :=
  if_neg fun hodd => (closed_mod_two _).mp hodd h

lemma closingTags_eq_nil {text : List Char} (h : ¬ KeepsTag text) : closingTags text = [] :=
  if_pos ((closed_mod_two _).mpr h)

/-- **Only backslashes are lost** of a text that keeps the tag behind it. -/
lemma KeepsTag.filter_inStyle {text : List Char} (h : KeepsTag text) :
    (inStyle text).filter (· != '\\') = text.filter (· != '\\') := by
  obtain ⟨body, k, rfl, hbody⟩ := exists_eq_append_backslashes text
  rw [KeepsTag, trailing_append hbody] at h
  have hslashes (n : Nat) : (List.replicate n '\\').filter (· != '\\') = [] :=
    List.filter_replicate_of_neg (by decide)
  rw [inStyle_append hbody, if_neg fun hodd => (closed_mod_two k).mp hodd h, List.append_nil,
    List.filter_append, List.filter_append, filter_seen_segments, hslashes, hslashes]

/-- What the reader of a markup takes for a tag. -/
def Event.tag? : Event → Option (List Char)
  | shown _ => none
  | tag inside => some inside

lemma filterMap_tag?_eventsOf (parts : List Segment) :
    (eventsOf parts).filterMap Event.tag? = parts.filterMap Segment.obeyed? := by
  fun_induction eventsOf parts with
  | case1 => rfl
  | case2 rest ih => exact ih
  | case3 c rest _ ih => exact ih
  | case4 backslashes inside rest ih =>
      by_cases hodd : backslashes % 2 = 1
      · rw [if_pos hodd, List.filterMap_cons_none (Segment.obeyed?_of_odd hodd inside), ← ih]
        rfl
      · rw [if_neg hodd, List.filterMap_cons_some (Segment.obeyed?_of_even hodd inside), ← ih]
        rfl

lemma filterMap_tag?_events (markup : String) :
    (events markup).filterMap Event.tag? = tags markup.toList :=
  filterMap_tag?_eventsOf _

end Markup

/-! ### Joined lists -/

/-- If no item gives more of a member in one list than in the other, and the joined lists have
equally many, then each item gives equally many. -/
lemma forall_count_eq_of_intercalate {α β : Type} [BEq β] {x : β} {sep : List β}
    {f g : α → List β} {items : List α} (hle : ∀ a ∈ items, (f a).count x ≤ (g a).count x)
    (h : (sep.intercalate (items.map f)).count x = (sep.intercalate (items.map g)).count x) :
    ∀ a ∈ items, (f a).count x = (g a).count x := by
  have hall : (sep.intercalate (items.map f)).count x ≤ (sep.intercalate (items.map g)).count x ∧
      ((sep.intercalate (items.map f)).count x = (sep.intercalate (items.map g)).count x →
        ∀ a ∈ items, (f a).count x = (g a).count x) := by
    clear h
    induction items with
    | nil => simp
    | cons a items ih =>
        obtain ⟨ha, hitems⟩ := List.forall_mem_cons.mp hle
        obtain ⟨hrest, hrest'⟩ := ih hitems
        cases items with
        | nil => simpa using ha
        | cons b items =>
            rw [List.forall_mem_cons]
            simp only [List.map_cons, List.intercalate_cons_cons, List.count_append]
              at hrest hrest' ⊢
            refine ⟨by omega, fun heq => ⟨by omega, hrest' (by omega)⟩⟩
  exact hall.2 h

/-! ### Steps and branches -/

/-- A test, cut to its first characters if it is long. -/
def cutTest (test : String) : String :=
  if test.length ≤ 40 then test else String.ofList (test.toList.take 37) ++ "..."

/-- A word, with a blank if a text follows. -/
def withBlank (word text : String) : String :=
  if text = "" then word else word ++ " "

namespace Statement

/-- What stands before the text of a step. -/
def lead (o : Outcome) : Statement → String
  | conditional .. => match o with
    | .success => "if "
    | .failure => "else "
  | guarded _ _ types _ _ => match o with
    | .success => "try"
    | .failure => withBlank "except" (Text.joinWith ", " types)
  | throw exc _ _ => withBlank "raise" (exc.getD "")
  | ret value _ _ => withBlank "return" (value.getD "")
  | other label _ => label

/-- The text of a step. -/
def content (o : Outcome) : Statement → String
  | conditional test _ _ _ _ => cutTest test
  | guarded _ _ types _ _ => match o with
    | .success => ""
    | .failure => Text.joinWith ", " types
  | throw exc _ _ => exc.getD ""
  | ret value _ _ => value.getD ""
  | other _ _ => ""

/-- A step without markup. -/
def plain (o : Outcome) (s : Statement) : String :=
  s.lead o ++ s.content o

/-- The style of a step. -/
def style : Statement → String
  | conditional .. | guarded .. => "yellow"
  | throw .. => "red"
  | ret .. => "green"
  | other .. => "dim"

end Statement

namespace Branch

/-- A branch without markup. -/
def plain (b : Branch) : String :=
  Text.joinWith " → " (b.steps.map (Statement.plain b.outcome))

/-- The tags that are written for a branch. -/
def writtenTags (b : Branch) : List (List Char) :=
  ["dim".toList, ['/']].intercalate (b.steps.map fun s => [s.style.toList, ['/']])

end Branch

lemma shortTest_eq (test : String) : shortTest test = cutTest test := by
  rw [shortTest, cutTest, ← String.length_toList]
  by_cases h : test.toList.length ≤ 40
  · rw [if_pos h, if_neg (by rw [longestTest]; omega)]
  · rw [if_neg h, if_pos (by rw [longestTest]; omega)]
    rfl

open Markup

/-- A text behind a word in a style. -/
lemma renders_styled {opening : String} {word style : List Char}
    (hopening : HasTags opening [style]) (hword : shownOf opening.toList = word) (text : String) :
    Renders (opening ++ escape text ++ "[/]") (word ++ inStyle text.toList)
      (style :: closingTags text.toList) := by
  rw [String.append_assoc, ← hword]
  exact hopening.renders.append (renders_escape text)

/-- A text behind a word in a style, with a blank if there is one. -/
lemma renders_behind {opening word : String} {style : List Char}
    (hopening : HasTags opening [style]) (hword : shownOf opening.toList = word.toList)
    (text : String) :
    Renders (opening ++ behind text ++ "[/]") ((withBlank word text).toList ++ inStyle text.toList)
      (style :: closingTags text.toList) := by
  rw [behind, withBlank]
  by_cases htext : text = ""
  · rw [if_pos htext, if_pos htext, htext]
    exact renders_styled hopening hword ""
  · have hblank : HasTags " " [] := ⟨by decide, by decide⟩
    have hshown : shownOf " ".toList = " ".toList := by decide
    have hrenders := (hopening.renders.append hblank.renders).append (renders_escape text)
    rw [hword, hshown] at hrenders
    rw [if_neg htext, if_neg htext, String.toList_append]
    simpa [String.append_assoc] using hrenders

/-- **What a step shows**, and its tags. -/
lemma Statement.renders_markup {s : Statement} (h : s.shapesPath = true) (o : Outcome) :
    Renders (s.markup o) ((s.lead o).toList ++ inStyle (s.content o).toList)
      (s.style.toList :: closingTags (s.content o).toList) := by
  cases s with
  | conditional test body orelse line label =>
      have hcontent : (conditional test body orelse line label).content o = shortTest test :=
        (shortTest_eq test).symm
      rw [hcontent]
      cases o with
      | success =>
          have htags : HasTags "[yellow]if " ["yellow".toList] := ⟨by decide, by decide⟩
          exact renders_styled htags (by decide : _ = "if ".toList) (shortTest test)
      | failure =>
          have htags : HasTags "[yellow]else " ["yellow".toList] := ⟨by decide, by decide⟩
          exact renders_styled htags (by decide : _ = "else ".toList) (shortTest test)
  | guarded body handlers types line label =>
      cases o with
      | success =>
          have htags : HasTags "[yellow]try" ["yellow".toList] := ⟨by decide, by decide⟩
          exact renders_styled htags (by decide : _ = "try".toList) ""
      | failure =>
          have htags : HasTags "[yellow]except" ["yellow".toList] := ⟨by decide, by decide⟩
          exact renders_behind htags (by decide) (Text.joinWith ", " types)
  | throw exc line label =>
      have htags : HasTags "[red]raise" ["red".toList] := ⟨by decide, by decide⟩
      exact renders_behind htags (by decide) (exc.getD "")
  | ret value line label =>
      have htags : HasTags "[green]return" ["green".toList] := ⟨by decide, by decide⟩
      exact renders_behind htags (by decide) (value.getD "")
  | other label line => cases h

section Branch

variable {b : Branch} (h : ∀ s ∈ b.steps, s.shapesPath = true)

include h

/-- **What a branch shows**, and its tags. -/
lemma Branch.renders_markup :
    Renders b.markup
      (" → ".toList.intercalate (b.steps.map fun s =>
        (s.lead b.outcome).toList ++ inStyle (s.content b.outcome).toList))
      (["dim".toList, ['/']].intercalate (b.steps.map fun s =>
        s.style.toList :: closingTags (s.content b.outcome).toList)) := by
  have harrow : HasTags " [dim]→[/] " ["dim".toList, ['/']] := ⟨by decide, by decide⟩
  have hshown : shownOf " [dim]→[/] ".toList = " → ".toList := by decide
  have hrenders := harrow.renders
  rw [hshown] at hrenders
  exact hrenders.joinWith fun s hs => s.renders_markup (h s hs) b.outcome

/-- The text that is shown, whatever is lost of it. -/
lemma Branch.visible?_markup : visible? b.markup = .ok (Text.joinWith " → " (b.steps.map fun s =>
    s.lead b.outcome ++ String.ofList (inStyle (s.content b.outcome).toList))) := by
  have hshown := (renders_markup h).shown []
  rw [visible?_eq_ok_iff]
  refine ⟨(balanced_markup h).safe.valid, ?_⟩
  rw [List.append_nil] at hshown
  rw [hshown, Text.joinWith, String.toList_intercalate, List.map_map]
  simp [Function.comp_def, shownOf, segments, segmentsFrom, eventsOf]

/-- **A branch shows its plain text** exactly if all its texts survive. -/
lemma Branch.visible?_eq_plain_iff : visible? b.markup = .ok b.plain ↔
    ∀ s ∈ b.steps, Survives (s.content b.outcome).toList := by
  rw [visible?_markup h, Except.ok.injEq, plain]
  constructor
  · intro heq s hs
    have hlists := congrArg String.toList heq
    rw [Text.joinWith, Text.joinWith, String.toList_intercalate, String.toList_intercalate,
      List.map_map, List.map_map] at hlists
    -- no step shows more backslashes than it has, so none shows fewer
    have hcount := forall_count_eq_of_intercalate (x := '\\') (fun s _ => ?_)
      (congrArg (List.count '\\') hlists) s hs
    · simp only [Function.comp_apply, Statement.plain, String.toList_append, String.toList_ofList,
        List.count_append, Nat.add_left_cancel_iff] at hcount
      exact survives_of_count hcount
    · simp only [Function.comp_apply, Statement.plain, String.toList_append, String.toList_ofList,
        List.count_append, Nat.add_le_add_iff_left]
      exact (count_backslash_inStyle_le _).1
  · intro hall
    refine congrArg _ (List.map_congr_left fun s hs => ?_)
    rw [(hall s hs).inStyle_eq, String.ofList_toList]
    rfl

/-- **The tags of a branch** are those that were written exactly if each text keeps the tag behind
it. -/
lemma Branch.tags_eq_writtenTags_iff :
    (events b.markup).filterMap Event.tag? = b.writtenTags ↔
      ∀ s ∈ b.steps, KeepsTag (s.content b.outcome).toList := by
  have htags := (renders_markup h).tags_eq []
  rw [List.append_nil, show tags [] = [] from rfl, List.append_nil] at htags
  rw [filterMap_tag?_events, htags, writtenTags]
  constructor
  · intro heq s hs
    -- no step has more closing tags than were written, so none has fewer
    have hcount := forall_count_eq_of_intercalate (fun s _ => ?_)
      (congrArg (List.count ['/']) heq) s hs
    · by_contra hlost
      rw [closingTags_eq_nil hlost, List.count_cons, List.count_cons] at hcount
      simp at hcount
    · by_cases hkept : KeepsTag (s.content b.outcome).toList
      · rw [hkept.closingTags_eq]
      · rw [closingTags_eq_nil hkept]
        exact ((List.nil_sublist _).cons_cons _).count_le _
  · intro hall
    refine congrArg _ (List.map_congr_left fun s hs => ?_)
    rw [(hall s hs).closingTags_eq]

end Branch

/-! ### The listing of a branch -/

/-- **What the listing of a branch shows.** It can always be shown. It shows the branch without
markup exactly if no text holds a backslash before a bracket that opens no tag, or ends with more
than one backslash. All tags are those that were written, exactly if no text ends with an odd
number of backslashes but one, and then nothing but backslashes is lost. The grammar knows no
emoji codes, so nothing is said of texts that hold one. -/
theorem markup_shows_iff (b : Branch) (h : ∀ s ∈ b.steps, s.shapesPath = true) :
    visible? b.markup = .ok (Text.joinWith " → " (b.steps.map fun s =>
        s.lead b.outcome ++ String.ofList (inStyle (s.content b.outcome).toList))) ∧
      (visible? b.markup = .ok b.plain ↔
        ∀ s ∈ b.steps, Survives (s.content b.outcome).toList) ∧
      ((events b.markup).filterMap Event.tag? = b.writtenTags ↔
        ∀ s ∈ b.steps, KeepsTag (s.content b.outcome).toList) ∧
      ∀ s ∈ b.steps, KeepsTag (s.content b.outcome).toList →
        (inStyle (s.content b.outcome).toList).filter (· != '\\') =
          (s.content b.outcome).toList.filter (· != '\\') :=
  ⟨Branch.visible?_markup h, Branch.visible?_eq_plain_iff h, Branch.tags_eq_writtenTags_iff h,
    fun _ _ hkeeps => hkeeps.filter_inStyle⟩

/-- A branch whose texts have brackets, one of them behind two backslashes. -/
def bracketedBranch : Branch :=
  ⟨.failure, [.conditional "row[0] == '\\\\[a]'" [] [] 2 "If",
    .throw (some "KeyError(row[0])") 3 "Raise"]⟩

/-- It shows its plain text, and has the tags that were written. -/
theorem markup_shows_iff_bracketed :
    (∀ s ∈ bracketedBranch.steps, s.shapesPath = true) ∧
      visible? bracketedBranch.markup =
        .ok "else row[0] == '\\\\[a]' → raise KeyError(row[0])" ∧
      (events bracketedBranch.markup).filterMap Event.tag? = bracketedBranch.writtenTags := by
  have hshapes : ∀ s ∈ bracketedBranch.steps, s.shapesPath = true := by decide
  obtain ⟨-, hplain, htags, -⟩ := markup_shows_iff bracketedBranch hshapes
  exact ⟨hshapes, hplain.mpr (by decide), htags.mpr (by decide)⟩

/-- A backslash before a bracket that opens no tag is lost. -/
theorem markup_drops_backslash :
    visible? (Branch.markup ⟨.success, [.ret (some "'\\\\['") 2 "Return"]⟩) = .ok "return '\\['" ∧
      Branch.plain ⟨.success, [.ret (some "'\\\\['") 2 "Return"]⟩ = "return '\\\\['" := by
  decide

end Branchwise
