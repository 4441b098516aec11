/-
Canonical order and composition, for any classes of marks and any pairs that
compose.

* `isChain_sortMarks`: sorting puts marks into canonical order.
* `foldl_place_swap`: a mark may be given before or behind marks of lower classes.
* `composeStep_cases`: what one step of composition can do.
* `Composed.step`: the invariant of composition: what is composed so far stands
  for the code points taken in.
* `sortMarks_flatMap_compose`: **composition loses nothing**: decomposing and
  sorting what was composed gives the ordered text back.
* `sortMarks_append`, `compose_append`: a starter that joins with nothing keeps
  what stands before it and what stands behind it apart.
-/
import Mathlib.Data.List.Chain
import Mathlib.Tactic.Common
import Branchwise.Text.Compatibility

namespace Branchwise.Text.Compatibility

variable {cls : Nat → Nat} {pair? : Nat → Nat → Option Nat} {inner : Nat → List Nat}

/-! ### The order of marks -/

/-- In canonical order `c` may follow `d`. -/
def Follows (cls : Nat → Nat) (d c : Nat) : Prop :=
  cls c = 0 ∨ cls d ≤ cls c

lemma mem_insertMark {c d : Nat} {ds : List Nat} :
    d ∈ insertMark cls c ds ↔ d = c ∨ d ∈ ds := by
  induction ds with
  | nil => simp [insertMark]
  | cons e ds ih =>
      rw [insertMark]
      split
      · simp only [List.mem_cons, ih]
        exact or_left_comm
      · simp

lemma mem_place {c d : Nat} {done : List Nat} : d ∈ place cls done c ↔ d = c ∨ d ∈ done := by
  rw [place]
  split
  · simp
  · exact mem_insertMark

lemma mem_foldl_place {d : Nat} (cs done : List Nat) :
    d ∈ cs.foldl (place cls) done ↔ d ∈ cs ∨ d ∈ done := by
  induction cs generalizing done with
  | nil => simp
  | cons c cs ih =>
      rw [List.foldl_cons, ih, mem_place, List.mem_cons]
      tauto

lemma mem_sortMarks {d : Nat} {cs : List Nat} : d ∈ sortMarks cls cs ↔ d ∈ cs := by
  simp [sortMarks, mem_foldl_place]

/-- A code point that may follow the last one goes to the end. -/
lemma place_of_follows {done : List Nat} {c : Nat} (h : ∀ d ∈ done.head?, Follows cls d c) :
    place cls done c = c :: done := by
  rw [place]
  split
  · rfl
  · next hclass =>
    cases done with
    | nil => rfl
    | cons d done =>
        have hle := (h d (by simp)).resolve_left hclass
        rw [insertMark, if_neg (by omega)]

lemma head?_insertMark {c : Nat} (ds : List Nat) :
    ∀ e ∈ (insertMark cls c ds).head?, e = c ∨ e ∈ ds.head? := by
  intro e he
  cases ds with
  | nil => simpa [insertMark, eq_comm] using he
  | cons d ds =>
      rw [insertMark] at he
      split at he
      · exact .inr he
      · left
        simpa [eq_comm] using he

lemma isChain_insertMark {c : Nat} {done : List Nat}
    (h : done.IsChain fun c d => Follows cls d c) :
    (insertMark cls c done).IsChain fun c d => Follows cls d c := by
  induction done with
  | nil => simp [insertMark]
  | cons d ds ih =>
      rw [insertMark]
      obtain ⟨hhead, hrest⟩ := List.isChain_cons.mp h
      split
      · next hlt =>
        refine List.isChain_cons.mpr ⟨fun e he => ?_, ih hrest⟩
        rcases head?_insertMark ds e he with rfl | he
        · exact .inr (by omega)
        · exact hhead e he
      · next hle =>
        refine List.isChain_cons.mpr ⟨fun e he => ?_, h⟩
        obtain rfl : d = e := by simpa using he
        exact .inr (by omega)

lemma isChain_place {c : Nat} {done : List Nat} (h : done.IsChain fun c d => Follows cls d c) :
    (place cls done c).IsChain fun c d => Follows cls d c := by
  rw [place]
  split
  · next hclass => exact List.isChain_cons.mpr ⟨fun e _ => .inl hclass, h⟩
  · exact isChain_insertMark h

/-- Sorting puts a text into canonical order. -/
lemma isChain_sortMarks (cs : List Nat) : (sortMarks cls cs).IsChain (Follows cls) := by
  rw [sortMarks, List.isChain_reverse]
  suffices h : ∀ done : List Nat, (done.IsChain fun c d => Follows cls d c) →
      (cs.foldl (place cls) done).IsChain fun c d => Follows cls d c from h [] List.isChain_nil
  induction cs with
  | nil => exact fun done h => h
  | cons c cs ih => exact fun done h => ih _ (isChain_place h)

/-- Two marks of different classes may be inserted in either order. -/
lemma insertMark_comm {c d : Nat} (h : cls c ≠ cls d) (done : List Nat) :
    insertMark cls d (insertMark cls c done) = insertMark cls c (insertMark cls d done) := by
  induction done with
  | nil =>
      simp only [insertMark]
      split <;> split <;> first | rfl | omega
  | cons e done ih =>
      by_cases hc : cls c < cls e <;> by_cases hd : cls d < cls e
      · simp only [insertMark, if_pos hc, if_pos hd, ih]
      · have hlt : cls c < cls d := by omega
        simp only [insertMark, if_pos hc, if_neg hd, if_pos hlt]
      · have hlt : cls d < cls c := by omega
        simp only [insertMark, if_neg hc, if_pos hd, if_pos hlt]
      · simp only [insertMark, if_neg hc, if_neg hd]
        split <;> split <;> first | rfl | omega

/-- A mark may be given before or behind marks of lower classes. -/
lemma foldl_place_swap {c : Nat} {ms : List Nat} (done : List Nat)
    (h : ∀ m ∈ ms, cls m ≠ 0 ∧ cls m < cls c) :
    (c :: ms).foldl (place cls) done = (ms ++ [c]).foldl (place cls) done := by
  induction ms generalizing done with
  | nil => rfl
  | cons m ms ih =>
      obtain ⟨hm, hlt⟩ := h m List.mem_cons_self
      have hswap : place cls (place cls done c) m = place cls (place cls done m) c := by
        simp only [place, if_neg hm, if_neg (show cls c ≠ 0 by omega)]
        exact insertMark_comm (by omega) done
      rw [List.foldl_cons, List.foldl_cons, hswap]
      exact ih (place cls done m) fun e he => h e (List.mem_cons_of_mem m he)

/-! ### One step of composition -/

/-- What one step of composition can do: the last starter is joined with what comes
next, or that stands by itself. -/
lemma composeStep_cases (cls : Nat → Nat) (pair? : Nat → Nat → Option Nat) (s : Composing)
    (c : Nat) :
    (∃ a j, s.starter = some a ∧ pair? a c = some j ∧ (∀ d ∈ s.after.head?, cls d < cls c) ∧
      composeStep cls pair? s c = { s with starter := some j }) ∨
    composeStep cls pair? s c = s.append cls c := by
  rw [composeStep]
  split
  · next j hjoin =>
    obtain ⟨a, ha, hjoin⟩ := Option.bind_eq_some_iff.mp hjoin
    split at hjoin
    · next hfree =>
      refine .inl ⟨a, j, ha, hjoin, fun d hd => ?_, rfl⟩
      rw [Option.mem_def] at hd
      simpa [hd] using hfree
    · cases hjoin
  · exact .inr rfl

lemma text_append (s : Composing) (c : Nat) : (s.append cls c).text = s.text ++ [c] := by
  rw [Composing.append]
  split <;> simp [Composing.text]

/-- The invariant of composition: the text that has been built stands for the code
points taken in, which are given reversed, and the marks behind the last starter
are basic, in canonical order, and of no higher class than the last code point. -/
structure Composed (cls : Nat → Nat) (inner : Nat → List Nat) (s : Composing)
    (taken : List Nat) : Prop where
  stands : (s.text.flatMap inner).foldl (place cls) [] = taken
  basic : ∀ d ∈ s.after, inner d = [d]
  marks : ∀ d ∈ s.after, cls d ≠ 0 ∧ ∃ l ∈ taken.head?, cls d ≤ cls l
  order : s.after.Pairwise fun d e => cls e ≤ cls d

lemma composed_empty : Composed cls inner ⟨[], none, []⟩ [] :=
  ⟨rfl, by simp, by simp, .nil⟩

/-- The step that lets a code point stand by itself keeps the invariant. -/
lemma Composed.append {s : Composing} {taken : List Nat} (h : Composed cls inner s taken)
    {c : Nat} (hbasic : inner c = [c]) (hfollows : ∀ l ∈ taken.head?, Follows cls l c) :
    Composed cls inner (s.append cls c) (c :: taken) := by
  have hstands : ((s.append cls c).text.flatMap inner).foldl (place cls) [] = c :: taken := by
    rw [text_append, List.flatMap_append, List.foldl_append, h.stands, List.flatMap_singleton,
      hbasic, List.foldl_cons, place_of_follows hfollows, List.foldl_nil]
  by_cases hc : cls c = 0
  · have hafter : (s.append cls c).after = [] := by rw [Composing.append, if_pos hc]
    exact ⟨hstands, by simp [hafter], by simp [hafter], by simp [hafter]⟩
  · have hafter : (s.append cls c).after = c :: s.after := by rw [Composing.append, if_neg hc]
    have hle : ∀ d ∈ s.after, cls d ≤ cls c := by
      intro d hd
      obtain ⟨-, l, hl, hdl⟩ := h.marks d hd
      have := (hfollows l hl).resolve_left hc
      omega
    refine ⟨hstands, ?_, ?_, ?_⟩
    · intro d hd
      rw [hafter, List.mem_cons] at hd
      rcases hd with rfl | hd
      · exact hbasic
      · exact h.basic d hd
    · intro d hd
      rw [hafter, List.mem_cons] at hd
      rcases hd with rfl | hd
      · exact ⟨hc, d, rfl, Nat.le_refl _⟩
      · exact ⟨(h.marks d hd).1, c, rfl, hle d hd⟩
    · rw [hafter]
      exact List.pairwise_cons.mpr ⟨hle, h.order⟩

/-- The step that joins a code point with the last starter keeps the invariant: the
code point moves before the marks in between, which are of lower classes. -/
lemma Composed.join {s : Composing} {taken : List Nat} (h : Composed cls inner s taken)
    {a c j : Nat} (ha : s.starter = some a) (hj : inner j = inner a ++ [c])
    (hfree : ∀ d ∈ s.after.head?, cls d < cls c)
    (hfollows : ∀ l ∈ taken.head?, Follows cls l c) :
    Composed cls inner { s with starter := some j } (c :: taken) := by
  have hlt : ∀ d ∈ s.after, cls d < cls c := by
    intro d hd
    cases hafter : s.after with
    | nil => simp [hafter] at hd
    | cons e after =>
        have horder := h.order
        rw [hafter] at hd horder
        have he := hfree e (by simp [hafter])
        rcases List.mem_cons.mp hd with rfl | hd
        · exact he
        · have := (List.pairwise_cons.mp horder).1 d hd
          omega
  have hmarks : s.after.reverse.flatMap inner = s.after.reverse := by
    rw [List.flatMap_congr fun d hd => h.basic d (List.mem_reverse.mp hd),
      List.flatMap_singleton']
  have hbefore : s.text.flatMap inner =
      (s.before.reverse.flatMap inner ++ inner a) ++ s.after.reverse := by
    simp [Composing.text, ha, hmarks]
  have hnow : (Composing.text { s with starter := some j }).flatMap inner =
      (s.before.reverse.flatMap inner ++ inner a) ++ c :: s.after.reverse := by
    simp [Composing.text, hj, hmarks]
  refine ⟨?_, h.basic, fun d hd => ⟨(h.marks d hd).1, c, rfl, (hlt d hd).le⟩, h.order⟩
  rw [hnow, List.foldl_append, foldl_place_swap, ← List.foldl_append, ← List.append_assoc,
    ← hbefore, List.foldl_append, h.stands, List.foldl_cons, place_of_follows hfollows,
    List.foldl_nil]
  intro d hd
  rw [List.mem_reverse] at hd
  exact ⟨(h.marks d hd).1, hlt d hd⟩

/-- One step of composition keeps the invariant. -/
lemma Composed.step (hpairs : ∀ a b j, pair? a b = some j → inner j = inner a ++ inner b)
    {s : Composing} {taken : List Nat} (h : Composed cls inner s taken) {c : Nat}
    (hbasic : inner c = [c]) (hfollows : ∀ l ∈ taken.head?, Follows cls l c) :
    Composed cls inner (composeStep cls pair? s c) (c :: taken) := by
  rcases composeStep_cases cls pair? s c with ⟨a, j, ha, hj, hfree, hs⟩ | hs
  · rw [hs]
    exact h.join ha (by rw [hpairs a c j hj, hbasic]) hfree hfollows
  · rw [hs]
    exact h.append hbasic hfollows

/-- A whole run of composition keeps the invariant. -/
lemma Composed.foldl (hpairs : ∀ a b j, pair? a b = some j → inner j = inner a ++ inner b)
    {cs : List Nat} (hbasic : ∀ c ∈ cs, inner c = [c]) {s : Composing} {taken : List Nat}
    (h : Composed cls inner s taken) (hchain : (taken.reverse ++ cs).IsChain (Follows cls)) :
    Composed cls inner (cs.foldl (composeStep cls pair?) s) (cs.reverse ++ taken) := by
  induction cs generalizing s taken with
  | nil => exact h
  | cons c cs ih =>
      have hfollows : ∀ l ∈ taken.head?, Follows cls l c := by
        intro l hl
        obtain ⟨-, -, hjoint⟩ := List.isChain_append.mp hchain
        exact hjoint l (by simpa using hl) c (by simp)
      have hstep := h.step hpairs (hbasic c List.mem_cons_self) hfollows
      have hrun := ih (fun d hd => hbasic d (List.mem_cons_of_mem c hd)) hstep
        (by simpa using hchain)
      simpa using hrun

/-- **Composition loses nothing**: decomposing and sorting what was composed from a
text in canonical order gives that text back. -/
theorem sortMarks_flatMap_compose
    (hpairs : ∀ a b j, pair? a b = some j → inner j = inner a ++ inner b) {cs : List Nat}
    (hbasic : ∀ c ∈ cs, inner c = [c]) (hchain : cs.IsChain (Follows cls)) :
    sortMarks cls ((compose cls pair? cs).flatMap inner) = cs := by
  have h := (@composed_empty cls inner).foldl hpairs hbasic (by simpa using hchain)
  rw [sortMarks, compose, h.stands]
  simp

/-- What holds of the code points taken in, and of what two of them compose to, holds
of the text that is built. -/
lemma forall_mem_compose {P : Nat → Prop} (hpairs : ∀ a b j, pair? a b = some j → P j)
    {cs : List Nat} (h : ∀ c ∈ cs, P c) : ∀ d ∈ compose cls pair? cs, P d := by
  suffices hrun : ∀ s : Composing, (∀ d ∈ s.text, P d) →
      ∀ d ∈ (cs.foldl (composeStep cls pair?) s).text, P d from hrun _ (by simp [Composing.text])
  induction cs with
  | nil => exact fun s hs => hs
  | cons c cs ih =>
      intro s hs
      refine ih (fun d hd => h d (List.mem_cons_of_mem c hd)) _ ?_
      rcases composeStep_cases cls pair? s c with ⟨a, j, ha, hj, -, hstep⟩ | hstep
      · intro d hd
        simp only [hstep, Composing.text, List.mem_reverse, List.mem_append, Option.toList_some,
          List.mem_singleton] at hd hs
        rcases hd with (hd | rfl) | hd
        · exact hs d (.inl (.inl hd))
        · exact hpairs a c d hj
        · exact hs d (.inr hd)
      · intro d hd
        rw [hstep, text_append, List.mem_append, List.mem_singleton] at hd
        rcases hd with hd | rfl
        · exact hs d hd
        · exact h d List.mem_cons_self

/-- What holds of the first code point, and of what composes from one it holds of,
holds of the first one of the text that is built. -/
lemma exists_compose_eq_cons {P : Nat → Prop} (hpairs : ∀ a b j, pair? a b = some j → P a → P j)
    {c : Nat} (hc : P c) (cs : List Nat) :
    ∃ d ds, compose cls pair? (c :: cs) = d :: ds ∧ P d := by
  suffices hrun : ∀ s : Composing, (∃ d ds, s.text = d :: ds ∧ P d) →
      ∃ d ds, (cs.foldl (composeStep cls pair?) s).text = d :: ds ∧ P d by
    refine hrun _ ⟨c, [], ?_, hc⟩
    have hfirst : composeStep cls pair? ⟨[], none, []⟩ c = Composing.append cls ⟨[], none, []⟩ c :=
      rfl
    rw [hfirst, text_append]
    rfl
  induction cs with
  | nil => exact fun s hs => hs
  | cons c cs ih =>
      rintro s ⟨d, ds, hs, hd⟩
      refine ih _ ?_
      rcases composeStep_cases cls pair? s c with ⟨a, j, ha, hj, -, hstep⟩ | hstep
      · have hold : s.text = s.before.reverse ++ a :: s.after.reverse := by
          simp [Composing.text, ha]
        have hnew : (composeStep cls pair? s c).text =
            s.before.reverse ++ j :: s.after.reverse := by
          simp [hstep, Composing.text]
        rw [hold] at hs
        rw [hnew]
        cases hbefore : s.before.reverse with
        | nil =>
            rw [hbefore, List.nil_append, List.cons.injEq] at hs
            exact ⟨j, _, rfl, hpairs a c j hj (hs.1 ▸ hd)⟩
        | cons e es =>
            rw [hbefore, List.cons_append, List.cons.injEq] at hs
            exact ⟨e, _, rfl, hs.1 ▸ hd⟩
      · exact ⟨d, ds ++ [c], by rw [hstep, text_append, hs, List.cons_append], hd⟩

/-! ### Texts that stay as they are -/

/-- Starters are in canonical order. -/
lemma sortMarks_of_starters {cs : List Nat} (h : ∀ c ∈ cs, cls c = 0) : sortMarks cls cs = cs := by
  suffices hrun : ∀ done, cs.foldl (place cls) done = cs.reverse ++ done by
    rw [sortMarks, hrun]
    simp
  induction cs with
  | nil => exact fun done => rfl
  | cons c cs ih =>
      intro done
      rw [List.foldl_cons, ih fun d hd => h d (List.mem_cons_of_mem c hd), place,
        if_pos (h c List.mem_cons_self)]
      simp

/-- Nothing is joined where nothing composes with what stands before it. -/
lemma compose_of_unpaired {cs : List Nat} (h : ∀ c ∈ cs, ∀ a, pair? a c = none) :
    compose cls pair? cs = cs := by
  suffices hrun : ∀ s : Composing, (cs.foldl (composeStep cls pair?) s).text = s.text ++ cs by
    rw [compose, hrun]
    rfl
  induction cs with
  | nil => exact fun s => by simp
  | cons c cs ih =>
      intro s
      rw [List.foldl_cons, ih fun d hd => h d (List.mem_cons_of_mem c hd)]
      rcases composeStep_cases cls pair? s c with ⟨a, j, -, hj, -⟩ | hstep
      · rw [h c List.mem_cons_self a] at hj
        cases hj
      · rw [hstep, text_append, List.append_assoc, List.singleton_append]

/-! ### Starters that join with nothing -/

lemma insertMark_append_starter {z : Nat} (hz : cls z = 0) (c : Nat) (done rest : List Nat) :
    insertMark cls c (done ++ z :: rest) = insertMark cls c done ++ z :: rest := by
  induction done with
  | nil => simp [insertMark, hz]
  | cons d done ih =>
      rw [List.cons_append, insertMark, insertMark]
      split
      · rw [ih, List.cons_append]
      · rfl

/-- No mark moves over a starter. -/
lemma foldl_place_append_starter {z : Nat} (hz : cls z = 0) (cs done rest : List Nat) :
    cs.foldl (place cls) (done ++ z :: rest) = cs.foldl (place cls) done ++ z :: rest := by
  induction cs generalizing done with
  | nil => rfl
  | cons c cs ih =>
      have hplace : place cls (done ++ z :: rest) c = place cls done c ++ z :: rest := by
        rw [place, place]
        split
        · rfl
        · exact insertMark_append_starter hz c done rest
      rw [List.foldl_cons, hplace, ih, List.foldl_cons]

/-- The order before a starter and the order behind it are independent. -/
lemma sortMarks_append {z : Nat} (hz : cls z = 0) (u v : List Nat) :
    sortMarks cls (u ++ z :: v) = sortMarks cls u ++ z :: sortMarks cls v := by
  have hstarter : place cls (u.foldl (place cls) []) z = [] ++ z :: u.foldl (place cls) [] := by
    rw [place, if_pos hz]
    rfl
  rw [sortMarks, List.foldl_append, List.foldl_cons, hstarter, foldl_place_append_starter hz]
  simp [sortMarks]

/-- `t` has built what `s` has, behind the starter `z` and the text `front` before
it. -/
def Beside (z : Nat) (front : List Nat) (s t : Composing) : Prop :=
  (s.starter = none ∧ s.before = [] ∧ t = ⟨front, some z, s.after⟩) ∨
    (s.starter.isSome = true ∧ t = ⟨s.before ++ z :: front, s.starter, s.after⟩)

lemma Beside.text {z : Nat} {front : List Nat} {s t : Composing} (h : Beside z front s t) :
    t.text = front.reverse ++ z :: s.text := by
  rcases h with ⟨hs, hb, rfl⟩ | ⟨-, rfl⟩
  · simp [Composing.text, hs, hb]
  · simp [Composing.text]

lemma Beside.step {z : Nat} {front : List Nat} (hz : ∀ b, pair? z b = none) {s t : Composing}
    (h : Beside z front s t) (c : Nat) :
    Beside z front (composeStep cls pair? s c) (composeStep cls pair? t c) := by
  obtain ⟨before, starter, after⟩ := s
  rcases h with ⟨hs, hb, rfl⟩ | ⟨hs, rfl⟩
  · subst hs hb
    have hleft : composeStep cls pair? ⟨[], none, after⟩ c =
        Composing.append cls ⟨[], none, after⟩ c := rfl
    have hright : composeStep cls pair? ⟨front, some z, after⟩ c =
        Composing.append cls ⟨front, some z, after⟩ c := by
      simp [composeStep, hz]
    rw [hleft, hright]
    by_cases hc : cls c = 0
    · right
      simp [Composing.append, hc]
    · left
      simp [Composing.append, hc]
  · obtain ⟨a, rfl⟩ := Option.isSome_iff_exists.mp hs
    right
    -- both join alike, since they have the same starter and the same marks behind it
    simp only [composeStep]
    generalize ((some a).bind fun a => if (after.head?.all fun d => decide (cls d < cls c)) = true
      then pair? a c else none) = join
    cases join with
    | some j => exact ⟨rfl, rfl⟩
    | none =>
        by_cases hc : cls c = 0
        · simp [Composing.append, hc]
        · simp [Composing.append, hc]

lemma Beside.foldl {z : Nat} {front : List Nat} (hz : ∀ b, pair? z b = none) {s t : Composing}
    (h : Beside z front s t) (cs : List Nat) :
    Beside z front (cs.foldl (composeStep cls pair?) s) (cs.foldl (composeStep cls pair?) t) := by
  induction cs generalizing s t with
  | nil => exact h
  | cons c cs ih => exact ih (h.step hz c)

/-- A starter that joins with nothing keeps what is composed before it and what is
composed behind it apart. -/
lemma compose_append {z : Nat} (hclass : cls z = 0) (hleft : ∀ a, pair? a z = none)
    (hright : ∀ b, pair? z b = none) (u v : List Nat) :
    compose cls pair? (u ++ z :: v) = compose cls pair? u ++ z :: compose cls pair? v := by
  rw [compose, List.foldl_append, List.foldl_cons]
  generalize hs : u.foldl (composeStep cls pair?) ⟨[], none, []⟩ = s
  have hopen : composeStep cls pair? s z =
      ⟨s.after ++ s.starter.toList ++ s.before, some z, []⟩ := by
    rcases composeStep_cases cls pair? s z with ⟨a, j, -, hj, -⟩ | hstep
    · rw [hleft a] at hj
      cases hj
    · rw [hstep, Composing.append, if_pos hclass]
  have hstart : Beside z (s.after ++ s.starter.toList ++ s.before) ⟨[], none, []⟩
      (composeStep cls pair? s z) := .inl ⟨rfl, rfl, hopen⟩
  rw [(hstart.foldl hright v).text, compose, hs]
  rfl

end Branchwise.Text.Compatibility
