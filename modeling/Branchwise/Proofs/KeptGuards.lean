/-
Which decisions a branch keeps.

A terminal ends one branch, and of the decisions around it the branch holds those
that were entered behind the last terminal before it: a terminal inside one
statement takes the decisions around it away from the next.

* `Function.exitsAt`, `Function.marksAt`: the terminals and the decisions that the
  collection of an outcome records, by their addresses.
* `Function.guards`: the recorded decisions around an address, outermost first.
* `Function.Routes`: the branches of an outcome as lists of addresses.
* `Function.Routes.exists_split`: the route that ends in a terminal.
* `Function.Routes.mem_iff`, `Function.Routes.filter_suffix`: what it holds of the
  decisions around the terminal.
* `routes_keep_guards`: **a branch keeps the decisions behind the last terminal**.
-/
import Mathlib.Data.List.Infix
import Mathlib.Data.List.Sort
import Branchwise.Proofs.Addresses
import Branchwise.Proofs.Occurrences

namespace Branchwise

namespace Function

variable (f : Function) (o : Outcome)

/-- Is the statement at an address a terminal found on the side of the outcome? -/
def exitsAt (p : Address) : Bool :=
  (f.at? p).any fun s => s.isTerminal && p.lastSide .success == o

/-- Is the statement at an address a decision that the collection of the outcome
records? -/
def marksAt (q : Address) : Bool :=
  (f.at? q).any fun s => s.isDecision && (o == .success || s.canFail)

/-- The recorded decisions around an address, outermost first. -/
def guards (p : Address) : List Address :=
  p.inits.filter fun q => q != p && f.marksAt o q

/-- The branches of an outcome as lists of addresses: what stands at them are the steps of
the branches, and every recorded address is there, in the order of the walk. -/
structure Routes (routes : List (List Address)) : Prop where
  steps : routes.map (List.map f.at?) =
    ((extractBranches f).accumulator.collection o).rows.map (List.map some)
  ordered : routes.flatten.Pairwise Address.Before
  complete : ∀ q, q ∈ routes.flatten ↔ f.marksAt o q = true ∨ f.exitsAt o q = true

end Function

/-! ### Routes -/

/-- A list that shows another one, cut into rows, can be cut in the same way. -/
lemma exists_rows {α β : Type} {g : α → β} {rows : List (List β)} {l : List α}
    (h : l.map g = rows.flatten) :
    ∃ labels : List (List α), labels.flatten = l ∧ labels.map (List.map g) = rows := by
  induction rows generalizing l with
  | nil => exact ⟨[], by simpa using h.symm, rfl⟩
  | cons row rows ih =>
      rw [List.flatten_cons, List.map_eq_append_iff] at h
      obtain ⟨first, later, rfl, rfl, hlater⟩ := h
      obtain ⟨labels, rfl, rfl⟩ := ih hlater
      exact ⟨first :: labels, rfl, rfl⟩

/-- A property that passes on to all later members holds of the last members of a list. -/
lemma filter_suffix_of_pairwise {α : Type} {p : α → Bool} {l : List α}
    (h : l.Pairwise fun a b => p a = true → p b = true) : l.filter p <:+ l := by
  induction l with
  | nil => exact List.suffix_rfl
  | cons a l ih =>
      obtain ⟨hfirst, hrest⟩ := List.pairwise_cons.mp h
      by_cases ha : p a = true
      · have hall : ∀ b ∈ l, p b = true := fun b hb => hfirst b hb ha
        rw [List.filter_eq_self.mpr (by simpa [ha] using hall)]
      · rw [List.filter_cons_of_neg ha]
        exact (ih hrest).trans (List.suffix_cons a l)

lemma flatten_split {routes earlier later : List (List Address)} {before : List Address}
    {p : Address} (h : routes = earlier ++ (before ++ [p]) :: later) :
    routes.flatten = earlier.flatten ++ (before ++ p :: later.flatten) := by
  simp [h]

lemma Function.recorded_at? (f : Function) (o : Outcome) (q : Address) :
    recorded o .success f.at? q = true ↔ f.marksAt o q = true ∨ f.exitsAt o q = true := by
  rw [recorded, marksAt, exitsAt]
  cases f.at? q <;> simp [Statement.isEvent]

/-- A decision is no terminal. -/
lemma Function.exitsAt_eq_false_of_marksAt {f : Function} {o : Outcome} {q : Address}
    (h : f.marksAt o q = true) : f.exitsAt o q = false := by
  rw [marksAt] at h
  rw [exitsAt]
  cases hq : f.at? q with
  | none => rfl
  | some s =>
      simp only [hq, Option.any_some, Bool.and_eq_true] at h
      simp [Statement.isTerminal_of_isDecision h.1]

lemma Address.pairwise_inits (p : Address) : p.inits.Pairwise Before := by
  induction p with
  | nil => simp
  | cons turn p ih =>
      rw [List.inits_cons, List.pairwise_cons, List.pairwise_map]
      refine ⟨fun q hq => ?_, ih.imp .cons⟩
      obtain ⟨rest, -, rfl⟩ := List.mem_map.mp hq
      exact .nil

lemma Function.pairwise_guards (f : Function) (o : Outcome) (p : Address) :
    (f.guards o p).Pairwise Address.Before :=
  p.pairwise_inits.filter _

lemma Function.mem_guards {f : Function} {o : Outcome} {p q : Address} :
    q ∈ f.guards o p ↔ q <+: p ∧ q ≠ p ∧ f.marksAt o q = true := by
  simp [guards, List.mem_filter, List.mem_inits]

/-- The branches of a function have routes. -/
lemma Function.exists_routes (f : Function) (o : Outcome) : ∃ routes, f.Routes o routes := by
  have hrows : (f.addresses.filter (recorded o .success f.at?)).map f.at? =
      (((extractBranches f).accumulator.collection o).rows.map (List.map some)).flatten := by
    rw [f.map_at?_recorded, ← List.map_flatten, extractBranches_flatten]
  obtain ⟨routes, hflatten, hsteps⟩ := exists_rows hrows
  refine ⟨routes, hsteps, ?_, fun q => ?_⟩
  · rw [hflatten]
    exact f.pairwise_addresses.filter _
  · rw [hflatten, List.mem_filter, Function.recorded_at?, Function.mem_addresses]
    constructor
    · exact fun h => h.2
    · intro h
      refine ⟨?_, h⟩
      cases hq : f.at? q with
      | none => simp [marksAt, exitsAt, hq] at h
      | some s => rfl

namespace Function.Routes

variable {f : Function} {o : Outcome} {routes : List (List Address)} (h : f.Routes o routes)

include h

/-- Of the recorded statements the terminals are the exits. -/
lemma exitsAt_eq {q : Address} (hq : q ∈ routes.flatten) {s : Statement}
    (hs : f.at? q = some s) : f.exitsAt o q = s.isTerminal := by
  rcases (h.complete q).mp hq with hmark | hexit
  · have hdecision : s.isDecision = true := by
      simp only [marksAt, hs, Option.any_some, Bool.and_eq_true] at hmark
      exact hmark.1
    simp [exitsAt, hs, Statement.isTerminal_of_isDecision hdecision]
  · rw [hexit]
    simp only [exitsAt, hs, Option.any_some, Bool.and_eq_true] at hexit
    exact hexit.1.symm

/-- Where a closed row stands, the route ends in an exit and holds no other. -/
lemma of_closed {route : List Address} (hroute : route ∈ routes) {row : List Statement}
    (hrow : route.map f.at? = row.map some) (hclosed : Closed row) :
    ∃ before p, route = before ++ [p] ∧ f.exitsAt o p = true ∧
      ∀ q ∈ before, f.exitsAt o q = false := by
  obtain ⟨steps, t, rfl, ht, hsteps⟩ := hclosed
  have hmem : ∀ q ∈ route, q ∈ routes.flatten := fun q hq =>
    List.mem_flatten.mpr ⟨route, hroute, hq⟩
  rw [List.map_append, List.map_eq_append_iff] at hrow
  obtain ⟨before, last, rfl, hbefore, hlast⟩ := hrow
  obtain ⟨p, rfl, hp⟩ := List.map_eq_singleton_iff.mp hlast
  refine ⟨before, p, rfl, ?_, fun q hq => ?_⟩
  · rw [h.exitsAt_eq (hmem p (by simp)) hp, ht]
  · have hat : f.at? q ∈ steps.map some := hbefore ▸ List.mem_map_of_mem hq
    obtain ⟨s, hs, hsq⟩ := List.mem_map.mp hat
    rw [h.exitsAt_eq (hmem q (by simp [hq])) hsq.symm, hsteps s hs]

/-- **The route that ends in a terminal**: it holds no other one, and each route before it
ends in one too. -/
lemma exists_split {p : Address} (hp : f.exitsAt o p = true) :
    ∃ earlier before later, routes = earlier ++ (before ++ [p]) :: later ∧
      (∀ q ∈ before, f.exitsAt o q = false) ∧
      ∀ route ∈ earlier, ∃ before' q, route = before' ++ [q] ∧ f.exitsAt o q = true := by
  obtain ⟨route, hroute, hmem⟩ := List.mem_flatten.mp ((h.complete p).mpr (.inr hp))
  obtain ⟨earlier, later, hsplit⟩ := List.append_of_mem hroute
  have htidy := (Source.extractBranches_tidy f).collection o
  have hsteps := h.steps.symm
  rw [hsplit, List.map_append, List.map_cons, List.map_eq_append_iff] at hsteps
  obtain ⟨rows, rest, hrows, hearlier, hrest⟩ := hsteps
  obtain ⟨row, rows', rfl, hrow, -⟩ := List.map_eq_cons_iff.mp hrest
  have hdrop : ((extractBranches f).accumulator.collection o).rows.dropLast =
      rows ++ (row :: rows').dropLast := by
    rw [hrows, List.dropLast_append_of_ne_nil (by simp)]
  have hclosed : Closed row := by
    cases rows' with
    | cons next rows' => exact htidy.closed row (by simp [hdrop])
    | nil =>
        -- the last row is open, and cannot hold the terminal
        exfalso
        have hat : f.at? p ∈ row.map some := hrow ▸ List.mem_map_of_mem hmem
        obtain ⟨s, hs, hsp⟩ := List.mem_map.mp hat
        have hopen := htidy.open_last row (by rw [hrows, List.getLast?_concat]; rfl) s hs
        rw [h.exitsAt_eq (List.mem_flatten.mpr ⟨route, hroute, hmem⟩) hsp.symm, hopen] at hp
        cases hp
  obtain ⟨before, q, rfl, hq, hbefore⟩ := h.of_closed hroute hrow.symm hclosed
  obtain rfl : p = q := by
    rcases List.mem_append.mp hmem with hmem | hmem
    · rw [hbefore p hmem] at hp
      cases hp
    · simpa using hmem
  refine ⟨earlier, before, later, hsplit, hbefore, fun route' hroute' => ?_⟩
  have hat : route'.map f.at? ∈ rows.map (List.map some) := hearlier ▸ List.mem_map_of_mem hroute'
  obtain ⟨row', hrow', hsteps'⟩ := List.mem_map.mp hat
  obtain ⟨before', q, rfl, hq, -⟩ := h.of_closed (by simp [hsplit, hroute']) hsteps'.symm
    (htidy.closed row' (by simp [hdrop, hrow']))
  exact ⟨before', q, rfl, hq⟩

section Split

variable {p : Address} {earlier later : List (List Address)} {before : List Address}
  (hsplit : routes = earlier ++ (before ++ [p]) :: later)
  (hbefore : ∀ q ∈ before, f.exitsAt o q = false)
  (hearlier : ∀ route ∈ earlier, ∃ before' q, route = before' ++ [q] ∧ f.exitsAt o q = true)

include hsplit

/-- What is recorded before the terminal stands in its route or in an earlier one. -/
lemma mem_of_before {q : Address} (hq : q ∈ routes.flatten) (hlt : q.Before p) :
    q ∈ earlier.flatten ∨ q ∈ before := by
  have hordered := h.ordered
  rw [flatten_split hsplit] at hq hordered
  rw [List.mem_append, List.mem_append, List.mem_cons] at hq
  have hlater := (List.pairwise_cons.mp (List.pairwise_append.mp
    (List.pairwise_append.mp hordered).2.1).2.1).1
  rcases hq with hq | hq | rfl | hq
  · exact .inl hq
  · exact .inr hq
  · exact absurd hlt (irrefl _)
  · exact absurd hlt (asymm (hlater q hq))

/-- The earlier routes come before what the route of the terminal holds. -/
lemma before_of_mem {q r : Address} (hq : q ∈ earlier.flatten) (hr : r ∈ before ++ [p]) :
    q.Before r := by
  have hordered := h.ordered
  rw [flatten_split hsplit] at hordered
  refine (List.pairwise_append.mp hordered).2.2 q hq r ?_
  rw [List.mem_append, List.mem_singleton] at hr
  rcases hr with hr | rfl
  · exact List.mem_append_left _ hr
  · simp

/-- The first route has no earlier one. -/
lemma eq_nil_of_head? (hhead : routes.head? = some (before ++ [p])) : earlier = [] := by
  cases earlier with
  | nil => rfl
  | cons route earlier =>
      have hroute : route = before ++ [p] := by simpa [hsplit] using hhead
      exact absurd (h.before_of_mem hsplit (List.mem_flatten.mpr ⟨route, by simp, by simp [hroute]⟩)
        (by simp)) (irrefl p)

include hbefore

/-- The decisions around the terminal that the route holds, in their order. -/
lemma filter_eq :
    (before.filter fun q => q <+: p) = (f.guards o p).filter fun q => q ∈ before := by
  have hordered := h.ordered
  rw [flatten_split hsplit] at hordered
  have hroute := List.pairwise_append.mp (List.pairwise_append.mp hordered).2.1
  refine (hroute.1.filter _).eq_of_mem_iff ((f.pairwise_guards o p).filter _) fun q => ?_
  simp only [List.mem_filter, decide_eq_true_eq, mem_guards]
  constructor
  · rintro ⟨hmem, hinit⟩
    have hne : q ≠ p := by
      rintro rfl
      exact irrefl _ (hroute.2.2 q hmem q (by simp))
    have hmark : f.marksAt o q = true := by
      refine ((h.complete q).mp ?_).resolve_right (by simp [hbefore q hmem])
      rw [flatten_split hsplit]
      simp [hmem]
    exact ⟨⟨hinit, hne, hmark⟩, hmem⟩
  · rintro ⟨⟨hinit, -, -⟩, hmem⟩
    exact ⟨hmem, hinit⟩

/-- **The decisions that the route holds are the innermost ones.** -/
lemma filter_suffix : (before.filter fun q => q <+: p) <:+ f.guards o p := by
  rw [h.filter_eq hsplit hbefore]
  refine filter_suffix_of_pairwise
    ((f.pairwise_guards o p).imp_of_mem fun {q r} _ hr hqr hmem => ?_)
  rw [decide_eq_true_eq] at hmem ⊢
  obtain ⟨hinit, hne, hmark⟩ := mem_guards.mp hr
  have hrp := Address.before_of_isPrefix hinit hne
  refine (h.mem_of_before hsplit ((h.complete r).mpr (.inl hmark)) hrp).resolve_left fun hr' => ?_
  exact asymm hqr (h.before_of_mem hsplit hr' (by simp [hmem]))

/-- The first route holds all decisions around its terminal. -/
lemma filter_eq_guards (hfirst : earlier = []) :
    (before.filter fun q => q <+: p) = f.guards o p := by
  rw [h.filter_eq hsplit hbefore, List.filter_eq_self]
  intro q hq
  obtain ⟨hinit, hne, hmark⟩ := mem_guards.mp hq
  have hqp := Address.before_of_isPrefix hinit hne
  have hmem := h.mem_of_before hsplit ((h.complete q).mpr (.inl hmark)) hqp
  simpa [hfirst] using hmem

include hearlier

/-- **The route holds a decision exactly if no other terminal lies between the two.** -/
lemma mem_iff {q : Address} (hq : f.marksAt o q = true) (hlt : q.Before p) :
    q ∈ before ↔ ∀ r, f.exitsAt o r = true → q.Before r → ¬ r.Before p := by
  constructor
  · intro hmem r hr hqr hrp
    rcases h.mem_of_before hsplit ((h.complete r).mpr (.inr hr)) hrp with hr' | hr'
    · exact asymm hqr (h.before_of_mem hsplit hr' (by simp [hmem]))
    · rw [hbefore r hr'] at hr
      cases hr
  · intro hnone
    refine (h.mem_of_before hsplit ((h.complete q).mpr (.inl hq)) hlt).resolve_left fun hmem => ?_
    -- the route that holds the decision ends in a terminal
    obtain ⟨route, hroute, hmem⟩ := List.mem_flatten.mp hmem
    obtain ⟨before', r, rfl, hr⟩ := hearlier route hroute
    have hmem' : q ∈ before' := by
      rcases List.mem_append.mp hmem with hmem | hmem
      · exact hmem
      · obtain rfl := List.mem_singleton.mp hmem
        rw [exitsAt_eq_false_of_marksAt hq] at hr
        cases hr
    have hqr : q.Before r := by
      have hordered := List.Pairwise.sublist
        (List.sublist_flatten_of_mem (List.mem_append_left _ hroute)) (hsplit ▸ h.ordered)
      exact (List.pairwise_append.mp hordered).2.2 q hmem' r (by simp)
    refine hnone r hr hqr (h.before_of_mem hsplit ?_ (by simp))
    exact List.mem_flatten.mpr ⟨_, hroute, by simp⟩

end Split

end Function.Routes

/-! ### Kept decisions -/

/-- **A branch keeps the decisions behind the last terminal.** The branches of an outcome have
routes. Let `p` be the address of a terminal on the side of the outcome. One route ends in `p`;
it holds a recorded decision around `p` exactly if no other terminal of that side lies between
the two in the order of the walk. So the decisions around `p` that it holds are the innermost
ones, in their order, and in the first route they are all of them. -/
theorem routes_keep_guards (f : Function) (o : Outcome) :
    (∃ routes, f.Routes o routes) ∧
    ∀ routes, f.Routes o routes → ∀ p, f.exitsAt o p = true →
      ∃ before, before ++ [p] ∈ routes ∧
        (∀ q ∈ f.guards o p, q ∈ before ↔
          ∀ r, f.exitsAt o r = true → q.Before r → ¬ r.Before p) ∧
        (before.filter fun q => q <+: p) <:+ f.guards o p ∧
        (routes.head? = some (before ++ [p]) →
          (before.filter fun q => q <+: p) = f.guards o p) := by
  refine ⟨f.exists_routes o, fun routes h p hp => ?_⟩
  obtain ⟨earlier, before, later, hsplit, hbefore, hearlier⟩ := h.exists_split hp
  refine ⟨before, by simp [hsplit], fun q hq => ?_, h.filter_suffix hsplit hbefore,
    fun hhead => h.filter_eq_guards hsplit hbefore (h.eq_nil_of_head? hsplit hhead)⟩
  obtain ⟨hinit, hne, hmark⟩ := Function.mem_guards.mp hq
  exact h.mem_iff hsplit hbefore hearlier hmark (Address.before_of_isPrefix hinit hne)

/-- The first of two inner conditionals takes the outer one away from the second. -/
theorem routes_keep_guards_siblings :
    let leaf := Statement.ret none 4 "Return"
    let outer := Statement.conditional "a"
      [.conditional "b" [leaf] [] 3 "If", .conditional "c" [leaf] [] 5 "If"] [] 2 "If"
    let f : Function := ⟨"f", "f", [], [outer], 1, false, false⟩
    let a : Address := [⟨.success, 0⟩]
    let c : Address := [⟨.success, 0⟩, ⟨.success, 1⟩]
    let p : Address := [⟨.success, 0⟩, ⟨.success, 1⟩, ⟨.success, 0⟩]
    f.exitsAt .success p = true ∧ f.guards .success p = [a, c] ∧
      ∃ routes, f.Routes .success routes ∧
        ∃ before, before ++ [p] ∈ routes ∧ a ∉ before ∧ c ∈ before := by
  intro leaf outer f a c p
  have hp : f.exitsAt .success p = true := by decide
  have hguards : f.guards .success p = [a, c] := by decide
  obtain ⟨⟨routes, hroutes⟩, hkeep⟩ := routes_keep_guards f .success
  obtain ⟨before, hmem, hiff, -, -⟩ := hkeep routes hroutes p hp
  refine ⟨hp, hguards, routes, hroutes, before, hmem, fun ha => ?_, ?_⟩
  · exact (hiff a (by simp [hguards])).mp ha [⟨.success, 0⟩, ⟨.success, 0⟩, ⟨.success, 0⟩]
      (by decide) (by decide) (by decide)
  · refine (hiff c (by simp [hguards])).mpr fun r hr => ?_
    have hnone : ∀ r ∈ f.addresses, f.exitsAt .success r = true → c.Before r → ¬ r.Before p := by
      decide
    refine hnone r (Function.mem_addresses.mpr ?_) hr
    rw [Function.exitsAt] at hr
    cases hat : f.at? r with
    | none => simp [hat] at hr
    | some s => rfl

end Branchwise
