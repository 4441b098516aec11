/-
How the stubs of a module come to their names: one after the other, each searched for
among the names that are in use by then.

* `Search`, `search_freshName`: the search for a free name, candidate by candidate. It
  ends, with the name that is given out.
* `giveNames`: the names alone, apart from the stubs that bear them; `map_name_allStubs`
  puts both together.
* `Stub.SameButName`: two stubs that differ at most in the name on the line that
  defines them.
* `allStubs_naming`: the names of a module are distinct and new, and each is the first
  that was free.
-/
import Mathlib.Data.Finset.Lattice.Lemmas
import Branchwise.Proofs.StubNames

namespace Branchwise

/-! ### The search for a name -/

/-- The search for a free name, with a candidate and the number to try next, ends with
the result: a candidate that is free is taken, for any other the next number is
tried. -/
inductive Search (used : List String) (wish : String) : String → Nat → String → Prop where
  | found {candidate : String} {n : Nat} (h : candidate ∉ used) :
      Search used wish candidate n candidate
  | next {candidate result : String} {n : Nat} (h : candidate ∈ used)
      (hnext : Search used wish (numbered wish n) (n + 1) result) :
      Search used wish candidate n result

/-- The name is the wish if that is free, else the wish with the least number from two
on that is free. -/
def IsFirstFree (used : List String) (wish name : String) : Prop :=
  wish ∉ used ∧ name = wish ∨
  wish ∈ used ∧ ∃ n, 2 ≤ n ∧ name = numbered wish n ∧ numbered wish n ∉ used ∧
    ∀ k, 2 ≤ k → k < n → numbered wish k ∈ used

lemma isFirstFree_freshName (used : List String) (wish : String) :
    IsFirstFree used wish (freshName used wish) :=
  freshName_cases used wish

/-- From the candidate with the number `m`, the search passes over all numbers in use. -/
lemma search_numbered {used : List String} {wish : String} {m n : Nat} (hmn : m ≤ n)
    (hfree : numbered wish n ∉ used) (hused : ∀ k, m ≤ k → k < n → numbered wish k ∈ used) :
    Search used wish (numbered wish m) (m + 1) (numbered wish n) := by
  induction hd : n - m generalizing m with
  | zero =>
      obtain rfl : m = n := by omega
      exact .found hfree
  | succ d ih =>
      refine .next (hused m le_rfl (by omega)) (ih (by omega) ?_ (by omega))
      exact fun k hk => hused k (by omega)

/-- **The search for a free name ends**, with the name that is given out. -/
lemma search_freshName (used : List String) (wish : String) :
    Search used wish wish 2 (freshName used wish) := by
  rcases freshName_cases used wish with ⟨hfree, h⟩ | ⟨hused, n, hn, h, hfree, hleast⟩
  · rw [h]
    exact .found hfree
  · rw [h]
    exact .next hused (search_numbered hn hfree hleast)

/-! ### Names, one after the other -/

/-- A name for each wish, each of them in use for those behind it. -/
def giveNames : List String → List String → List String
  | _, [] => []
  | used, wish :: wishes =>
    freshName used wish :: giveNames (used ++ [freshName used wish]) wishes

lemma giveNames_append (used front back : List String) :
    giveNames used (front ++ back) =
      giveNames used front ++ giveNames (used ++ giveNames used front) back := by
  induction front generalizing used with
  | nil => simp [giveNames]
  | cons wish front ih =>
      rw [List.cons_append, giveNames, ih, giveNames, List.cons_append, List.append_assoc,
        List.singleton_append]

lemma length_giveNames (used wishes : List String) :
    (giveNames used wishes).length = wishes.length := by
  induction wishes generalizing used with
  | nil => rfl
  | cons wish wishes ih => rw [giveNames, List.length_cons, List.length_cons, ih]

/-- The names are distinct, and none was in use before. -/
lemma nodup_giveNames (used wishes : List String) :
    (giveNames used wishes).Nodup ∧ (giveNames used wishes).Disjoint used := by
  induction wishes generalizing used with
  | nil => exact ⟨List.nodup_nil, List.disjoint_nil_left used⟩
  | cons wish wishes ih =>
      obtain ⟨hnodup, hdisjoint⟩ := ih (used ++ [freshName used wish])
      rw [List.disjoint_append_right, List.disjoint_singleton] at hdisjoint
      rw [giveNames, List.nodup_cons, List.disjoint_cons_left]
      exact ⟨⟨hdisjoint.2, hnodup⟩, freshName_not_mem used wish, hdisjoint.1⟩

/-- Every name is searched for among the names before it and those that were in use. -/
lemma giveNames_getElem? (used wishes : List String) (i : Nat) :
    (giveNames used wishes)[i]? =
      wishes[i]?.map (freshName (used ++ (giveNames used wishes).take i)) := by
  induction wishes generalizing used i with
  | nil => simp [giveNames]
  | cons wish wishes ih =>
      cases i with
      | zero => simp [giveNames]
      | succ i => simp [giveNames, ih]

/-! ### Stubs and their names -/

/-- The names that the stubs of a function would have if none were in use. -/
def wishedNames (a : Accumulator) : List String :=
  (stubPlans a).map Prod.fst

lemma map_name_nameStubs (f : Function) (used : List String) (plans : List (String × List String)) :
    (nameStubs f used plans).1.map Stub.name = giveNames used (plans.map Prod.fst) := by
  induction plans generalizing used with
  | nil => rfl
  | cons plan plans ih =>
      obtain ⟨wish, comments⟩ := plan
      rw [nameStubs, List.map_cons, List.map_cons, giveNames, ih]

/-- The names of all stubs, as they are given out. -/
lemma map_name_allStubs (used : List String) (as : List Accumulator) :
    (allStubs used as).1.map Stub.name = giveNames used (as.flatMap wishedNames) := by
  induction as generalizing used with
  | nil => rfl
  | cons a as ih =>
      have hfirst : (stubs used a).1.map Stub.name = giveNames used (wishedNames a) :=
        map_name_nameStubs a.function used (stubPlans a)
      have hused : (stubs used a).2 = used ++ giveNames used (wishedNames a) := by
        rw [← hfirst]
        exact nameStubs_used a.function used (stubPlans a)
      rw [allStubs_cons, List.map_append, ih, hfirst, hused, List.flatMap_cons, giveNames_append]

/-- The stubs have the same lines, but for the name on the line that defines them. -/
def Stub.SameButName (s t : Stub) : Prop :=
  ∃ above lead below, lead ∈ ["def ", "async def "] ∧
    s.lines = above ++ (lead ++ s.name ++ "():") :: below ∧
    t.lines = above ++ (lead ++ t.name ++ "():") :: below

/-- A stub is its name and what does not depend on it. -/
lemma Stub.sameButName_of_rename (s : Stub) (name : String) :
    s.SameButName { s with name := name } := by
  cases hasync : s.isAsync with
  | true =>
      refine ⟨["@pytest.mark.asyncio"], "async def ", s.lines.drop 2, by simp, ?_, ?_⟩
      · simp [Stub.lines, hasync]
      · simp [Stub.lines, hasync]
  | false =>
      refine ⟨[], "def ", s.lines.drop 1, by simp, ?_, ?_⟩
      · simp [Stub.lines, hasync]
      · simp [Stub.lines, hasync]

/-- The names in use decide nothing but the names. -/
lemma sameButName_nameStubs (f : Function) (used used' : List String)
    (plans : List (String × List String)) :
    List.Forall₂ Stub.SameButName (nameStubs f used plans).1 (nameStubs f used' plans).1 := by
  induction plans generalizing used used' with
  | nil => exact .nil
  | cons plan plans ih =>
      obtain ⟨wish, comments⟩ := plan
      rw [nameStubs, nameStubs]
      exact .cons (Stub.sameButName_of_rename _ _) (ih _ _)

/-- **The names of test stubs never clash.** Whatever names are in use, the search for each
name ends; the names are distinct and new, and together with those in use before they are
the ones in use afterwards; there is one for each branch, or one for a function without
branches; each is the first that is free when it is given out. The names in use change
nothing about a stub but its name. -/
theorem allStubs_naming (used : List String) (as : List Accumulator) :
    let names := (allStubs used as).1.map Stub.name
    names.Nodup ∧ names.Disjoint used ∧
      (allStubs used as).2.toFinset = used.toFinset ∪ names.toFinset ∧
      names.length = (as.map fun a => max 1 a.branches.length).sum ∧
      (∀ i name, names[i]? = some name → ∃ wish, (as.flatMap wishedNames)[i]? = some wish ∧
        Search (used ++ names.take i) wish wish 2 name ∧
        IsFirstFree (used ++ names.take i) wish name) ∧
      ∀ used' a, List.Forall₂ Stub.SameButName (stubs used a).1 (stubs used' a).1 := by
  intro names
  have hnames : names = giveNames used (as.flatMap wishedNames) := map_name_allStubs used as
  obtain ⟨hnodup, hdisjoint⟩ := nodup_giveNames used (as.flatMap wishedNames)
  refine ⟨hnames ▸ hnodup, hnames ▸ hdisjoint, ?_, ?_, fun i name hname => ?_, fun used' a => ?_⟩
  · rw [allStubs_used, List.toFinset_append]
  · rw [hnames, length_giveNames, List.length_flatMap]
    congr 1
    refine List.map_congr_left fun a _ => ?_
    rw [wishedNames, List.length_map, length_stubPlans]
  · rw [hnames, giveNames_getElem?, ← hnames, Option.map_eq_some_iff] at hname
    obtain ⟨wish, hwish, rfl⟩ := hname
    exact ⟨wish, hwish, search_freshName _ wish, isFirstFree_freshName _ wish⟩
  · exact sameButName_nameStubs a.function used used' (stubPlans a)

/-- With `test_f` in use, the functions `f` and `f_2` both wish for names that are taken:
the second of them because of the first. -/
theorem allStubs_naming_numbered :
    let plain name : Accumulator := .ofFunction ⟨name, name, [], [], 1, false, false⟩
    let as := [plain "f", plain "f_2"]
    let names := (allStubs ["test_f"] as).1.map Stub.name
    names = ["test_f_2", "test_f_2_2"] ∧ names.Nodup ∧
      Search ["test_f", "test_f_2"] "test_f_2" "test_f_2" 2 "test_f_2_2" := by
  intro plain as names
  have hnames : names = ["test_f_2", "test_f_2_2"] := by decide +kernel
  have hwishes : as.flatMap wishedNames = ["test_f", "test_f_2"] := by decide +kernel
  obtain ⟨hnodup, -, -, -, hsearch, -⟩ := allStubs_naming ["test_f"] as
  change ∀ i name, names[i]? = some name → ∃ wish, (as.flatMap wishedNames)[i]? = some wish ∧
    Search (["test_f"] ++ names.take i) wish wish 2 name ∧ _ at hsearch
  rw [hnames, hwishes] at hsearch
  obtain ⟨wish, hwish, hfound, -⟩ := hsearch 1 "test_f_2_2" rfl
  obtain rfl := Option.some.inj hwish
  exact ⟨hnames, hnodup, hfound⟩

end Branchwise
