/-
The names of test stubs.

* `freshName_cases`: a free name is the name itself, or the name with the least
  number that is free; there always is one.
* `Stub.Follows`, `forall₂_nameStubs`: each stub carries out its plan.
* `nodup_allStubs`: the names of all stubs are distinct, and none was in use.
* `isStubName_of_mem_allStubs`: for sound functions every one of them is an
  identifier in normal form that starts with `test_`, and so no reserved word.
-/
import Mathlib.Data.List.Nodup
import Mathlib.Data.List.Perm.Subperm
import Branchwise.Proofs.ReadStatements
import Branchwise.Stub

namespace Branchwise

open Text Text.Compatibility

/-! ### Free names -/

lemma toList_toString_nat (n : Nat) : (toString n).toList = Nat.toDigits 10 n := by
  rw [Nat.toString_eq_ofList_toDigits, String.toList_ofList]

lemma toList_numbered (name : String) (n : Nat) :
    (numbered name n).toList = name.toList ++ '_' :: Nat.toDigits 10 n := by
  rw [numbered, String.toList_append, String.toList_append, toList_toString_nat]
  simp

/-- Different numbers give different names. -/
lemma numbered_injective (name : String) : Function.Injective (numbered name) := by
  intro m n h
  have hdigits : Nat.toDigits 10 m = Nat.toDigits 10 n := by
    have := congrArg String.toList h
    rw [toList_numbered, toList_numbered] at this
    exact (List.cons.inj (List.append_cancel_left this)).2
  have := congrArg (Nat.ofDigitChars 10 · 0) hdigits
  simpa [Nat.ofDigitChars_ten_toDigits] using this

/-- **A free name is the name itself if that is free, else the name with the least
number from two on that is.** -/
lemma freshName_cases (used : List String) (name : String) :
    name ∉ used ∧ freshName used name = name ∨
    name ∈ used ∧ ∃ n, 2 ≤ n ∧ freshName used name = numbered name n ∧
      numbered name n ∉ used ∧ ∀ k, 2 ≤ k → k < n → numbered name k ∈ used := by
  rw [freshName]
  split
  · next hused =>
    refine .inr ⟨by simpa using hused, ?_⟩
    split
    · next i hi =>
      rw [List.find?_range_eq_some] at hi
      obtain ⟨hfree, -, hleast⟩ := hi
      refine ⟨i + 2, by omega, rfl, by simpa using hfree, fun k hk hkn => ?_⟩
      have := hleast (k - 2) (by omega)
      rw [show k - 2 + 2 = k by omega] at this
      simpa using this
    · -- one number more than there are names in use, all of them taken, is too many
      next hnone =>
      rw [List.find?_eq_none] at hnone
      have hnodup : ((List.range (used.length + 1)).map fun i => numbered name (i + 2)).Nodup :=
        List.Nodup.map (fun i j h => by have := numbered_injective name h; omega)
          List.nodup_range
      have hsubset :
          ((List.range (used.length + 1)).map fun i => numbered name (i + 2)) ⊆ used := by
        intro x hx
        obtain ⟨i, hi, rfl⟩ := List.mem_map.mp hx
        simpa using hnone i hi
      have hlength := (List.subperm_of_subset hnodup hsubset).length_le
      rw [List.length_map, List.length_range] at hlength
      omega
  · next hfree => exact .inl ⟨by simpa using hfree, rfl⟩

lemma freshName_not_mem (used : List String) (name : String) : freshName used name ∉ used := by
  rcases freshName_cases used name with ⟨hfree, h⟩ | ⟨-, n, -, h, hfree, -⟩
  · rwa [h]
  · rwa [h]

/-! ### Stubs -/

/-- The stub of the function carries out the plan: its name is the wished-for one,
numbered or not. -/
structure Stub.Follows (f : Function) (plan : String × List String) (s : Stub) : Prop where
  name : s.name = plan.1 ∨ ∃ n, s.name = numbered plan.1 n
  isAsync : s.isAsync = f.isAsync
  call : s.call = callText f
  comments : s.comments = plan.2

section Plans

variable (f : Function) (used : List String) (plans : List (String × List String))

lemma forall₂_nameStubs :
    List.Forall₂ (fun plan s => s.Follows f plan) plans (nameStubs f used plans).1 := by
  induction plans generalizing used with
  | nil => exact .nil
  | cons plan plans ih =>
      obtain ⟨wish, comments⟩ := plan
      refine .cons ⟨?_, rfl, rfl, rfl⟩ (ih _)
      rcases freshName_cases used wish with ⟨-, h⟩ | ⟨-, n, -, h, -⟩
      · exact .inl h
      · exact .inr ⟨n, h⟩

lemma exists_follows_of_mem_nameStubs {s : Stub} (h : s ∈ (nameStubs f used plans).1) :
    ∃ plan ∈ plans, s.Follows f plan := by
  have hplans := forall₂_nameStubs f used plans
  obtain ⟨i, hi, rfl⟩ := List.mem_iff_getElem.mp h
  have hlength : i < plans.length := hplans.length_eq ▸ hi
  exact ⟨plans[i], List.getElem_mem hlength, hplans.get hlength hi⟩

lemma length_nameStubs : (nameStubs f used plans).1.length = plans.length :=
  (forall₂_nameStubs f used plans).length_eq.symm

/-- The names in use afterwards are those before and those of the stubs. -/
lemma nameStubs_used :
    (nameStubs f used plans).2 = used ++ (nameStubs f used plans).1.map Stub.name := by
  induction plans generalizing used with
  | nil => simp [nameStubs]
  | cons plan plans ih =>
      obtain ⟨wish, comments⟩ := plan
      rw [nameStubs]
      dsimp only
      rw [ih, List.map_cons, List.append_assoc]
      rfl

/-- Distinct names in use stay distinct. -/
lemma nodup_nameStubs (h : used.Nodup) : (nameStubs f used plans).2.Nodup := by
  induction plans generalizing used with
  | nil => exact h
  | cons plan plans ih =>
      obtain ⟨wish, comments⟩ := plan
      rw [nameStubs]
      refine ih _ ?_
      rw [List.nodup_append]
      refine ⟨h, List.nodup_singleton _, ?_⟩
      intro x hx y hy heq
      rw [List.mem_singleton] at hy
      exact freshName_not_mem used wish (hy ▸ heq ▸ hx)

end Plans

lemma allStubs_cons (used : List String) (a : Accumulator) (as : List Accumulator) :
    allStubs used (a :: as) =
      ((stubs used a).1 ++ (allStubs (stubs used a).2 as).1,
        (allStubs (stubs used a).2 as).2) := rfl

/-- The names in use afterwards are those before and those of all stubs. -/
lemma allStubs_used (used : List String) (as : List Accumulator) :
    (allStubs used as).2 = used ++ (allStubs used as).1.map Stub.name := by
  induction as generalizing used with
  | nil => simp [allStubs]
  | cons a as ih =>
      rw [allStubs_cons, ih, stubs, nameStubs_used, List.map_append, List.append_assoc]

/-- **The names of all stubs are distinct, and none of them was in use.** -/
lemma nodup_allStubs {used : List String} (h : used.Nodup) (as : List Accumulator) :
    (used ++ (allStubs used as).1.map Stub.name).Nodup := by
  rw [← allStubs_used]
  induction as generalizing used with
  | nil => exact h
  | cons a as ih => exact ih (nodup_nameStubs _ _ _ h)

/-- Every stub carries out a plan of one of the functions. -/
lemma exists_follows {used : List String} {as : List Accumulator} {s : Stub}
    (h : s ∈ (allStubs used as).1) :
    ∃ a ∈ as, ∃ plan ∈ stubPlans a, s.Follows a.function plan := by
  induction as generalizing used with
  | nil => cases h
  | cons a as ih =>
      rw [allStubs_cons, List.mem_append] at h
      rcases h with h | h
      · obtain ⟨plan, hplan, hs⟩ := exists_follows_of_mem_nameStubs _ _ _ h
        exact ⟨a, List.mem_cons_self, plan, hplan, hs⟩
      · obtain ⟨b, hb, hs⟩ := ih h
        exact ⟨b, List.mem_cons_of_mem a hb, hs⟩

lemma length_stubPlans (a : Accumulator) : (stubPlans a).length = max 1 a.branches.length := by
  rw [stubPlans]
  cases hb : a.branches with
  | nil => rfl
  | cons b bs =>
      rw [List.isEmpty_cons, if_neg Bool.false_ne_true, List.length_map, List.length_cons]
      omega

/-- Each function has as many stubs as it has branches, and one if it has none. What a stub
has from its function alone is the same in all of them. -/
lemma map_allStubs {β : Type} {g : Stub → β} {ofFunction : Function → β}
    (h : ∀ f plan s, Stub.Follows f plan s → g s = ofFunction f) (used : List String)
    (as : List Accumulator) :
    (allStubs used as).1.map g =
      as.flatMap fun a => List.replicate (max 1 a.branches.length) (ofFunction a.function) := by
  induction as generalizing used with
  | nil => rfl
  | cons a as ih =>
      rw [allStubs_cons, List.map_append, ih, List.flatMap_cons]
      congr 1
      rw [List.eq_replicate_iff, List.length_map, stubs, length_nameStubs, length_stubPlans]
      refine ⟨rfl, fun c hc => ?_⟩
      obtain ⟨s, hs, rfl⟩ := List.mem_map.mp hc
      obtain ⟨plan, -, hfollows⟩ := exists_follows_of_mem_nameStubs _ _ _ hs
      exact h _ _ _ hfollows

/-! ### The form of the names -/

/-- A word in normal form that starts with `test_`. -/
structure IsStubName (word : List Char) : Prop where
  form : IsForm word
  front : ['t', 'e', 's', 't', '_'] <+: word

lemma isForm_ascii {word : List Char} (h : (word.all fun c => c.isAlphanum || c == '_') = true) :
    IsForm word := by
  apply isForm_of_ascii
  intro c hc
  have hpart := List.all_eq_true.mp h c hc
  have hlow : c.toNat < 128 := by
    rw [Bool.or_eq_true, Char.isAlphanum, Bool.or_eq_true, isAlpha_iff, isDigit_iff, beq_iff_eq,
      eq_line_iff] at hpart
    omega
  refine ⟨hlow, ?_⟩
  rwa [isIdentifierPart, if_pos hlow]

namespace IsStubName

lemma join {u v : List Char} (hu : IsStubName u) (hv : IsForm v) : IsStubName (u ++ '_' :: v) :=
  ⟨hu.form.join hv, hu.front.trans (List.prefix_append _ _)⟩

lemma of_form {v : List Char} (hv : IsForm v) :
    IsStubName (['t', 'e', 's', 't'] ++ '_' :: v) :=
  ⟨(isForm_ascii (by decide)).join hv, ⟨v, rfl⟩⟩

lemma isName {name : String} (h : IsStubName name.toList) : Source.IsName name := by
  refine ⟨?_, h.form.stable⟩
  obtain ⟨rest, hrest⟩ := h.front
  have hparts := h.form.parts
  rw [← hrest] at hparts ⊢
  rw [List.cons_append, isIdentifier, Bool.and_eq_true, List.all_eq_true]
  refine ⟨by decide, fun c hc => hparts c (List.mem_cons_of_mem _ hc)⟩

/-- The name of a stub is no reserved word. -/
lemma ofSpelling?_eq_none {name : String} (h : IsStubName name.toList) :
    Source.Keyword.ofSpelling? name = none := by
  obtain ⟨rest, hrest⟩ := h.front
  rw [Source.Keyword.ofSpelling?.eq_def]
  split <;> first | rfl | simp at hrest

end IsStubName

/-- A name holds no dot. -/
lemma Source.IsName.ne_dot {name : String} (h : Source.IsName name) :
    ∀ c ∈ name.toList, c ≠ '.' := by
  rintro c hc rfl
  have hdot := h.isForm.parts _ hc
  rw [isIdentifierPart, if_pos (by decide)] at hdot
  revert hdot
  decide

lemma map_undot {name : String} (h : Source.IsName name) :
    (name.toList.map fun c => if c = '.' then '_' else c) = name.toList := by
  conv_rhs => rw [← List.map_id name.toList]
  exact List.map_congr_left fun c hc => if_neg (h.ne_dot c hc)

lemma isStubName_baseName {f : Function} (h : f.Sound) : IsStubName (baseName f).toList := by
  rw [baseName, String.toList_append, String.toList_ofList]
  rcases h.qualified with ⟨-, hq⟩ | ⟨-, owner, howner, hq⟩
  · rw [hq, map_undot h.name]
    have := IsStubName.of_form h.name.isForm
    simpa using this
  · rw [hq, String.toList_append, String.toList_append, List.map_append, List.map_append,
      map_undot h.name, map_undot howner]
    have := (IsStubName.of_form howner.isForm).join h.name.isForm
    simpa using this

/-- The labels of statements that shape branches, in lower case. -/
lemma toLower_label {s : Statement} (h : s.Shows) (hs : s.shapesPath = true) :
    ∀ c ∈ toLower s.label.toList, (c.isAlphanum || c == '_') = true := by
  have hlabels : ∀ label ∈ ["If", "Try", "TryStar", "Return", "Raise"],
      ((toLower label.toList).all fun c => c.isAlphanum || c == '_') = true := by
    decide
  apply List.all_eq_true.mp
  apply hlabels
  cases s with
  | conditional test body orelse line label =>
      obtain ⟨-, rfl⟩ := h
      simp [Statement.label]
  | guarded body handlers types line label =>
      obtain ⟨-, rfl | rfl⟩ := h
      · simp [Statement.label]
      · simp [Statement.label]
  | ret value line label =>
      obtain ⟨-, rfl⟩ := h
      simp [Statement.label]
  | throw exc line label =>
      obtain ⟨-, rfl⟩ := h
      simp [Statement.label]
  | other label line => cases hs

lemma isStubName_labels {f : Function} (h : f.Sound) {steps : List Statement}
    (hs : ∀ s ∈ steps, s.Shows ∧ s.shapesPath = true) {ending : String}
    (hending : ∀ c ∈ ending.toList, (c.isAlphanum || c == '_') = true) :
    IsStubName (baseName f ++ "__"
      ++ joinWith "_" (steps.map fun s => String.ofList (toLower s.label.toList))
      ++ ending).toList := by
  have hlabels : ∀ c ∈
      (joinWith "_" (steps.map fun s => String.ofList (toLower s.label.toList))).toList,
      (c.isAlphanum || c == '_') = true := by
    rw [joinWith, String.toList_intercalate]
    refine forall_mem_intercalate (List.all_eq_true.mp (by decide)) ?_
    intro p hp
    rw [List.map_map] at hp
    obtain ⟨s, hs', rfl⟩ := List.mem_map.mp hp
    rw [Function.comp_apply, String.toList_ofList]
    exact toLower_label (hs s hs').1 (hs s hs').2
  generalize joinWith "_" (steps.map fun s => String.ofList (toLower s.label.toList)) = labels
    at hlabels ⊢
  have htail : IsForm ('_' :: (labels.toList ++ ending.toList)) := by
    apply isForm_ascii
    rw [List.all_eq_true, List.forall_mem_cons, List.forall_mem_append]
    exact ⟨by decide, hlabels, hending⟩
  have heq : (baseName f ++ "__" ++ labels ++ ending).toList =
      (baseName f).toList ++ '_' :: '_' :: (labels.toList ++ ending.toList) := by
    simp
  rw [heq]
  exact (isStubName_baseName h).join htail

lemma isStubName_branchName {f : Function} (h : f.Sound) {b : Branch}
    (hb : ∀ s ∈ b.steps, s.Shows ∧ s.shapesPath = true) : IsStubName (branchName f b).toList := by
  rw [branchName]
  split
  · exact isStubName_labels h hb (List.all_eq_true.mp (by decide))
  · exact isStubName_labels h hb (List.all_eq_true.mp (by decide))

lemma isStubName_numbered {name : String} (h : IsStubName name.toList) (n : Nat) :
    IsStubName (numbered name n).toList := by
  rw [toList_numbered]
  refine h.join (isForm_ascii ?_)
  rw [List.all_eq_true]
  intro c hc
  simp [Char.isAlphanum, Nat.isDigit_of_mem_toDigits (by omega) (by omega) hc]

end Branchwise
