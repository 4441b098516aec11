/-
Which functions of a module are reported.

A selection decides on each statement of a module by itself, so two selections, or two modules,
are compared statement by statement. What a module exports is decided by the first display that
is assigned to `__all__`; without one, by the underscores of the names.

* `Selection.Within`: one selection asks for no more than another;
  `Selection.Within.functions_sublist` says that it is given no more.
* `functions_withoutMethods`: what is reported without methods.
* `Stmt.SameButValue`, `functions_of_sameButValue`: private functions do not depend on the
  values of assignments.
* `selections_compare`: **the selections of a module compared**.
* `Stmt.Displays`, `FirstDisplay`, `Lists`: the names that a module lists in `__all__`.
* `IsExported`, `IsSpecial`: names that a module exports, and special ones such as `__call__`.
* `functions_exported`: **what is reported by default**, and when it is what the module exports.
-/
import Mathlib.Data.List.Flatten
import Mathlib.Data.List.Forall2
import Mathlib.Tactic.Common
import Branchwise.Analysis.Basic

namespace Branchwise.Source

/-! ### Larger selections -/

/-- Whatever the first selection asks for, the second one asks for too. -/
structure Selection.Within (sel sel' : Selection) : Prop where
  includePrivate : sel.includePrivate = true → sel'.includePrivate = true
  includeMethods : sel.includeMethods = true → sel'.includeMethods = true

/-- Private names are offered on demand, and the exported ones in any case. -/
lemma Selection.offers_eq (sel : Selection) (exports : Option (List (List Nat))) (name : String) :
    sel.offers exports name =
      (sel.includePrivate || (⟨false, false⟩ : Selection).offers exports name) := rfl

namespace Selection.Within

variable {sel sel' : Selection} (h : sel.Within sel')

include h

lemma offers {exports : Option (List (List Nat))} {name : String}
    (hname : sel.offers exports name = true) : sel'.offers exports name = true := by
  rw [offers_eq, Bool.or_eq_true] at hname ⊢
  exact hname.imp_left h.includePrivate

lemma methods_sublist (owner : String) (body : List Stmt) :
    (methods sel owner body).Sublist (methods sel' owner body) := by
  refine List.monotone_filter_right _ fun f hf => ?_
  rw [Bool.or_eq_true] at hf ⊢
  exact hf.imp_left h.includePrivate

/-- A statement contributes no less to a larger selection. -/
lemma contributes_sublist (exports : Option (List (List Nat))) (s : Stmt) :
    (s.contributes sel exports).Sublist (s.contributes sel' exports) := by
  cases s with
  | function line isAsync name params body =>
      rw [Stmt.contributes, Stmt.contributes]
      by_cases hname : sel.offers exports name = true
      · rw [if_pos hname, if_pos (h.offers hname)]
      · rw [if_neg hname]
        exact List.nil_sublist _
  | classDef line name body =>
      rw [Stmt.contributes, Stmt.contributes]
      by_cases hclass : (sel.includeMethods && sel.offers exports name) = true
      · obtain ⟨hmethods, hname⟩ := Bool.and_eq_true_iff.mp hclass
        rw [if_pos hclass, h.includeMethods hmethods, h.offers hname]
        exact h.methods_sublist name body
      · rw [if_neg hclass]
        exact List.nil_sublist _
  | _ => exact List.nil_sublist _

/-- **A larger selection reports no less**, in the same order. -/
lemma functions_sublist (module : List Stmt) :
    (functions sel module).Sublist (functions sel' module) :=
  List.Sublist.flatMap_right module fun s _ => h.contributes_sublist _ s

end Selection.Within

/-! ### Methods -/

lemma isMethod_of_function? {owner : Option String} {s : Stmt} {f : Branchwise.Function}
    (h : s.function? owner = some f) : f.isMethod = owner.isSome := by
  cases s with
  | function line isAsync name params body =>
      cases h
      rfl
  | _ => cases h

lemma isMethod_of_mem_methods {sel : Selection} {owner : String} {body : List Stmt}
    {f : Branchwise.Function} (h : f ∈ methods sel owner body) : f.isMethod = true := by
  obtain ⟨s, -, hf⟩ := List.mem_filterMap.mp (List.mem_of_mem_filter h)
  exact isMethod_of_function? hf

/-- Without methods, a statement contributes the rest. -/
lemma Stmt.contributes_withoutMethods (includePrivate : Bool) (exports : Option (List (List Nat)))
    (s : Stmt) :
    s.contributes ⟨includePrivate, false⟩ exports =
      (s.contributes ⟨includePrivate, true⟩ exports).filter fun f => !f.isMethod := by
  cases s with
  | function line isAsync name params body =>
      rw [contributes, contributes, Selection.offers_eq, Selection.offers_eq ⟨_, true⟩]
      split <;> rfl
  | classDef line name body =>
      rw [contributes, contributes, Bool.false_and, if_neg Bool.false_ne_true, Bool.true_and]
      split
      · symm
        rw [List.filter_eq_nil_iff]
        intro f hf
        simp [isMethod_of_mem_methods hf]
      · rfl
  | _ => rfl

/-- **Without methods, the rest is reported.** -/
lemma functions_withoutMethods (includePrivate : Bool) (module : List Stmt) :
    functions ⟨includePrivate, false⟩ module =
      (functions ⟨includePrivate, true⟩ module).filter fun f => !f.isMethod := by
  rw [functions, functions, List.filter_flatMap]
  exact List.flatMap_congr fun s _ => s.contributes_withoutMethods includePrivate _

/-! ### Values of assignments -/

/-- The same statement, up to the value if it is an assignment. -/
inductive Stmt.SameButValue : Stmt → Stmt → Prop where
  | same (s : Stmt) : SameButValue s s
  | assign (line : Nat) (targets : List Expr) (value value' : Expr) :
      SameButValue (.assign line targets value) (.assign line targets value')
  | annotated (line : Nat) (target : Expr) (value value' : Option Expr) :
      SameButValue (.annotated line target value) (.annotated line target value')

/-- With the private functions, what is exported makes no difference. -/
lemma Stmt.SameButValue.contributes_eq {s s' : Stmt} (h : s.SameButValue s')
    (includeMethods : Bool) (exports exports' : Option (List (List Nat))) :
    s.contributes ⟨true, includeMethods⟩ exports =
      s'.contributes ⟨true, includeMethods⟩ exports' := by
  cases h with
  | same => cases s <;> rfl
  | assign => rfl
  | annotated => rfl

/-- **With the private functions, the values of assignments make no difference**, not even that
of `__all__`. -/
lemma functions_of_sameButValue {module module' : List Stmt}
    (h : List.Forall₂ Stmt.SameButValue module module') (includeMethods : Bool) :
    functions ⟨true, includeMethods⟩ module = functions ⟨true, includeMethods⟩ module' := by
  rw [functions, functions]
  generalize literalExports? module = exports, literalExports? module' = exports'
  induction h with
  | nil => rfl
  | cons hs _ ih =>
      rw [List.flatMap_cons, List.flatMap_cons, ih,
        hs.contributes_eq includeMethods exports exports']

/-! ### Selections compared -/

/-- **The selections of a module compared.** A larger one reports no less, and what they share
in the same order. Without methods, all but the methods are reported. The listed names do not
depend on the selection. With the private functions, it makes no difference if assignments, and
among them those to `__all__`, get other values. -/
theorem selections_compare :
    (∀ sel sel' : Selection, sel.Within sel' → ∀ module,
      (functions sel module).Sublist (functions sel' module)) ∧
    (∀ includePrivate module, functions ⟨includePrivate, false⟩ module =
      (functions ⟨includePrivate, true⟩ module).filter fun f => !f.isMethod) ∧
    (∀ interp (sel sel' : Selection) source file name,
      (SourceModule.read interp sel source file name).map SourceModule.exports =
        (SourceModule.read interp sel' source file name).map SourceModule.exports) ∧
    (∀ module module', List.Forall₂ Stmt.SameButValue module module' → ∀ includeMethods,
      functions ⟨true, includeMethods⟩ module = functions ⟨true, includeMethods⟩ module') := by
  refine ⟨fun sel sel' h module => h.functions_sublist module, functions_withoutMethods, ?_,
    fun module module' h => functions_of_sameButValue h⟩
  intro interp sel sel' source file name
  rw [SourceModule.read, SourceModule.read]
  split <;> rfl

/-- A module with a list of its names, a public and a private function, and a class. -/
def listedModule (names : List String) : List Stmt :=
  let text (name : String) : Expr := .constant (.text false (name.toList.map Char.toNat))
  let function (line : Nat) (name : String) : Stmt :=
    .function line false name (.mk [] [] none [] none) [.ret (line + 1) none]
  [.assign 1 [.name "__all__"] (.list (names.map text)), function 3 "f", function 6 "_g",
    .classDef 9 "C" [function 10 "m", function 12 "_n"]]

/-- Other names are listed: the default selection reports other functions, the largest one
does not. -/
theorem selections_compare_listed :
    let module := listedModule ["f", "C"]
    let module' := listedModule ["_g"]
    (functions ⟨false, true⟩ module).Sublist (functions ⟨true, true⟩ module) ∧
      functions ⟨true, true⟩ module = functions ⟨true, true⟩ module' ∧
      (functions ⟨false, true⟩ module).map (·.qualifiedName) = ["f", "C.m"] ∧
      (functions ⟨false, true⟩ module').map (·.qualifiedName) = ["_g"] ∧
      (functions ⟨true, true⟩ module).map (·.qualifiedName) = ["f", "_g", "C.m", "C._n"] := by
  intro module module'
  obtain ⟨hsublist, -, -, hvalue⟩ := selections_compare
  have hmodules : List.Forall₂ Stmt.SameButValue module module' :=
    .cons (.assign _ _ _ _) (.cons (.same _) (.cons (.same _) (.cons (.same _) .nil)))
  refine ⟨hsublist ⟨false, true⟩ ⟨true, true⟩ ⟨fun _ => rfl, fun _ => rfl⟩ module,
    hvalue module module' hmodules true, ?_, ?_, ?_⟩ <;> decide +kernel

/-! ### Listed names -/

/-- The statement assigns a list or a tuple of these items to `__all__`, with an annotation or
without one. -/
inductive Stmt.Displays : Stmt → List Expr → Prop where
  | assign {line : Nat} {targets : List Expr} {value : Expr} {items : List Expr}
      (htarget : .name "__all__" ∈ targets) (hvalue : value = .list items ∨ value = .tuple items) :
      Displays (.assign line targets value) items
  | annotated {line : Nat} {value : Expr} {items : List Expr}
      (hvalue : value = .list items ∨ value = .tuple items) :
      Displays (.annotated line (.name "__all__") (some value)) items

/-- The items of the first such display in a module. -/
def FirstDisplay (module : List Stmt) (items : List Expr) : Prop :=
  ∃ before s after, module = before ++ s :: after ∧ s.Displays items ∧
    ∀ t ∈ before, ∀ items', ¬ t.Displays items'

/-- The name stands among the items, as a text. -/
def Lists (items : List Expr) (name : String) : Prop :=
  ∃ marked, .constant (.text marked (Text.codes name.toList)) ∈ items

/-- The texts among items, by their code points. -/
def listedNames (items : List Expr) : List (List Nat) :=
  items.filterMap fun
    | .constant (.text _ codes) => some codes
    | _ => none

lemma mem_listedNames {items : List Expr} {name : String} :
    Text.codes name.toList ∈ listedNames items ↔ Lists items name := by
  rw [listedNames, List.mem_filterMap, Lists]
  constructor
  · rintro ⟨e, he, hname⟩
    split at hname
    · next marked codes =>
      obtain rfl := Option.some.inj hname
      exact ⟨marked, he⟩
    · cases hname
  · rintro ⟨marked, he⟩
    exact ⟨_, he, rfl⟩

lemma literalNames?_eq_some_iff {e : Expr} {names : List (List Nat)} :
    e.literalNames? = some names ↔
      ∃ items, (e = .list items ∨ e = .tuple items) ∧ names = listedNames items := by
  constructor
  · intro h
    cases e with
    | list items => exact ⟨items, .inl rfl, (Option.some.inj h).symm⟩
    | tuple items => exact ⟨items, .inr rfl, (Option.some.inj h).symm⟩
    | _ => cases h
  · rintro ⟨items, rfl | rfl, rfl⟩ <;> rfl

lemma isName_iff {id : String} {e : Expr} : e.isName id = true ↔ e = .name id := by
  cases e <;> simp [Expr.isName]

lemma Stmt.exports?_eq_some_iff {s : Stmt} {names : List (List Nat)} :
    s.exports? = some names ↔ ∃ items, s.Displays items ∧ names = listedNames items := by
  constructor
  · intro h
    cases s with
    | assign line targets value =>
        rw [exports?] at h
        split at h
        · next htargets =>
          obtain ⟨e, he, hname⟩ := List.any_eq_true.mp htargets
          rw [isName_iff.mp hname] at he
          obtain ⟨items, hvalue, hnames⟩ := literalNames?_eq_some_iff.mp h
          exact ⟨items, .assign he hvalue, hnames⟩
        · cases h
    | annotated line target value =>
        cases value with
        | none => cases h
        | some value =>
            rw [exports?] at h
            split at h
            · next htarget =>
              rw [isName_iff.mp htarget]
              obtain ⟨items, hvalue, hnames⟩ := literalNames?_eq_some_iff.mp h
              exact ⟨items, .annotated hvalue, hnames⟩
            · cases h
    | _ => cases h
  · rintro ⟨items, hitems, hnames⟩
    cases hitems with
    | assign htarget hvalue =>
        have htargets := List.any_eq_true.mpr ⟨_, htarget, isName_iff.mpr rfl⟩
        rw [exports?, if_pos htargets]
        exact literalNames?_eq_some_iff.mpr ⟨items, hvalue, hnames⟩
    | annotated hvalue =>
        rw [exports?, if_pos (isName_iff.mpr rfl)]
        exact literalNames?_eq_some_iff.mpr ⟨items, hvalue, hnames⟩

lemma Stmt.exports?_eq_none_iff {s : Stmt} : s.exports? = none ↔ ∀ items, ¬ s.Displays items := by
  rw [Option.eq_none_iff_forall_ne_some]
  simp only [ne_eq, exports?_eq_some_iff, not_exists, not_and]
  exact ⟨fun h items hitems => h _ items hitems rfl,
    fun h names items hitems => absurd hitems (h items)⟩

/-- **The names that a module lists** are those of its first display. -/
lemma literalExports?_eq_some_iff {module : List Stmt} {names : List (List Nat)} :
    literalExports? module = some names ↔
      ∃ items, FirstDisplay module items ∧ names = listedNames items := by
  rw [literalExports?, List.findSome?_eq_some_iff]
  simp only [Stmt.exports?_eq_some_iff, Stmt.exports?_eq_none_iff]
  constructor
  · rintro ⟨before, s, after, hmodule, ⟨items, hitems, hnames⟩, hbefore⟩
    exact ⟨items, ⟨before, s, after, hmodule, hitems, hbefore⟩, hnames⟩
  · rintro ⟨items, ⟨before, s, after, hmodule, hitems, hbefore⟩, hnames⟩
    exact ⟨before, s, after, hmodule, ⟨items, hitems, hnames⟩, hbefore⟩

/-! ### Exported names -/

/-- A name that the module exports: its first display lists it, or there is none and the name
has no leading underscore. -/
def IsExported (module : List Stmt) (name : String) : Prop :=
  (∃ items, FirstDisplay module items ∧ Lists items name) ∨
    (¬ ∃ items, FirstDisplay module items) ∧ ¬ ['_'] <+: name.toList

/-- A special name: two underscores at its start, and two at its end. -/
def IsSpecial (name : String) : Prop :=
  ['_', '_'] <+: name.toList ∧ ['_', '_'] <:+ name.toList

lemma isPrivate_eq_false_iff {name : String} :
    isPrivate name = false ↔ ¬ ['_'] <+: name.toList ∨ IsSpecial name := by
  rw [isPrivate, IsSpecial, ← List.isPrefixOf_iff_prefix, ← List.isPrefixOf_iff_prefix,
    ← List.isSuffixOf_iff_suffix]
  cases ['_', '_'].isPrefixOf name.toList <;> cases ['_', '_'].isSuffixOf name.toList <;>
    cases ['_'].isPrefixOf name.toList <;> decide

lemma IsSpecial.underscore {name : String} (h : IsSpecial name) : ['_'] <+: name.toList :=
  .trans ⟨['_'], rfl⟩ h.1

section Offers

variable {module : List Stmt}

/-- A module has one first display at most, and it decides. -/
lemma exists_firstDisplay_iff :
    (∃ items, FirstDisplay module items) ↔ (literalExports? module).isSome = true := by
  rw [Option.isSome_iff_exists]
  simp only [literalExports?_eq_some_iff]
  exact ⟨fun ⟨items, h⟩ => ⟨_, items, h, rfl⟩, fun ⟨_, items, h, _⟩ => ⟨items, h⟩⟩

instance : Decidable (∃ items, FirstDisplay module items) :=
  decidable_of_iff _ exists_firstDisplay_iff.symm

lemma isExported_iff {name : String} : IsExported module name ↔
    ((literalExports? module).map fun names => decide (Text.codes name.toList ∈ names)).getD
      (decide (¬ ['_'] <+: name.toList)) = true := by
  cases hexports : literalExports? module with
  | none =>
      have hnone : ¬ ∃ items, FirstDisplay module items := by
        rw [exists_firstDisplay_iff, hexports]
        exact Bool.false_ne_true
      have hlists : ¬ ∃ items, FirstDisplay module items ∧ Lists items name :=
        fun ⟨items, h, _⟩ => hnone ⟨items, h⟩
      simp [IsExported, hnone, hlists]
  | some names =>
      obtain ⟨items, hitems, rfl⟩ := literalExports?_eq_some_iff.mp hexports
      have hone : ∀ items', FirstDisplay module items' →
          listedNames items' = listedNames items := by
        intro items' h
        have hexports' := literalExports?_eq_some_iff.mpr ⟨items', h, rfl⟩
        exact Option.some.inj (hexports'.symm.trans hexports)
      simp only [Option.map_some, Option.getD_some, decide_eq_true_eq, IsExported,
        ← mem_listedNames]
      constructor
      · rintro (⟨items', h, hname⟩ | ⟨hnone, -⟩)
        · rwa [hone items' h] at hname
        · exact absurd ⟨items, hitems⟩ hnone
      · exact fun hname => .inl ⟨items, hitems, hname⟩

instance (name : String) : Decidable (IsExported module name) :=
  decidable_of_iff _ isExported_iff.symm

instance (name : String) : Decidable (IsSpecial name) :=
  inferInstanceAs (Decidable (_ ∧ _))

/-- What the default selection offers: besides what the module exports, special names if the
module lists none. -/
lemma offers_iff {name : String} :
    (⟨false, false⟩ : Selection).offers (literalExports? module) name = true ↔
      IsExported module name ∨ (¬ ∃ items, FirstDisplay module items) ∧ IsSpecial name := by
  rw [isExported_iff, exists_firstDisplay_iff]
  cases literalExports? module with
  | none =>
      have hprivate : (⟨false, false⟩ : Selection).offers none name = !isPrivate name := rfl
      rw [hprivate, Bool.not_eq_true', isPrivate_eq_false_iff]
      simp
  | some names =>
      have hlisted : (⟨false, false⟩ : Selection).offers (some names) name =
          names.contains (Text.codes name.toList) := rfl
      rw [hlisted]
      simp

end Offers

/-- The functions that a module defines. -/
def definedFunctions (module : List Stmt) : List Branchwise.Function :=
  module.filterMap (Stmt.function? none)

/-- Without methods, a statement is selected by the name that it defines. -/
lemma Stmt.contributes_eq_filter (includePrivate : Bool) (exports : Option (List (List Nat)))
    (s : Stmt) :
    s.contributes ⟨includePrivate, false⟩ exports = (s.function? none).toList.filter fun f =>
      (⟨includePrivate, false⟩ : Selection).offers exports f.name := by
  cases s with
  | function line isAsync name params body =>
      rw [contributes, function?, Option.toList_some, List.filter_cons, List.filter_nil]
  | _ => rfl

/-- Without methods, the functions that a module defines are selected by their names. -/
lemma functions_eq_filter (includePrivate : Bool) (module : List Stmt) :
    functions ⟨includePrivate, false⟩ module = (definedFunctions module).filter fun f =>
      (⟨includePrivate, false⟩ : Selection).offers (literalExports? module) f.name := by
  rw [functions, definedFunctions, List.filterMap_eq_flatMap_toList, List.filter_flatMap]
  exact List.flatMap_congr fun s _ => s.contributes_eq_filter includePrivate _

/-- A part of a filtered list is the whole of it if nothing is left out. -/
lemma filter_eq_filter_iff {α : Type} {p q : α → Bool} {l : List α}
    (h : ∀ a ∈ l, p a = true → q a = true) :
    l.filter q = l.filter p ↔ ∀ a ∈ l, q a = true → p a = true := by
  constructor
  · intro heq a ha hq
    have hmem : a ∈ l.filter q := List.mem_filter.mpr ⟨ha, hq⟩
    rw [heq] at hmem
    exact (List.mem_filter.mp hmem).2
  · intro hall
    exact List.filter_congr fun a ha => Bool.eq_iff_iff.mpr ⟨hall a ha, h a ha⟩

/-- **What is reported by default**: of the functions that a module defines, those that it
exports, and those with special names if it lists no names. So these are the exported ones,
unless a module that lists no names defines a function with a special name. -/
theorem functions_exported (module : List Stmt) :
    (functions ⟨false, false⟩ module = (definedFunctions module).filter fun f =>
      IsExported module f.name ∨ (¬ ∃ items, FirstDisplay module items) ∧ IsSpecial f.name) ∧
    (functions ⟨false, false⟩ module =
        (definedFunctions module).filter (fun f => IsExported module f.name) ↔
      (∃ items, FirstDisplay module items) ∨
        ∀ f ∈ definedFunctions module, ¬ IsSpecial f.name) := by
  have hreported : functions ⟨false, false⟩ module = (definedFunctions module).filter fun f =>
      IsExported module f.name ∨ (¬ ∃ items, FirstDisplay module items) ∧ IsSpecial f.name := by
    rw [functions_eq_filter]
    refine List.filter_congr fun f _ => ?_
    rw [Bool.eq_iff_iff, offers_iff, decide_eq_true_eq]
  refine ⟨hreported, ?_⟩
  rw [hreported, filter_eq_filter_iff (by simp +contextual)]
  simp only [decide_eq_true_eq]
  constructor
  · intro hall
    by_cases hdisplay : ∃ items, FirstDisplay module items
    · exact .inl hdisplay
    · refine .inr fun f hf hspecial => ?_
      rcases hall f hf (.inr ⟨hdisplay, hspecial⟩) with ⟨items, hitems, -⟩ | ⟨-, hpublic⟩
      · exact hdisplay ⟨items, hitems⟩
      · exact hpublic hspecial.underscore
  · rintro hcase f hf (hexported | ⟨hnone, hspecial⟩)
    · exact hexported
    · exact absurd hspecial (hcase.resolve_left hnone f hf)

/-- What can be computed from a result holds of the result. -/
lemma exists_eq_ok {ε α : Type} {x : Except ε α} {P : α → Prop} [DecidablePred P]
    (h : (x.toOption.any fun a => P a) = true) : ∃ a, x = .ok a ∧ P a := by
  cases x with
  | error e => cases h
  | ok a => exact ⟨a, rfl, of_decide_eq_true h⟩

/-- A function with a special name is reported, although the module does not export it. -/
theorem special_function_reported :
    let source := "def __getattr__(name):\n    return name\n"
    ∃ module, readModule .basic source = .ok module ∧
      (functions ⟨false, false⟩ module).map (·.name) = ["__getattr__"] ∧
      ((definedFunctions module).filter fun f => IsExported module f.name).map (·.name) = [] := by
  intro source
  exact exists_eq_ok (by decide +kernel)

end Branchwise.Source
