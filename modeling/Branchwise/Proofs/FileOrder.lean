/-
The source files below a directory, in the order of their paths.

* `Path.before_iff`: the order by components is the lexicographic order of the parts.
* `Path.sorted_eq`: the paths in their order are an insertion sort.
* `Files.IsFileBelow`, `mem_sourceFiles`: which files are listed.
* `pairwise_sourceFiles`: the list is strictly increasing, so no file is listed twice.
-/
import Mathlib.Data.List.Sort
import Mathlib.Data.List.Nodup
import Mathlib.Data.String.Basic
import Branchwise.Analysis.Directory

namespace Branchwise

namespace Path

/-! ### The order of paths -/

/-- Texts are compared as their lists of characters are. -/
lemma textBefore_iff (a b : List Char) : textBefore a b = true ↔ a < b := by
  induction a generalizing b with
  | nil =>
      cases b with
      | nil => simp [textBefore]
      | cons d ds => simp [textBefore]
  | cons c cs ih =>
      cases b with
      | nil => simp [textBefore]
      | cons d ds =>
          rw [textBefore, List.cons_lt_cons_iff]
          split
          · next heq => simp [heq, ih]
          · next hne => simp [hne, Char.lt_def, UInt32.lt_iff_toNat_lt]

/-- Lists of components are compared in lexicographic order. -/
lemma partsBefore_iff (ps qs : List String) : partsBefore ps qs = true ↔ ps < qs := by
  induction ps generalizing qs with
  | nil =>
      cases qs with
      | nil => simp [partsBefore]
      | cons q qs => simp [partsBefore]
  | cons p ps ih =>
      cases qs with
      | nil => simp [partsBefore]
      | cons q qs =>
          rw [partsBefore, List.cons_lt_cons_iff]
          split
          · next heq => simp [heq, ih]
          · next hne =>
            rw [textBefore_iff, ← String.lt_iff_toList_lt]
            exact ⟨.inl, fun h => h.resolve_right fun heq => hne heq.1⟩

lemma before_iff (p q : Path) : p.before q = true ↔ p.parts < q.parts :=
  partsBefore_iff p.parts q.parts

/-- Paths from the same root with the same parts are equal. -/
lemma eq_of_parts {p q : Path} (hroot : p.slashes = q.slashes) (h : p.parts = q.parts) : p = q := by
  obtain ⟨n, ps⟩ := p
  obtain ⟨m, qs⟩ := q
  obtain rfl : n = m := hroot
  rw [parts, parts] at h
  split at h
  · exact congrArg (Path.mk n) h
  · exact congrArg (Path.mk n) (List.cons.inj h).2

/-- The order in which paths are sorted. -/
def NotBehind (p q : Path) : Prop :=
  p.parts ≤ q.parts

instance : DecidableRel NotBehind :=
  fun p q => inferInstanceAs (Decidable (p.parts ≤ q.parts))

instance : Std.Total NotBehind := ⟨fun p q => le_total p.parts q.parts⟩

instance : IsTrans Path NotBehind := ⟨fun _ _ _ => le_trans⟩

lemma insertSorted_eq (p : Path) (qs : List Path) :
    insertSorted p qs = qs.orderedInsert NotBehind p := by
  induction qs with
  | nil => rfl
  | cons q qs ih =>
      rw [insertSorted, List.orderedInsert_cons, ih]
      by_cases h : q.before p = true
      · have hbehind : ¬ NotBehind p q := not_le.mpr ((before_iff q p).mp h)
        rw [if_pos h, if_neg hbehind]
      · have hfront : NotBehind p q := not_lt.mp fun hlt => h ((before_iff q p).mpr hlt)
        rw [if_neg h, if_pos hfront]

/-- The paths in their order are an insertion sort. -/
lemma sorted_eq (paths : List Path) : sorted paths = paths.insertionSort NotBehind := by
  induction paths with
  | nil => rfl
  | cons p paths ih =>
      rw [List.insertionSort_cons, ← ih, ← insertSorted_eq]
      rfl

/-- Distinct paths from one root come in strictly increasing order. -/
lemma pairwise_sorted {paths : List Path} (hnodup : paths.Nodup) (root : Nat)
    (hroot : ∀ p ∈ paths, p.slashes = root) :
    (sorted paths).Pairwise fun p q => p.parts < q.parts := by
  have hperm := List.perm_insertionSort NotBehind paths
  rw [sorted_eq]
  refine ((List.pairwise_insertionSort NotBehind paths).and
    (hperm.nodup_iff.mpr hnodup)).imp_of_mem fun {p q} hp hq h => ?_
  have hp := hroot p (hperm.mem_iff.mp hp)
  have hq := hroot q (hperm.mem_iff.mp hq)
  exact lt_of_le_of_ne h.1 fun heq => h.2 (eq_of_parts (hp.trans hq.symm) heq)

end Path

/-! ### Files below a directory -/

/-- The path is that of the directory and one or more names, which lead from the place of
the directory to a file, and a walk down the directory comes upon it. -/
def Files.IsFileBelow (fs : Files) (directory p : Path) : Prop :=
  hasNul directory = false ∧ ∃ place names bytes,
    fs.find directory = .ok (place, .directory) ∧ fs.isListed place names = true ∧
      (place ++ names, .file bytes) ∈ fs.entries ∧
      p = ⟨directory.slashes, directory.components ++ names⟩

namespace Files

variable {fs : Files} {directory : Path}

lemma look_eq_some_iff {path : Path} {found : Place × Entry} :
    fs.look path = .ok (some found) ↔ hasNul path = false ∧ fs.find path = .ok found := by
  rw [look]
  cases hasNul path with
  | true => simp
  | false =>
      rw [if_neg Bool.false_ne_true]
      cases fs.find path with
      | ok found' => simp
      | error reason =>
          cases hreason : reason.isRefusal <;> simp [hreason]

lemma pathBelow?_eq_some_iff {place q : Place} {p : Path} :
    fs.pathBelow? directory place q = some p ↔ ∃ names, fs.isListed place names = true ∧
      q = place ++ names ∧ p = ⟨directory.slashes, directory.components ++ names⟩ := by
  constructor
  · intro h
    rw [pathBelow?, below?] at h
    by_cases hfront : place.isPrefixOf q = true
    · obtain ⟨names, rfl⟩ := List.isPrefixOf_iff_prefix.mp hfront
      rw [if_pos hfront, List.drop_left] at h
      dsimp only at h
      split at h
      · next hlisted => exact ⟨names, hlisted, rfl, (Option.some.inj h).symm⟩
      · cases h
    · rw [if_neg hfront] at h
      cases h
  · rintro ⟨names, hlisted, rfl, rfl⟩
    rw [pathBelow?, below?, if_pos (List.isPrefixOf_iff_prefix.mpr (List.prefix_append _ _)),
      List.drop_left]
    exact if_pos hlisted

lemma listing_eq {place : Place} (hlook : fs.look directory = .ok (some (place, .directory))) :
    fs.listing directory = fs.entries.filterMap fun (p, entry) =>
      (fs.pathBelow? directory place p).map fun path => (path, entry) := by
  rw [listing, hlook]

/-- A path that is not that of a directory has no entries below it. -/
lemma listing_cases (fs : Files) (directory : Path) :
    fs.listing directory = [] ∨ ∃ place, fs.look directory = .ok (some (place, .directory)) := by
  rw [listing]
  split
  · next place hlook => exact .inr ⟨place, hlook⟩
  · exact .inl rfl

/-- **The entries below a directory.** -/
lemma mem_listing {p : Path} {entry : Entry} : (p, entry) ∈ fs.listing directory ↔
    ∃ place names, fs.look directory = .ok (some (place, .directory)) ∧
      fs.isListed place names = true ∧ (place ++ names, entry) ∈ fs.entries ∧
      p = ⟨directory.slashes, directory.components ++ names⟩ := by
  constructor
  · intro h
    rcases listing_cases fs directory with hnone | ⟨place, hlook⟩
    · rw [hnone] at h
      cases h
    · rw [listing_eq hlook, List.mem_filterMap] at h
      obtain ⟨⟨q, entry'⟩, hentry, h⟩ := h
      obtain ⟨path, hpath, heq⟩ := Option.map_eq_some_iff.mp h
      cases heq
      obtain ⟨names, hlisted, rfl, rfl⟩ := pathBelow?_eq_some_iff.mp hpath
      exact ⟨place, names, hlook, hlisted, hentry, rfl⟩
  · rintro ⟨place, names, hlook, hlisted, hentry, rfl⟩
    rw [listing_eq hlook, List.mem_filterMap]
    exact ⟨_, hentry, Option.map_eq_some_iff.mpr
      ⟨_, pathBelow?_eq_some_iff.mpr ⟨names, hlisted, rfl, rfl⟩, rfl⟩⟩

/-- No place holds two entries, so none is listed twice. -/
lemma nodup_listing (fs : Files) (directory : Path) :
    (fs.listing directory).Pairwise fun a b => a.1 ≠ b.1 := by
  rcases listing_cases fs directory with hnone | ⟨place, hlook⟩
  · rw [hnone]
    exact .nil
  · rw [listing_eq hlook, List.pairwise_filterMap]
    refine (List.pairwise_map.mp fs.nodup).imp fun {a b} hne p hp q hq heq => hne ?_
    obtain ⟨path, hpath, rfl⟩ := Option.map_eq_some_iff.mp hp
    obtain ⟨path', hpath', rfl⟩ := Option.map_eq_some_iff.mp hq
    obtain ⟨names, -, ha, rfl⟩ := pathBelow?_eq_some_iff.mp hpath
    obtain ⟨names', -, hb, rfl⟩ := pathBelow?_eq_some_iff.mp hpath'
    have hnames := List.append_cancel_left (congrArg Path.components heq)
    rw [ha, hb, hnames]

lemma mem_filesBelow {p : Path} : p ∈ fs.filesBelow directory ↔ fs.IsFileBelow directory p := by
  rw [filesBelow, List.mem_filterMap]
  constructor
  · rintro ⟨⟨path, entry⟩, hentry, hp⟩
    cases entry with
    | directory => cases hp
    | file bytes =>
        cases hp
        obtain ⟨place, names, hlook, hlisted, hmem, rfl⟩ := mem_listing.mp hentry
        obtain ⟨hnul, hfind⟩ := look_eq_some_iff.mp hlook
        exact ⟨hnul, place, names, bytes, hfind, hlisted, hmem, rfl⟩
  · rintro ⟨hnul, place, names, bytes, hfind, hlisted, hmem, rfl⟩
    exact ⟨_, mem_listing.mpr
      ⟨place, names, look_eq_some_iff.mpr ⟨hnul, hfind⟩, hlisted, hmem, rfl⟩, rfl⟩

lemma nodup_filesBelow (fs : Files) (directory : Path) : (fs.filesBelow directory).Nodup := by
  rw [filesBelow, List.Nodup, List.pairwise_filterMap]
  refine (nodup_listing fs directory).imp fun {a b} hne p hp q hq heq => hne ?_
  obtain ⟨path, entry⟩ := a
  obtain ⟨path', entry'⟩ := b
  cases entry with
  | directory => cases hp
  | file bytes =>
      cases entry' with
      | directory => cases hq
      | file bytes' =>
          cases hp
          cases hq
          exact heq

end Files

section SourceFiles

variable (fs : Files) (directory : Path)

/-- **The source files below a directory** are the files below it with the suffix of a
source file. -/
lemma mem_sourceFiles {p : Path} :
    p ∈ sourceFiles fs directory ↔ p.isSource = true ∧ fs.IsFileBelow directory p := by
  rw [sourceFiles, Path.sorted_eq, (List.perm_insertionSort _ _).mem_iff, List.mem_filter,
    Files.mem_filesBelow, and_comm]

/-- **The source files below a directory are listed in strictly increasing order.** -/
lemma pairwise_sourceFiles :
    (sourceFiles fs directory).Pairwise fun p q => p.parts < q.parts := by
  have hnodup := (Files.nodup_filesBelow fs directory).filter Path.isSource
  refine Path.pairwise_sorted hnodup directory.slashes fun p hp => ?_
  obtain ⟨-, -, -, -, -, -, -, rfl⟩ := Files.mem_filesBelow.mp (List.mem_of_mem_filter hp)
  exact rfl

lemma nodup_sourceFiles : (sourceFiles fs directory).Nodup :=
  (pairwise_sourceFiles fs directory).imp fun hlt heq => (ne_of_lt hlt) (congrArg Path.parts heq)

end SourceFiles

end Branchwise
