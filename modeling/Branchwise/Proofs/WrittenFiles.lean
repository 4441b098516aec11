/-
What a written file holds.

Writing puts a file where the path leads. No directory is replaced, so the path leads
there again, and finds what was written.

* `Files.entry?_put_self`, `Files.entry?_put_of_ne`: one entry that was put.
* `Files.LeadsDown`: a name that leads down from a directory.
* `Files.follow_append`: a way in two parts.
* `Files.follow_put_of_directory`, `Files.follow_put_self`: following names after a file was
  put.
* `Files.find_of_write`: **the path of a written file leads to what was written**.
-/
import Mathlib.Data.List.Basic
import Mathlib.Tactic.Common
import Branchwise.Files

namespace Branchwise.Files

variable {fs : Files} {place : Place} {bytes : List Nat}

/-! ### Entries -/

@[simp]
lemma rights_put (entry : Entry) : (fs.put place entry).rights = fs.rights := rfl

lemma lookup_filter_of_ne {p : Place} (h : p ≠ place) (entries : List (Place × Entry)) :
    (entries.filter fun (q, _) => q != place).lookup p = entries.lookup p := by
  induction entries with
  | nil => rfl
  | cons entry entries ih =>
      obtain ⟨q, e⟩ := entry
      by_cases hq : q = place
      · subst hq
        have hne : (p == q) = false := by simpa using h
        rw [List.filter_cons_of_neg (by simp), ih, List.lookup_cons, hne]
      · rw [List.filter_cons_of_pos (by simpa using hq), List.lookup_cons, List.lookup_cons, ih]

lemma entry?_put_self {entry : Entry} (h : fs.isAbove place = false) :
    Files.entry? (fs.put place entry) place = some entry := by
  have habove : (fs.put place entry).isAbove place = false := h
  rw [ entry?, habove, if_neg Bool.false_ne_true, put, List.lookup_cons_self]

lemma entry?_put_of_ne {entry : Entry} {p : Place} (h : p ≠ place) :
    Files.entry? (fs.put place entry) p = fs.entry? p := by
  have habove : (fs.put place entry).isAbove p = fs.isAbove p := rfl
  have hlookup : (fs.put place entry).entries.lookup p = fs.entries.lookup p := by
    have hne : (p == place) = false := by simpa using h
    rw [put, List.lookup_cons, hne]
    exact lookup_filter_of_ne h fs.entries
  rw [ entry?, entry?, habove, hlookup]

/-- What is no directory lies on no way to the current one. -/
lemma isAbove_of_entry?_ne (h : fs.entry? place ≠ some .directory) : fs.isAbove place = false := by
  rw [ entry?] at h
  split at h
  · exact absurd rfl h
  · next habove => simpa using habove

/-! ### Ways -/

/-- The name leads down from the directory at a place, which may be searched. -/
structure LeadsDown (fs : Files) (start : Place) (name : String) : Prop where
  search : (fs.rights start).search = true
  ne_here : name ≠ "."
  ne_up : name ≠ ".."
  short : ¬ longestName < byteLength name

lemma LeadsDown.follow_directory {start : Place} {name : String} (h : fs.LeadsDown start name)
    (hentry : fs.entry? (start ++ [name]) = some .directory) (names : List String) :
    fs.follow start (name :: names) = fs.follow (start ++ [name]) names := by
  simp [follow, h.search, h.ne_here, h.ne_up, h.short, hentry]

lemma LeadsDown.follow_file {start : Place} {name : String} (h : fs.LeadsDown start name)
    (hentry : fs.entry? (start ++ [name]) = some (.file bytes)) :
    fs.follow start [name] = .ok (start ++ [name], .file bytes) := by
  simp [follow, h.search, h.ne_here, h.ne_up, h.short, hentry]

lemma follow_here {start : Place} (h : (fs.rights start).search = true) (names : List String) :
    fs.follow start ("." :: names) = fs.follow start names := by
  rw [follow, h, if_neg (by decide), if_pos rfl]

lemma follow_up {start : Place} (h : (fs.rights start).search = true) (names : List String) :
    fs.follow start (".." :: names) = fs.follow start.dropLast names := by
  rw [follow, h, if_neg (by decide), if_neg (by decide), if_pos rfl]

/-- A way in two parts goes on where the first part leads. -/
lemma follow_append {start dir : Place} {names : List String}
    (h : fs.follow start names = .ok (dir, .directory)) (rest : List String) :
    fs.follow start (names ++ rest) = fs.follow dir rest := by
  fun_induction follow fs start names with
  | case1 start => cases h; rfl
  | case2 => cases h
  | case3 start names hsearch ih =>
      rw [List.cons_append, follow_here (by simpa using hsearch)]
      exact ih h
  | case4 start names hsearch _ ih =>
      rw [List.cons_append, follow_up (by simpa using hsearch)]
      exact ih h
  | case5 => cases h
  | case6 => cases h
  | case7 start name names hsearch hhere hup hlong hentry ih =>
      have hdown : fs.LeadsDown start name := ⟨by simpa using hsearch, hhere, hup, hlong⟩
      rw [List.cons_append, hdown.follow_directory hentry]
      exact ih h
  | case8 => cases h
  | case9 => cases h

section Put

variable (h : fs.entry? place ≠ some .directory)

include h

/-- A way to a directory is still there after a file was put where no directory is. -/
lemma follow_put_of_directory {start dir : Place} {names : List String}
    (hfollow : fs.follow start names = .ok (dir, .directory)) :
    (fs.put place (.file bytes)).follow start names = .ok (dir, .directory) := by
  fun_induction follow fs start names with
  | case1 start => exact hfollow
  | case2 => cases hfollow
  | case3 start names hsearch ih =>
      have hright : ((fs.put place (.file bytes)).rights start).search = true := by
        simpa using hsearch
      rw [follow_here hright]
      exact ih hfollow
  | case4 start names hsearch _ ih =>
      have hright : ((fs.put place (.file bytes)).rights start).search = true := by
        simpa using hsearch
      rw [follow_up hright]
      exact ih hfollow
  | case5 => cases hfollow
  | case6 => cases hfollow
  | case7 start name names hsearch hhere hup hlong hentry ih =>
      have hne : start ++ [name] ≠ place := by
        rintro rfl
        exact h hentry
      have hdown : (fs.put place (.file bytes)).LeadsDown start name :=
        ⟨by simpa using hsearch, hhere, hup, hlong⟩
      rw [hdown.follow_directory ((entry?_put_of_ne hne).trans hentry)]
      exact ih hfollow
  | case8 => cases hfollow
  | case9 => cases hfollow

/-- One more name leads to the file that was put there. -/
lemma follow_put_self {dir : Place} {name : String} (hplace : place = dir ++ [name])
    (hdown : fs.LeadsDown dir name) :
    (fs.put place (.file bytes)).follow dir [name] = .ok (place, .file bytes) := by
  have hdown' : (fs.put place (.file bytes)).LeadsDown dir name :=
    ⟨hdown.search, hdown.ne_here, hdown.ne_up, hdown.short⟩
  subst hplace
  exact hdown'.follow_file (entry?_put_self (isAbove_of_entry?_ne h))

end Put

/-- A way to a file starts with the way to its directory. -/
lemma exists_of_follow_file {start : Place} {names : List String} {old : List Nat}
    (h : fs.follow start names = .ok (place, .file old)) :
    ∃ dir init name, names = init ++ [name] ∧ place = dir ++ [name] ∧ fs.LeadsDown dir name ∧
      fs.follow start init = .ok (dir, .directory) ∧ fs.entry? place = some (.file old) := by
  fun_induction follow fs start names with
  | case1 => cases h
  | case2 => cases h
  | case3 start names hsearch ih =>
      obtain ⟨dir, init, name, rfl, hplace, hdown, hinit, hentry⟩ := ih h
      refine ⟨dir, "." :: init, name, rfl, hplace, hdown, ?_, hentry⟩
      rw [follow_here (by simpa using hsearch), hinit]
  | case4 start names hsearch _ ih =>
      obtain ⟨dir, init, name, rfl, hplace, hdown, hinit, hentry⟩ := ih h
      refine ⟨dir, ".." :: init, name, rfl, hplace, hdown, ?_, hentry⟩
      rw [follow_up (by simpa using hsearch), hinit]
  | case5 => cases h
  | case6 => cases h
  | case7 start name names hsearch hhere hup hlong hentry ih =>
      obtain ⟨dir, init, name', rfl, hplace, hdown', hinit, hentry'⟩ := ih h
      have hdown : fs.LeadsDown start name := ⟨by simpa using hsearch, hhere, hup, hlong⟩
      refine ⟨dir, name :: init, name', rfl, hplace, hdown', ?_, hentry'⟩
      rw [hdown.follow_directory hentry]
      exact hinit
  | case8 start name names hsearch hhere hup hlong bytes hentry hnames =>
      cases h
      obtain rfl : names = [] := by simpa using hnames
      exact ⟨start, [], name, rfl, rfl, ⟨by simpa using hsearch, hhere, hup, hlong⟩, rfl, hentry⟩
  | case9 => cases h

/-- Where one more name leads to nothing, nothing stands. -/
lemma of_follow_missing {dir : Place} {name : String}
    (h : fs.follow dir [name] = .error .missing) :
    fs.LeadsDown dir name ∧ fs.entry? (dir ++ [name]) = none := by
  rw [follow] at h
  simp only [List.isEmpty_nil, if_true] at h
  split_ifs at h with hsearch hhere hup hlong
  · cases h
  · cases h
  · cases h
  · cases h
  · refine ⟨⟨by simpa using hsearch, hhere, hup, hlong⟩, ?_⟩
    cases hentry : fs.entry? (dir ++ [name]) with
    | none => rfl
    | some entry => cases entry <;> simp [hentry, follow] at h

/-! ### Writing -/

/-- A path that is not too long is followed. -/
lemma of_find {path : Path} {found : Except ReadFailure (Place × Entry)}
    (h : fs.find path = found) (hne : found ≠ .error .nameTooLong) :
    ¬ longestPath < byteLength path.toString ∧
      fs.follow (fs.startOf path) path.components = found := by
  rw [find] at h
  split at h
  · exact absurd h.symm hne
  · next hlength => exact ⟨hlength, h⟩

/-- What writing does: it puts a file under the last name of the path, in the directory that
the other names lead to, where no directory stands. -/
lemma exists_of_write {fs' : Files} {path : Path} {text : String}
    (h : fs.write path text = .ok fs') :
    ∃ dir init name, path.components = init ++ [name] ∧ fs.LeadsDown dir name ∧
      ¬ longestPath < byteLength path.toString ∧
      fs.follow (fs.startOf path) init = .ok (dir, .directory) ∧
      fs.entry? (dir ++ [name]) ≠ some .directory ∧
      fs' = fs.put (dir ++ [name]) (.file (Text.Utf8.encode text.toList)) := by
  rw [write] at h
  split at h
  · cases h
  · next place old hfind =>
    -- an old file is replaced
    split at h
    · cases h
      obtain ⟨hlength, hfollow⟩ := of_find hfind (by simp)
      obtain ⟨dir, init, name, hpath, rfl, hdown, hinit, hentry⟩ := exists_of_follow_file hfollow
      exact ⟨dir, init, name, hpath, hdown, hlength, hinit, by simp [hentry], rfl⟩
    · cases h
  · next hfind =>
    -- a new file is made in a directory
    obtain ⟨hlength, hfollow⟩ := of_find hfind (by simp)
    split at h
    · next dir hdir =>
      split at h
      · cases h
        have hinit : fs.follow (fs.startOf path) path.components.dropLast =
            .ok (dir, .directory) :=
          (of_find hdir (by simp)).2
        rcases List.eq_nil_or_concat path.components with hnil | ⟨init, name, hpath⟩
        · rw [hnil] at hfollow
          cases hfollow
        · rw [List.concat_eq_append] at hpath
          rw [hpath, List.dropLast_concat] at hinit
          rw [hpath, follow_append hinit] at hfollow
          obtain ⟨hdown, hentry⟩ := of_follow_missing hfollow
          have hname : path.name = name := by simp [Path.name, hpath]
          exact ⟨dir, init, name, hpath, hdown, hlength, hinit, by simp [hentry], by rw [hname]⟩
      · cases h
    · cases h
    · cases h
  · cases h

/-- **The path of a written file leads to what was written.** -/
lemma find_of_write {fs' : Files} {path : Path} {text : String} (h : fs.write path text = .ok fs') :
    ∃ place, fs'.find path = .ok (place, .file (Text.Utf8.encode text.toList)) := by
  obtain ⟨dir, init, name, hpath, hdown, hlength, hinit, hentry, rfl⟩ := exists_of_write h
  refine ⟨dir ++ [name], ?_⟩
  rw [find, if_neg hlength, hpath]
  exact (follow_append (follow_put_of_directory hentry hinit) [name]).trans
    (follow_put_self hentry rfl hdown)

end Branchwise.Files
