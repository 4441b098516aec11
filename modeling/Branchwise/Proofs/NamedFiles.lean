/-
What a path names, and what the user can find there.

A path names a file if its components lead to one. To follow it, the path must not be too long,
and every directory on the way must be one that may be searched: otherwise it is left open what
stands there. The text of a path is followed as it is written, with its single dots, to ask for
the rights of the user.

* `Files.target?`, `Files.NamesFile`: where names lead, limits and rights apart.
* `Files.NamesFile.find_cases`: the file is found, or the path is refused.
* `Path.toString_ofString_sublist`: a path is no longer than its text.
* `Files.find_of_stat`: **a text that is followed leads to where its path leads**.
* `Files.Opens`, `Command.readPath_of_find`: which texts a command line takes.
-/
import Mathlib.Data.List.Flatten
import Mathlib.Data.List.TakeWhile
import Mathlib.Tactic.Common
import Branchwise.Command.Basic
import Branchwise.Proofs.WrittenFiles

namespace Branchwise

/-! ### Where names lead -/

namespace Files

variable {fs : Files}

/-- Where names lead from a place that is a directory, whatever the user may do there and
however long the names are. -/
def target? (fs : Files) : Place → List String → Option (Place × Entry)
  | place, [] => some (place, .directory)
  | place, name :: names =>
    if name = "." then target? fs place names
    else if name = ".." then target? fs place.dropLast names
    else
      match fs.entry? (place ++ [name]) with
      | none => none
      | some .directory => target? fs (place ++ [name]) names
      | some (.file bytes) => if names.isEmpty then some (place ++ [name], .file bytes) else none

/-- The path names a file. -/
def NamesFile (fs : Files) (path : Path) : Prop :=
  hasNul path = false ∧
    ∃ place bytes, fs.target? (fs.startOf path) path.components = some (place, .file bytes)

lemma follow_of_not_search {place : Place} (h : (fs.rights place).search = false) (name : String)
    (names : List String) : fs.follow place (name :: names) = .error .denied := by
  rw [follow, h, if_pos (by decide)]

/-- A name is refused, or it leads down. -/
lemma leadsDown_or {place : Place} {name : String} (hdot : name ≠ ".") (hup : name ≠ "..")
    (names : List String) :
    fs.LeadsDown place name ∨
      ∃ reason, fs.follow place (name :: names) = .error reason ∧ reason.isRefusal = true := by
  cases hsearch : (fs.rights place).search with
  | false => exact .inr ⟨_, follow_of_not_search hsearch name names, rfl⟩
  | true =>
      by_cases hshort : longestName < byteLength name
      · refine .inr ⟨.nameTooLong, ?_, rfl⟩
        rw [follow, hsearch, if_neg (by decide), if_neg hdot, if_neg hup, if_pos hshort]
      · exact .inl ⟨hsearch, hdot, hup, hshort⟩

/-- Names are followed to where they lead, or the way is refused. -/
lemma follow_of_target? {place : Place} {names : List String} {found : Place × Entry}
    (h : fs.target? place names = some found) :
    fs.follow place names = .ok found ∨
      ∃ reason, fs.follow place names = .error reason ∧ reason.isRefusal = true := by
  fun_induction target? fs place names with
  | case1 place =>
      cases h
      exact .inl rfl
  | case2 place names ih =>
      cases hsearch : (fs.rights place).search with
      | false => exact .inr ⟨_, follow_of_not_search hsearch _ names, rfl⟩
      | true =>
          rw [follow_here hsearch]
          exact ih h
  | case3 place names _ ih =>
      cases hsearch : (fs.rights place).search with
      | false => exact .inr ⟨_, follow_of_not_search hsearch _ names, rfl⟩
      | true =>
          rw [follow_up hsearch]
          exact ih h
  | case4 => cases h
  | case5 place name names hdot hup hentry ih =>
      rcases leadsDown_or hdot hup names with hdown | hrefusal
      · rw [hdown.follow_directory hentry]
        exact ih h
      · exact .inr hrefusal
  | case6 place name names hdot hup bytes hentry hempty =>
      cases h
      obtain rfl := List.isEmpty_iff.mp hempty
      rcases leadsDown_or hdot hup [] with hdown | hrefusal
      · exact .inl (hdown.follow_file hentry)
      · exact .inr hrefusal
  | case7 => cases h

/-- **A file that is named is found, or the path is refused.** -/
lemma NamesFile.find_cases {path : Path} (h : fs.NamesFile path) :
    (∃ place bytes, fs.find path = .ok (place, .file bytes)) ∨
      ∃ reason, fs.find path = .error reason ∧ reason.isRefusal = true := by
  obtain ⟨-, place, bytes, htarget⟩ := h
  rw [find]
  split_ifs
  · exact .inr ⟨_, rfl, rfl⟩
  · exact (follow_of_target? htarget).imp_left fun hfollow => ⟨place, bytes, hfollow⟩

lemma NamesFile.isRefusal_of_find {path : Path} (h : fs.NamesFile path) {reason : ReadFailure}
    (hfind : fs.find path = .error reason) : reason.isRefusal = true := by
  rcases h.find_cases with ⟨place, bytes, hfound⟩ | ⟨reason', hrefused, hreason⟩
  · rw [hfind] at hfound
    cases hfound
  · rw [hfind] at hrefused
    cases hrefused
    exact hreason

lemma NamesFile.isFile_of_find {path : Path} (h : fs.NamesFile path) {found : Place × Entry}
    (hfind : fs.find path = .ok found) : ∃ place bytes, found = (place, .file bytes) := by
  rcases h.find_cases with ⟨place, bytes, hfound⟩ | ⟨reason, hrefused, -⟩
  · rw [hfind] at hfound
    exact ⟨place, bytes, Except.ok.inj hfound⟩
  · rw [hfind] at hrefused
    cases hrefused

lemma look_of_find {path : Path} (hnul : hasNul path = false) {found : Place × Entry}
    (h : fs.find path = .ok found) : fs.look path = .ok (some found) := by
  rw [look, hnul, if_neg Bool.false_ne_true, h]

lemma look_of_refusal {path : Path} (hnul : hasNul path = false) {reason : ReadFailure}
    (h : fs.find path = .error reason) (hreason : reason.isRefusal = true) :
    fs.look path = .error reason := by
  rw [look, hnul, if_neg Bool.false_ne_true, h]
  exact if_pos hreason

end Files

/-! ### Paths and their texts -/

/-- Parts that are left out of a joined text, with their separators. -/
lemma intercalate_filter_sublist (sep : List Char) (keep : List Char → Bool)
    (parts : List (List Char)) :
    (sep.intercalate (parts.filter keep)).Sublist (sep.intercalate parts) := by
  induction parts with
  | nil => exact List.Sublist.refl _
  | cons part parts ih =>
      cases hparts : parts with
      | nil => cases hkeep : keep part <;> simp [hkeep]
      | cons next more =>
          rw [hparts] at ih
          rw [List.intercalate_cons_cons]
          cases hkeep : keep part with
          | false =>
              rw [List.filter_cons_of_neg (by simp [hkeep])]
              exact ih.trans (List.sublist_append_right _ _)
          | true =>
              rw [List.filter_cons_of_pos hkeep]
              cases hrest : (next :: more).filter keep with
              | nil =>
                  rw [List.intercalate_singleton, List.append_assoc]
                  exact List.sublist_append_left _ _
              | cons other rest =>
                  rw [hrest] at ih
                  rw [List.intercalate_cons_cons]
                  exact (List.Sublist.refl _).append ih

/-- Leading slashes give empty pieces. -/
lemma filter_splitOn_dropWhile (keep : List Char → Bool) (hkeep : keep [] = false)
    (text : List Char) :
    (Text.splitOn '/' (text.dropWhile (· == '/'))).filter keep =
      (Text.splitOn '/' text).filter keep := by
  induction text with
  | nil => rfl
  | cons c cs ih =>
      by_cases hc : c = '/'
      · subst hc
        obtain ⟨piece, pieces, hpieces⟩ :=
          List.exists_cons_of_ne_nil (Text.splitOn_ne_nil '/' cs)
        have hsplit : Text.splitOn '/' ('/' :: cs) = [] :: Text.splitOn '/' cs := by
          rw [Text.splitOn, hpieces]
          rfl
        rw [List.dropWhile_cons_of_pos (by simp), ih, hsplit,
          List.filter_cons_of_neg (by simp [hkeep])]
      · rw [List.dropWhile_cons_of_neg (by simpa using hc)]

namespace Path

/-- **A path is no longer than its text**: what it is written with stands there in the same
order. -/
lemma toString_ofString_sublist {text : String} (h : (ofString text).isAbsolute = true) :
    (ofString text).toString.toList.Sublist text.toList := by
  have hslashes : (ofString text).slashes ≤ (text.toList.takeWhile (· == '/')).length := by
    dsimp only [ofString]
    split_ifs <;> omega
  have hlead : (List.replicate (ofString text).slashes '/').Sublist
      (text.toList.takeWhile (· == '/')) := by
    have hall : text.toList.takeWhile (· == '/') =
        List.replicate (text.toList.takeWhile (· == '/')).length '/' := by
      rw [List.eq_replicate_iff]
      exact ⟨rfl, fun c hc => by simpa using List.mem_takeWhile_imp hc⟩
    rw [hall]
    exact List.replicate_sublist_replicate _ |>.mpr hslashes
  have hnonzero : (ofString text).slashes ≠ 0 := by simpa [isAbsolute] using h
  have hcomponents : (ofString text).components.map String.toList =
      (Text.splitOn '/' (text.toList.dropWhile (· == '/'))).filter
        fun p => !p.isEmpty && p != ['.'] := by
    rw [filter_splitOn_dropWhile _ rfl]
    simp [ofString, Function.comp_def]
  have hbehind := intercalate_filter_sublist ['/'] (fun p => !p.isEmpty && p != ['.'])
    (Text.splitOn '/' (text.toList.dropWhile (· == '/')))
  rw [Text.intercalate_splitOn, ← hcomponents] at hbehind
  rw [toString, if_neg (by simp [hnonzero]), root, String.toList_append, String.toList_ofList,
    Text.joinWith, String.toList_intercalate, ← List.takeWhile_append_dropWhile (p := (· == '/'))
    (l := text.toList)]
  exact hlead.append hbehind

end Path

namespace Files

variable {fs : Files}

lemma byteLength_le_of_sublist {short long : String} (h : short.toList.Sublist long.toList) :
    byteLength short ≤ byteLength long :=
  (List.Sublist.flatMap h Text.Utf8.encodeChar).length_le

/-- Single dots are steps to where one is. -/
lemma follow_filter_here {place : Place} {names : List String} {found : Place × Entry}
    (h : fs.follow place names = .ok found) :
    fs.follow place (names.filter (· ≠ ".")) = .ok found := by
  fun_induction follow fs place names with
  | case1 => exact h
  | case2 => cases h
  | case3 place names hsearch ih =>
      rw [List.filter_cons_of_neg (by simp)]
      exact ih h
  | case4 place names hsearch hdot ih =>
      rw [List.filter_cons_of_pos (by decide), follow, if_neg hsearch, if_neg hdot, if_pos rfl]
      exact ih h
  | case5 => cases h
  | case6 => cases h
  | case7 place name names hsearch hdot hup hshort hentry ih =>
      rw [List.filter_cons_of_pos (by simpa using hdot), follow, if_neg hsearch, if_neg hdot,
        if_neg hup, if_neg hshort, hentry]
      exact ih h
  | case8 place name names hsearch hdot hup hshort bytes hentry hempty =>
      obtain rfl := List.isEmpty_iff.mp hempty
      rw [List.filter_cons_of_pos (by simpa using hdot), follow, if_neg hsearch, if_neg hdot,
        if_neg hup, if_neg hshort, hentry]
      exact h
  | case9 => cases h

/-- What it takes to follow a text as it is written. -/
lemma of_stat {text : String} {found : Place × Entry} (h : fs.stat text = .ok found) :
    ¬ longestPath < byteLength text ∧
      fs.follow (fs.startOf (.ofString text))
        (((Text.splitOn '/' text.toList).filter (!·.isEmpty)).map String.ofList) = .ok found := by
  rw [stat] at h
  split at h
  · cases h
  · split at h
    · cases h
    · next hlong =>
      refine ⟨hlong, ?_⟩
      split at h
      · next place bytes hfile =>
        split at h
        · cases h
        · rw [hfile, h]
      · exact h

/-- **A text that is followed leads to where its path leads.** -/
lemma find_of_stat {text : String} (habsolute : (Path.ofString text).isAbsolute = true)
    {found : Place × Entry} (h : fs.stat text = .ok found) :
    fs.find (.ofString text) = .ok found := by
  have hcomponents : (Path.ofString text).components =
      (((Text.splitOn '/' text.toList).filter (!·.isEmpty)).map String.ofList).filter
        (· ≠ ".") := by
    rw [Path.ofString, List.filter_map, List.filter_filter]
    refine congrArg _ (List.filter_congr fun piece _ => ?_)
    have hdot : String.ofList piece = "." ↔ piece = ['.'] := by
      rw [← String.toList_inj, String.toList_ofList]
      rfl
    rw [Bool.and_comm, Bool.eq_iff_iff]
    simp [hdot]
  obtain ⟨hlong, hfollow⟩ := of_stat h
  have hle := byteLength_le_of_sublist (Path.toString_ofString_sublist habsolute)
  have hshort : ¬ longestPath < byteLength (Path.ofString text).toString := by omega
  rw [find, if_neg hshort, hcomponents]
  exact follow_filter_here hfollow

/-- The text of a path leads to a file that the user can find. They may read it, unless the
text as it is written leads nowhere, so that nobody asks. -/
def Opens (fs : Files) (text : String) : Prop :=
  ∃ place bytes, fs.find (.ofString text) = .ok (place, .file bytes) ∧
    ((fs.rights place).read = true ∨ ∃ reason, fs.stat text = .error reason)

end Files

/-! ### Texts on a command line -/

namespace Command

variable {fs : Files} {text : String} (habsolute : (Path.ofString text).isAbsolute = true)
  (hnul : Files.hasNul (.ofString text) = false)

include habsolute hnul

/-- A path that is refused is taken: what stands there shows later. -/
lemma readPath_of_find_error {reason : ReadFailure}
    (h : fs.find (.ofString text) = .error reason) :
    readPath fs text = .ok (.ofString text) := by
  rw [readPath, hnul, if_neg Bool.false_ne_true]
  cases hstat : fs.stat text with
  | error _ => rfl
  | ok found =>
      rw [Files.find_of_stat habsolute hstat] at h
      cases h

/-- **The path of a file that is found** is taken if and only if the file can be opened. -/
lemma readPath_of_find {place : Place} {bytes : List Nat}
    (h : fs.find (.ofString text) = .ok (place, .file bytes)) :
    (fs.Opens text → readPath fs text = .ok (.ofString text)) ∧
      (¬ fs.Opens text → readPath fs text = .error .usage) := by
  have hopens : fs.Opens text ↔
      (fs.rights place).read = true ∨ ∃ reason, fs.stat text = .error reason := by
    rw [Files.Opens]
    simp [h]
  rw [hopens, readPath, hnul, if_neg Bool.false_ne_true]
  cases hstat : fs.stat text with
  | error reason => simp
  | ok found =>
      obtain ⟨rfl⟩ := Except.ok.inj ((Files.find_of_stat habsolute hstat).symm.trans h)
      simp

end Command

end Branchwise
