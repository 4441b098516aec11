/-
A tree of files, as far as an analysis can see it.

* `Rights`: what the user may do with an entry.
* `Files`: the entries by their place, a list of names from the root, the current
  directory, and the user's rights.
* `Files.find`: the entry that a path leads to. Every name on the way must be
  that of a directory that may be searched, and two dots lead back.
* `Files.look`: the same for a question that most failures answer.
* `Files.read`: the text of a file.
* `Files.listing`: all entries below a directory, at any depth, as far as the
  directories between may be listed; `Files.filesBelow` are the files among them.
* `Files.write`: writes a file.

A tree has no symbolic links, and it does not change but by `Files.write`. Names
are texts: a name whose bytes are no UTF-8 cannot be written in a tree.
-/
import Branchwise.Fault
import Branchwise.Text.Lines
import Branchwise.Text.Utf8

namespace Branchwise

/-- A place in the tree: the names that lead to it from the root. -/
abbrev Place := List String

/-- What stands at a place. -/
inductive Entry where
  | file (bytes : List Nat)
  | directory
  deriving Repr, DecidableEq, Inhabited

/-- What the user may do. -/
structure Rights where
  /-- Read a file, or list a directory. -/
  read : Bool
  /-- Write a file, or add a name to a directory. -/
  write : Bool
  /-- Follow the names in a directory. -/
  search : Bool
  deriving Repr, DecidableEq

/-- The user may do everything. -/
def Rights.all : Rights := ⟨true, true, true⟩

/-- A tree of files with a current directory. The root is always there, and no place
holds two entries. -/
structure Files where
  entries : List (Place × Entry)
  current : Place
  /-- What the user may do with what stands at a place, or would be made there. -/
  rights : Place → Rights
  nodup : (entries.map Prod.fst).Nodup

namespace Files

/-- No files but the current directory, in which the user may do everything. -/
def empty (current : Place) : Files := ⟨[], current, fun _ => .all, List.nodup_nil⟩

instance : Inhabited Files := ⟨empty []⟩

/-- Is the place the root or one on the way to the current directory? -/
def isAbove (fs : Files) (place : Place) : Bool :=
  place.isPrefixOf fs.current

/-- The entry at a place. -/
def entry? (fs : Files) (place : Place) : Option Entry :=
  if fs.isAbove place then some .directory else fs.entries.lookup place

/-- Puts an entry at a place, where it replaces an earlier one. -/
def put (fs : Files) (place : Place) (entry : Entry) : Files where
  entries := (place, entry) :: fs.entries.filter fun (p, _) => p != place
  current := fs.current
  rights := fs.rights
  nodup := by
    have hold : ((fs.entries.filter fun (p, _) => p != place).map Prod.fst).Nodup :=
      List.Nodup.sublist (List.filter_sublist.map Prod.fst) fs.nodup
    rw [List.map_cons, List.nodup_cons]
    refine ⟨fun hmem => ?_, hold⟩
    obtain ⟨⟨p, e⟩, he, rfl⟩ := List.mem_map.mp hmem
    simp at he

/-! ### Paths -/

/-- The longest name, in bytes. -/
def longestName : Nat := 255

/-- The longest path, in bytes. -/
def longestPath : Nat := 4095

/-- The length of a text in bytes. -/
def byteLength (text : String) : Nat :=
  (Text.Utf8.encode text.toList).length

/-- Follows names from a place that is a directory. -/
def follow (fs : Files) : Place → List String → Except ReadFailure (Place × Entry)
  | place, [] => .ok (place, .directory)
  | place, name :: names =>
    if !(fs.rights place).search then .error .denied
    else if name = "." then follow fs place names
    else if name = ".." then follow fs place.dropLast names
    else if longestName < byteLength name then .error .nameTooLong
    else
      match fs.entry? (place ++ [name]) with
      | none => .error .missing
      | some .directory => follow fs (place ++ [name]) names
      | some (.file bytes) =>
        if names.isEmpty then .ok (place ++ [name], .file bytes) else .error .notDirectory

/-- The place where a path starts. -/
def startOf (fs : Files) (path : Path) : Place :=
  if path.isAbsolute then [] else fs.current

/-- The place and the entry that a path leads to. -/
def find (fs : Files) (path : Path) : Except ReadFailure (Place × Entry) :=
  if longestPath < byteLength path.toString then .error .nameTooLong
  else fs.follow (fs.startOf path) path.components

/-- The place and the entry that a text leads to as it is written: the empty text
leads nowhere, a single dot asks for a directory that may be searched, and a slash at
the end for a directory. -/
def stat (fs : Files) (text : String) : Except ReadFailure (Place × Entry) :=
  let names := (Text.splitOn '/' text.toList).filter (!·.isEmpty)
  if text = "" then .error .missing
  else if longestPath < byteLength text then .error .nameTooLong
  else
    match fs.follow (fs.startOf (.ofString text)) (names.map String.ofList) with
    | .ok (place, .file bytes) =>
      if ['/'].isSuffixOf text.toList then .error .notDirectory else .ok (place, .file bytes)
    | result => result

/-- The place that one more name leads to, whatever stands there. -/
def step (place : Place) (name : String) : Place :=
  if name = ".." then place.dropLast else place ++ [name]

/-- The path without dots, counted from the root. -/
def resolve (fs : Files) (path : Path) : Path :=
  ⟨1, path.components.foldl step (fs.startOf path)⟩

/-- Does the path hold a NUL character? -/
def hasNul (path : Path) : Bool :=
  path.components.any fun name => name.toList.contains '\x00'

/-- What stands at a path, if anything does. A name that is too long, or a directory
that may not be searched, leaves it open. -/
def look (fs : Files) (path : Path) : Except ReadFailure (Option (Place × Entry)) :=
  if hasNul path then .ok none
  else
    match fs.find path with
    | .ok found => .ok (some found)
    | .error reason => if reason.isRefusal then .error reason else .ok none

/-! ### Contents -/

/-- The text of a file, its line ends made alike. -/
def read (fs : Files) (path : Path) : Except Fault String :=
  if hasNul path then .error .nulInPath
  else
    match fs.find path with
    | .error reason => .error (.unreadable path reason)
    | .ok (place, entry) =>
      if !(fs.rights place).read then .error (.unreadable path .denied)
      else
        match entry with
        | .directory => .error (.unreadable path .directory)
        | .file bytes =>
          match Text.Utf8.decode bytes with
          | .ok text => .ok (String.ofList (Text.unifyNewlines text))
          | .error bad =>
            .error (.unreadable path (.badByte bad.value bad.first bad.last bad.why))

/-- The names that lead from a directory to a place below it. -/
def below? (directory place : Place) : Option (List String) :=
  if directory.isPrefixOf place then some (place.drop directory.length) else none

/-- Does a walk down from the directory at a place come upon the entry that the names
lead to? It lists every directory on the way, and goes on below those that it may
search. -/
def isListed (fs : Files) : Place → List String → Bool
  | _, [] => false
  | place, [_] => (fs.rights place).read
  | place, name :: names =>
    (fs.rights place).read && (fs.rights place).search && isListed fs (place ++ [name]) names

/-- The path of an entry that is listed below the directory at `place`, which has the
path `directory`. -/
def pathBelow? (fs : Files) (directory : Path) (place p : Place) : Option Path :=
  match below? place p with
  | some names =>
    if fs.isListed place names then some ⟨directory.slashes, directory.components ++ names⟩
    else none
  | none => none

/-- The entries below a directory, with paths that start with its own path; none if
the path is not that of a directory. -/
def listing (fs : Files) (directory : Path) : List (Path × Entry) :=
  match fs.look directory with
  | .ok (some (place, .directory)) => fs.entries.filterMap fun (p, entry) =>
      (fs.pathBelow? directory place p).map fun path => (path, entry)
  | _ => []

/-- The files below a directory. -/
def filesBelow (fs : Files) (directory : Path) : List Path :=
  (fs.listing directory).filterMap fun
    | (path, .file _) => some path
    | (_, .directory) => none

/-- Why it cannot be found out which files are below a directory: what stands at its
path, or at the path of an entry below it, is left open. -/
def refusal? (fs : Files) (directory : Path) : Option Fault :=
  (directory :: (fs.listing directory).map Prod.fst).findSome? fun path =>
    match fs.look path with
    | .error reason => some (.inaccessible path reason)
    | .ok _ => none

/-- Writes a text to a file, which may be there or not; its directory must be. -/
def write (fs : Files) (path : Path) (text : String) : Except ReadFailure Files :=
  let bytes := Text.Utf8.encode text.toList
  match fs.find path with
  | .ok (_, .directory) => .error .directory
  | .ok (place, .file _) =>
    if (fs.rights place).write then .ok (fs.put place (.file bytes)) else .error .denied
  | .error .missing =>
    match fs.find ⟨path.slashes, path.components.dropLast⟩ with
    | .ok (place, .directory) =>
      if (fs.rights place).write then .ok (fs.put (place ++ [path.name]) (.file bytes))
      else .error .denied
    | .ok (_, .file _) => .error .notDirectory
    | .error reason => .error reason
  | .error reason => .error reason

end Files

end Branchwise
