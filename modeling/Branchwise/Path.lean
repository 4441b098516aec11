/-
File paths as text: a root of slashes and the components behind it. The components are
texts; a file name of other bytes has no path here.

* `Path.ofString`: reads a path; repeated slashes and single dots vanish, two
  leading slashes are kept apart from one.
* `Path.toString`: writes it; the empty path is a single dot.
* `name`, `stem`, `suffix`: the last component and its two parts. A suffix
  starts at the last dot, which is neither the first nor the last character.
* `moduleName?`: the dotted name of a source file.
* `Path.before`, `Path.sorted`: the order by components.
-/
import Branchwise.Text.Basic
import Branchwise.Text.Quoted

namespace Branchwise

/-- A path: `slashes` leading slashes, none, one or two, and components. -/
structure Path where
  slashes : Nat
  components : List String
  deriving Repr, DecidableEq, Inhabited

namespace Path

/-- Reads a path. -/
def ofString (text : String) : Path :=
  let cs := text.toList
  let lead := (cs.takeWhile (· == '/')).length
  let pieces := (Text.splitOn '/' cs).filter fun p => !p.isEmpty && p != ['.']
  ⟨if lead = 0 then 0 else if lead = 2 then 2 else 1, pieces.map String.ofList⟩

/-- The root as text. -/
def root (p : Path) : String :=
  String.ofList (List.replicate p.slashes '/')

/-- Writes a path. -/
def toString (p : Path) : String :=
  if p.slashes = 0 && p.components.isEmpty then "."
  else p.root ++ Text.joinWith "/" p.components

/-- The components, the root in front if there is one. -/
def parts (p : Path) : List String :=
  if p.slashes = 0 then p.components else p.root :: p.components

/-- Is the path counted from the root? -/
def isAbsolute (p : Path) : Bool :=
  p.slashes != 0

/-- The last component, empty if there is none. -/
def name (p : Path) : String :=
  p.components.getLast?.getD ""

/-- A name cut at the dot of its suffix. -/
def splitSuffix (name : List Char) : List Char × List Char :=
  match Text.splitLast '.' name with
  | some (before, after) =>
    if before.isEmpty || after.isEmpty then (name, []) else (before, '.' :: after)
  | none => (name, [])

/-- The last component without its suffix. -/
def stem (p : Path) : String :=
  String.ofList (splitSuffix p.name.toList).1

/-- The suffix of the last component, with its dot. -/
def suffix (p : Path) : String :=
  String.ofList (splitSuffix p.name.toList).2

/-- Is the path that of a source file? -/
def isSource (p : Path) : Bool :=
  p.suffix == ".py"

/-- A path continued by another one; an absolute one replaces it. -/
def join (p q : Path) : Path :=
  if q.isAbsolute then q else ⟨p.slashes, p.components ++ q.components⟩

/-- A path written as a quoted constructor, as error messages show it. -/
def quoted (p : Path) : String :=
  "PosixPath(" ++ String.ofList (Text.quoted (Text.codes p.toString.toList)) ++ ")"

/-- The components of a module's name: those of the path without the suffix,
without a leading `src` and without a trailing `__init__`. -/
def moduleParts (parts : List String) : List String :=
  let parts := if parts.head? == some "src" then parts.drop 1 else parts
  if parts.getLast? == some "__init__" then parts.dropLast else parts

/-- The dotted name of the module in a file; `none` for a path without a last
component. -/
def moduleName? (p : Path) : Option String :=
  if p.components.isEmpty then none
  else some (Text.joinWith "." (moduleParts (p.parts.dropLast ++ [p.stem])))

/-- Compares texts by code points, a shorter text first. -/
def textBefore : List Char → List Char → Bool
  | [], [] => false
  | [], _ => true
  | _, [] => false
  | a :: as, b :: bs => if a = b then textBefore as bs else a.toNat < b.toNat

/-- Compares lists of components, a shorter list first. -/
def partsBefore : List String → List String → Bool
  | [], [] => false
  | [], _ => true
  | _, [] => false
  | a :: as, b :: bs => if a = b then partsBefore as bs else textBefore a.toList b.toList

/-- Does the path come before the other in the order by components? -/
def before (p q : Path) : Bool :=
  partsBefore p.parts q.parts

/-- Puts a path into a sorted list. -/
def insertSorted (p : Path) : List Path → List Path
  | [] => [p]
  | q :: qs => if q.before p then q :: insertSorted p qs else p :: q :: qs

/-- The paths in their order. -/
def sorted (paths : List Path) : List Path :=
  paths.foldr insertSorted []

end Path

end Branchwise
