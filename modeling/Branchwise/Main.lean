/-
The command line program: reads the files that a command names, runs the command
on them, prints what it printed and writes what it wrote.
-/
import Branchwise.Command.Run

namespace Branchwise.Main

/-- The text of a place. -/
def textOf (place : Place) : String :=
  "/" ++ Text.joinWith "/" place

/-- Withdraws the right to read what stands at a place. -/
def withoutRead (fs : Files) (place : Place) : Files :=
  { fs with
    rights := fun p =>
      if p = place then { fs.rights p with read := false } else fs.rights p }

/-- Reads the entry at a place, and all below it if `deep` is set. -/
partial def load (deep : Bool) (fs : Files) (place : Place) : IO Files := do
  let path := (← IO.currentDir) / textOf place
  if ← path.isDir then
    let fs := fs.put place .directory
    try
      let entries ← path.readDir
      if deep then entries.foldlM (fun fs entry => load deep fs (place ++ [entry.fileName])) fs
      else return fs
    catch _ => return withoutRead fs place
  else if ← path.pathExists then
    try
      let bytes ← IO.FS.readBinFile path
      return fs.put place (.file (bytes.toList.map UInt8.toNat))
    catch _ => return withoutRead (fs.put place (.file [])) place
  else return fs

/-- Reads the entries at all places on the way to a path. -/
def loadAlong (deep : Bool) (fs : Files) (path : Path) : IO Files := do
  let (fs, place) ← path.components.foldlM
    (fun (fs, place) name => do
      let next := Files.step place name
      return (← load false fs next, next))
    (fs, fs.startOf path)
  load deep fs place

/-- The current directory, with the files that a command line names. -/
def loadFor (args : List String) : IO Files := do
  let here := Path.ofString (← IO.currentDir).toString
  let fs := Files.empty here.components
  match Request.read fs args with
  | .error _ => return fs
  | .ok r =>
    let deep := match r.command with
      | .scan .. => true
      | _ => false
    r.command.paths.foldlM (loadAlong deep) fs

/-- Writes the files that a run has changed. -/
def store (before after : Files) : IO Unit := do
  for (place, entry) in after.entries do
    match entry with
    | .file bytes =>
      unless before.entry? place == some entry do
        IO.FS.writeBinFile (textOf place) ⟨(bytes.map fun b => UInt8.ofNat b).toArray⟩
    | .directory => pure ()

end Branchwise.Main

open Branchwise in
/-- Runs the program. -/
def main (args : List String) : IO UInt32 := do
  let fs ← Main.loadFor args
  let r := run ⟨.basic, .basic⟩ fs args
  Main.store fs r.files
  for e in r.log do
    IO.eprintln (e.level.word ++ " " ++ e.message)
  IO.print r.stdout
  IO.eprint r.stderr
  if let some crash := r.crash then
    IO.eprintln ("branchwise: " ++ crash.message)
  return UInt32.ofNat r.exitCode
