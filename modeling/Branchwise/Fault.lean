/-
What can go wrong in an analysis.

* `ReadFailure`: why a file cannot be read.
* `Fault`: the faults. Some are reported to the user; the others end the run.
* `Fault.message`: the text of each.
-/
import Branchwise.Source.Interpreter

namespace Branchwise

/-- Why a file cannot be read. -/
inductive ReadFailure where
  | missing | directory | notDirectory | nameTooLong
  /-- The user may not read it, or not search a directory on the way to it. -/
  | denied
  /-- The bytes from `first` to `last` are no UTF-8; `value` is the first of
  them. -/
  | badByte (value first last : Nat) (why : String)
  deriving Repr, DecidableEq

/-- The text of a failure to read the file with this name. -/
def ReadFailure.message (file : String) : ReadFailure → String
  | missing => "[Errno 2] No such file or directory: " ++ shown
  | directory => "[Errno 21] Is a directory: " ++ shown
  | notDirectory => "[Errno 20] Not a directory: " ++ shown
  | nameTooLong => "[Errno 36] File name too long: " ++ shown
  | denied => "[Errno 13] Permission denied: " ++ shown
  | badByte value first last why =>
    "'utf-8' codec can't decode " ++
      (if first = last then
        "byte 0x" ++ String.ofList (Text.hexDigits 2 value) ++ " in position " ++ toString first
       else "bytes in position " ++ toString first ++ "-" ++ toString last)
      ++ ": " ++ why
where
  /-- The name in its quoted form. -/
  shown : String := String.ofList (Text.quoted (Text.codes file.toList))

/-- Does the failure leave open what stands at a path? Of any other failure it
follows that no file is there. -/
def ReadFailure.isRefusal : ReadFailure → Bool
  | nameTooLong | denied => true
  | _ => false

/-- A fault of an analysis. -/
inductive Fault where
  /-- The source text in the file is malformed; `complaint` is what the interpreter
  says of it. -/
  | malformed (file : Path) (complaint : String)
  | unreadable (file : Path) (reason : ReadFailure)
  /-- The file has no function of this name. -/
  | noFunction (name : String) (file : Path)
  /-- The source text holds a NUL character. -/
  | nulInSource
  /-- The path holds a NUL character. -/
  | nulInPath
  /-- The interpreter breaks down on a source text. -/
  | breakdown (b : Breakdown)
  /-- It cannot be found out whether there is such a file. -/
  | inaccessible (file : Path) (reason : ReadFailure)
  deriving Repr, DecidableEq

namespace Fault

/-- Is the fault one of the user's files, which is reported to them? -/
def isReported : Fault → Bool
  | malformed _ _ | unreadable _ _ | noFunction _ _ => true
  | nulInSource | nulInPath | breakdown _ | inaccessible _ _ => false

/-- The text of a fault. -/
def message : Fault → String
  | malformed file complaint => "Syntax error in " ++ file.toString ++ ": " ++ complaint
  | unreadable file reason =>
    "Cannot read " ++ file.toString ++ ": " ++ reason.message file.toString
  | noFunction name file => "Function '" ++ name ++ "' not found in " ++ file.toString
  | nulInSource => "source code string cannot contain null bytes"
  | nulInPath => "embedded null byte"
  | breakdown b => b.message
  | inaccessible file reason => reason.message file.toString

end Fault

end Branchwise
