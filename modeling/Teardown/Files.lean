/-
# Files

A run may read files.  What the file at a path holds is bytes, which have to be the encoded form
of a text; what cannot be read has a cause, with the number and the wording that the system gives
it.

The files are an argument of the run and not a part of its state: nothing is written, and the same
path is taken to hold the same bytes throughout.
-/
import Teardown.Text.Quoted

namespace Teardown

/-! ## 1. Causes -/

/-- Why a file cannot be read. -/
inductive ReadFault
  | notFound
  | forbidden
  | notFolder
  | isFolder
  | nameTooLong
  | nulInName
  | notText
  | unknown
deriving DecidableEq, Inhabited

namespace ReadFault

/-- The number, the kind and the wording of a cause that the system reports. -/
def report? : ReadFault → Option (Nat × String × String)
  | .notFound => some (2, "NotFound", "No such file or directory")
  | .forbidden => some (13, "PermissionDenied", "Permission denied")
  | .notFolder => some (20, "NotADirectory", "Not a directory")
  | .isFolder => some (21, "IsADirectory", "Is a directory")
  | .nameTooLong => some (36, "InvalidFilename", "File name too long")
  | .nulInName | .notText | .unknown => none

/-- The kind and the wording of any other cause. -/
def remark : ReadFault → String × String
  | .nulInName => ("InvalidInput", "file name contained an unexpected NUL byte")
  | .notText => ("InvalidData", "stream did not contain valid UTF-8")
  | _ => ("Uncategorized", "uncategorized error")

def message (cause : ReadFault) : String :=
  match cause.report? with
  | some (number, _, text) => text ++ " (os error " ++ toString number ++ ")"
  | none => cause.remark.2

def inspect (cause : ReadFault) : String :=
  match cause.report? with
  | some (number, kind, text) =>
    "Os \x7b code: " ++ toString number ++ ", kind: " ++ kind ++ ", message: " ++ Text.quote text ++
      " \x7d"
  | none =>
    "Error \x7b kind: " ++ cause.remark.1 ++ ", message: " ++ Text.quote cause.remark.2 ++ " \x7d"

end ReadFault

/-! ## 2. Reading -/

/-- What the file at each path holds, or why it cannot be read. -/
abbrev Files := String → Except ReadFault ByteArray

/-- The text of the file at a path. -/
def Files.text (files : Files) (path : String) : Except ReadFault String :=
  match files path with
  | .error cause => .error cause
  | .ok bytes =>
    match String.fromUTF8? bytes with
    | some text => .ok text
    | none => .error .notText

/-- The path of a file that is named in the file at another path: what is no path from the root counts
from the folder of that file. -/
def Files.beside (path name : String) : String :=
  if name.startsWith "/" then name
  else String.ofList ((path.toList.reverse.dropWhile (· ≠ '/')).reverse ++ name.toList)

/-! ## Worked examples -/

example : ReadFault.notFound.message = "No such file or directory (os error 2)" := by decide +kernel

end Teardown
