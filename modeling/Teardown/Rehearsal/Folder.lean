/-
# A folder of files

The files of a rehearsed run are those of one folder and of the folders in it.  A path is walked
step by step from there.  Nothing is known about the world outside the folder: there, no file
exists.

A walk ends in the cause that a system would give: a file on the way is no folder, and a folder at
the end is no file.  A path that ends in a slash has to end at a folder, so nothing can be read
there in any case.
-/
import Teardown.Files
import Teardown.Text.Blank

namespace Teardown.Rehearsal

/-- The files of a folder, by their paths from there. -/
structure Folder where
  files : List (String × ByteArray)
deriving Inhabited

namespace Folder

/-! ## 1. Paths -/

/-- The steps of a path; nothing and a single dot lead nowhere. -/
def steps (path : String) : List String :=
  (Text.split '/' path).filter fun step => step ≠ "" ∧ step ≠ "."

/-- Whether a path has to end at a folder. -/
def endsAtFolder (path : String) : Bool :=
  match (Text.split '/' path).getLast? with
  | some step => step = "" || step = "."
  | none => false

/-! ## 2. Walking -/

/-- The file that stands at some steps from the folder. -/
def fileAt? (f : Folder) (walked : List String) : Option ByteArray :=
  (f.files.find? fun file => decide (steps file.1 = walked)).map Prod.snd

/-- Whether a folder stands at some steps from the folder. -/
def hasFolder (f : Folder) (walked : List String) : Bool :=
  walked.isEmpty ||
    f.files.any fun file => walked.isPrefixOf (steps file.1) && decide (steps file.1 ≠ walked)

/-- The file at the end of some steps. -/
def walk (f : Folder) (toFolder : Bool) : (walked steps : List String) →
    Except ReadFault ByteArray
  | _, [] => .error .isFolder
  | walked, step :: rest =>
    if 255 < step.utf8ByteSize then .error .nameTooLong
    else if step = ".." then
      if walked.isEmpty then .error .notFound else walk f toFolder walked.dropLast rest
    else
      let here := walked ++ [step]
      match f.fileAt? here with
      | some bytes => if rest.isEmpty && !toFolder then .ok bytes else .error .notFolder
      | none => if f.hasFolder here then walk f toFolder here rest else .error .notFound

def read (f : Folder) : Files := fun path =>
  if path.toList.contains (Char.ofNat 0) then .error .nulInName
  else if 4096 ≤ path.utf8ByteSize then .error .nameTooLong
  else if path.isEmpty then .error .notFound
  else if path.startsWith "/" then
    if (steps path).isEmpty then .error .isFolder else .error .notFound
  else f.walk (endsAtFolder path) [] (steps path)

end Folder

/-! ## Worked examples -/

example : Folder.steps "./a//b/" = ["a", "b"] := by decide +kernel

end Teardown.Rehearsal
