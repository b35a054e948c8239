/-
# Scripts

A script is a list of entries of which the last one repeats.  Scripts are read by name, and each
name has a place of its own from which it is read on.

A name without a script has no next entry; what that stands for is up to the reader.
-/

namespace Teardown.Rehearsal

/-- Named scripts, with how far each of them has been read. -/
structure Scripts (α : Type) where
  entries : List (String × List α)
  readings : List (String × Nat)
deriving Inhabited

namespace Scripts

variable {α : Type}

/-- Scripts of which nothing has been read. -/
def ofEntries (entries : List (String × List α)) : Scripts α := ⟨entries, []⟩

def entry? : List α → Nat → Option α
  | [], _ => none
  | [a], _ => some a
  | a :: _, 0 => some a
  | _ :: rest, n + 1 => entry? rest n

def next? (s : Scripts α) (name : String) : Option α :=
  entry? ((s.entries.lookup name).getD []) ((s.readings.lookup name).getD 0)

/-- The scripts after one entry was read. -/
def advance (s : Scripts α) (name : String) : Scripts α :=
  let count := (s.readings.lookup name).getD 0 + 1
  { s with readings := (name, count) :: s.readings.filter fun reading => reading.1 ≠ name }

/-- The scripts with another script under a name, to be read from its beginning. -/
def replace (s : Scripts α) (name : String) (script : List α) : Scripts α where
  entries := (name, script) :: s.entries.filter fun entry => entry.1 ≠ name
  readings := s.readings.filter fun reading => reading.1 ≠ name

end Scripts

/-! ## Worked examples -/

example : Scripts.entry? [1, 2] 5 = some 2 := rfl

example : ((Scripts.ofEntries [("a", [1, 2])]).advance "a").next? "a" = some 2 := by decide

end Teardown.Rehearsal
