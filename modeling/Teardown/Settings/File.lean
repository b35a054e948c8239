/-
# Settings files

Settings are kept in a YAML file.  The file is optional, but one that is named has to be there.

A settings file can be written and read again.  What comes back is the same unless a length of
time is not one that a double of seconds gives, or the multiplier is not equal to itself.

Three things can go wrong with a file, and each has a wording of its own: it cannot be read, it is
no document of the right shape, or it gives a number of seconds that has no duration.  In the last
case the run breaks off, while the other two are faults.
-/
import Teardown.Document
import Teardown.Files
import Teardown.Outcome
import Teardown.Yaml.Shape

namespace Teardown

namespace Settings

/-! ## 1. Reading -/

def ofText (text : String) : Reading Settings :=
  (Yaml.read schema text.toList).map ofDatum

/-- The wording for a file that cannot be used, with what is known about the reason. -/
def unusable (verb path : String) (reason : Option String) : Fault :=
  .settings ("failed to " ++ verb ++ " " ++ path ++ ((reason.map (": " ++ ·)).getD ""))

/-- The settings of a file. -/
def ofFile (files : Files) (path : String) : Outcome Settings :=
  match files.text path with
  | .error cause => .fault (unusable "read" path (some cause.message))
  | .ok text =>
    match ofText text with
    | .ok settings => .ok settings
    | .error (.overflow cause) => .overflow cause
    | .error complaint => .fault (unusable "parse" path complaint.text?)

/-- The settings of a run: those of a file, if there is one, under those of the environment. -/
def load (files : Files) (path : Option String) (environment : Environment) : Outcome Settings :=
  match path with
  | none => .ofExcept (standard.resolve environment)
  | some path =>
    match ofFile files path with
    | .ok settings => .ofExcept (settings.resolve environment)
    | outcome => outcome

/-! ## 2. Writing and reading again -/

/-- A wait after its lengths of time were written in seconds and read again. -/
def rereadWait (w : WaitSettings) : Except Duration.Overflow WaitSettings := do
  let timeout ← Duration.ofSeconds w.timeout.toSeconds
  let initialDelay ← Duration.ofSeconds w.initialDelay.toSeconds
  let maxDelay ← Duration.ofSeconds w.maxDelay.toSeconds
  .ok { w with timeout, initialDelay, maxDelay }

/-- Whether settings come back the same when they are written and read again; nothing if they do not
come back at all. -/
def survives? (s : Settings) : Option Bool :=
  match rereadWait s.wait with
  | .ok wait => some (decide (wait = s.wait ∧ s.wait.multiplier ≠ .nan))
  | .error _ => none

end Settings

end Teardown
