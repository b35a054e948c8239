/-
# Settings

The settings of a run: how to wait and how to write the log.  They come in layers.  A file, if one
is named, gives values in place of the standard ones; the environment overrides the timeout and
the format of the log; a flag overrides the format once more.  The layers are applied in this
order and the wait is validated before the flag is looked at, so the first layer that is wrong
decides what is reported.

A variable that is set has to make sense, and a wrong one is a fault even if a later layer would
have replaced what it says.  The timeout of the environment is a number of whole seconds, with
blanks around it or not; the format is a word, in any case of its letters.

* §1  the log: its formats, and its settings.
* §2  the layers, from the standard values to the validated settings of a run.
-/
import Teardown.Settings.Wait
import Teardown.Number.Numeral
import Teardown.Text.Blank

namespace Teardown

/-! ## 1. The log -/

/-- How log lines are written. -/
inductive LogFormat
  | text
  | json
deriving DecidableEq, Inhabited

namespace LogFormat

def inspect : LogFormat → String
  | .text => "Text"
  | .json => "Json"

def word : LogFormat → String
  | .text => "text"
  | .json => "json"

/-- The format of a word, whose ASCII letters may be of either case. -/
def parse (word : String) : Except Fault LogFormat :=
  let small := Text.asciiLower word
  if small = "text" then .ok .text
  else if small = "json" then .ok .json
  else .error (.settings ("unknown log format " ++ Text.quote small ++
    " (expected text or json)"))

end LogFormat

/-- The settings of the log. -/
structure LogSettings where
  format : LogFormat
  filter : String
deriving DecidableEq

namespace LogSettings

def standard : LogSettings := ⟨.text, "info"⟩

instance : Inhabited LogSettings := ⟨standard⟩

def inspect (s : LogSettings) : String :=
  Fault.inspectParts "LoggingConfig" [("format", s.format.inspect), ("filter", Text.quote s.filter)]

end LogSettings

/-! ## 2. Layers -/

/-- The variables of the surroundings. -/
structure Environment where
  entries : List (String × String)
deriving Inhabited

namespace Environment

def get? (e : Environment) (name : String) : Option String := e.entries.lookup name

end Environment

/-- The settings of a run. -/
structure Settings where
  wait : WaitSettings
  log : LogSettings
deriving DecidableEq

namespace Settings

def standard : Settings := ⟨.standard, .standard⟩

instance : Inhabited Settings := ⟨standard⟩

/-- The variable that overrides the timeout of waits, in seconds. -/
def timeoutVariable : String := "STRATA_WAIT_TIMEOUT_SECS"

/-- The variable that overrides the format of the log. -/
def formatVariable : String := "STRATA_LOG_FORMAT"

/-- A whole number of seconds below 2^64, with blanks around it. -/
def wholeSeconds? (s : String) : Option Duration :=
  ((Numeral.unsigned? 10 (Text.trimChars s.toList)).filter (· < wordBound)).map Duration.ofWhole

def overrideTimeout (s : Settings) : (value : Option String) → Except Fault Settings
  | none => .ok s
  | some value =>
    match wholeSeconds? value with
    | some timeout => .ok { s with wait := { s.wait with timeout } }
    | none => .error (.settings (timeoutVariable ++ " must be a number of seconds"))

def overrideFormat (s : Settings) : (value : Option String) → Except Fault Settings
  | none => .ok s
  | some value => (LogFormat.parse value).map fun format =>
      { s with log := { s.log with format } }

def withFormat (s : Settings) : Option LogFormat → Settings
  | none => s
  | some format => { s with log := { s.log with format } }

/-- The settings of a file under those of the environment, validated. -/
def resolve (file : Settings) (environment : Environment) : Except Fault Settings := do
  let settings ← file.overrideTimeout (environment.get? timeoutVariable)
  let settings ← settings.overrideFormat (environment.get? formatVariable)
  settings.wait.validate
  .ok settings

/-! ## Worked examples -/

example : wholeSeconds? " 90 " = some (.ofWhole 90) := by decide +kernel

example : wholeSeconds? "18446744073709551616" = none := by decide +kernel

example : wholeSeconds? "" = none := by decide +kernel

end Settings

end Teardown
