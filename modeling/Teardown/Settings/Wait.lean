/-
# Settings of a wait

How long to wait for a remote operation, and how often to ask.  The pause between two questions
starts at `initialDelay` and is multiplied after each pause, up to `maxDelay`; with `jitter` every
pause is scaled by a factor between one half and three halves when it is taken.

The multiplication is that of the 64-bit binary format, and a product that has no duration stops
the wait (`Duration.Overflow`).  The bound on the delay is applied before the scaling, so a pause
may be longer than `maxDelay` by half of it.

Settings are checked when a run begins (`validate`): a wait takes some time, its first pause is
not empty, and the pauses do not shrink.  The value that is no number passes the check of the
multiplier, since it is not smaller than one.

* §1  the standard settings, and those with equal pauses.
* §2  pauses, one after the other.
* §3  validity.  The checks come in a fixed order, and the first that fails gives the fault.
-/
import Teardown.Fault

namespace Teardown

/-- The settings of a wait. -/
structure WaitSettings where
  timeout : Duration
  initialDelay : Duration
  maxDelay : Duration
  multiplier : Binary64
  jitter : Bool
deriving DecidableEq

namespace WaitSettings

/-! ## 1. Common settings -/

/-- Twenty-five minutes, with pauses that grow from five seconds to thirty. -/
def standard : WaitSettings where
  timeout := .ofWhole 1500
  initialDelay := .ofWhole 5
  maxDelay := .ofWhole 30
  multiplier := .threeHalves
  jitter := true

instance : Inhabited WaitSettings := ⟨standard⟩

def withTimeout (timeout : Duration) : WaitSettings := { standard with timeout }

/-- Equal pauses without jitter. -/
def fixed (timeout interval : Duration) : WaitSettings where
  timeout := timeout
  initialDelay := interval
  maxDelay := interval
  multiplier := 1
  jitter := false

/-! ## 2. Pauses -/

/-- The delay after a given one: multiplied, and never more than the largest delay. -/
def nextDelay (w : WaitSettings) (delay : Duration) : Except Duration.Overflow Duration :=
  Duration.ofSeconds ((delay.toSeconds * w.multiplier).min w.maxDelay.toSeconds)

/-- A delay scaled by a factor, if the settings ask for it. -/
def scaled (w : WaitSettings) (factor : Binary64) (delay : Duration) :
    Except Duration.Overflow Duration :=
  if w.jitter then Duration.ofSeconds (delay.toSeconds * factor) else .ok delay

/-- The delays that follow a given one, `count` of them unless one has no duration. -/
def delaysAfter (w : WaitSettings) :
    (count : Nat) → Duration → List (Except Duration.Overflow Duration)
  | 0, _ => []
  | count + 1, delay =>
    match w.nextDelay delay with
    | .ok next => .ok next :: delaysAfter w count next
    | .error cause => [.error cause]

/-! ## 3. Validity -/

/-- Refuses a wait that cannot begin, a pause that cannot be taken, and pauses that shrink. -/
def validate (w : WaitSettings) : Except Fault Unit :=
  if w.timeout.nanos = 0 then .error (.settings "wait.timeout must be greater than zero")
  else if w.initialDelay.nanos = 0 then
    .error (.settings "wait.initial_delay must be greater than zero")
  else if w.maxDelay < w.initialDelay then
    .error (.settings "wait.max_delay must not be smaller than wait.initial_delay")
  else if w.multiplier.lt 1 then
    .error (.settings "wait.backoff_multiplier must be at least 1.0")
  else .ok ()

/-! ## Worked examples -/

example : (standard.nextDelay (.ofWhole 5)).toOption = some (.ofParts 7 500000000) := by
  decide +kernel

example : (standard.nextDelay (.ofWhole 29)).toOption = some (.ofWhole 30) := by decide +kernel

example : standard.validate.toOption = some () := by decide +kernel

end WaitSettings

end Teardown
