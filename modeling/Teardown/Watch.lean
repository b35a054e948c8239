/-
# Watching a remote operation

A watch asks the same question again and again until the answer shows that the operation succeeded
or failed, or until the time is up.  One round goes: stop if the run was cancelled, ask, judge the
answer, and unless that decided the matter rest for the current delay, or for what is left of the
time if that is shorter.  A question that could not be answered says nothing new; the watch goes
on.

The rounds are functions on the state of the watch.  Asking and resting take time, so they are
left to whoever carries out the watch: `enter` comes before a question, `receive` after its
answer, `leave` after a rest and `Watch.interrupted` is what a cancelled rest ends with.

A rest is scaled by a factor that the conditions bring along, since it is drawn at random; the
theorems about waits hold for every choice of factors.  A delay that is scaled beyond what a
duration can hold ends the watch with a panic, and so does a next delay that is too long.

* §1  what is watched, and where a watch stands.
* §2-3  its records and its faults.
* §4  rounds.
-/
import Teardown.Outcome
import Teardown.Record
import Teardown.Settings.Wait

namespace Teardown

/-! ## 1. What is watched -/

/-- What an observed state means for the operation. -/
inductive Verdict
  | success
  | failure
  | undecided
deriving DecidableEq, Inhabited

/-- A state as it was observed, with its meaning. -/
structure Observation where
  state : String
  verdict : Verdict
deriving DecidableEq, Inhabited

/-- A watch over an operation on a resource: the question to ask, and how to read its answers. -/
structure Watch (R : Type) (A : R → Type) where
  resource : String
  operation : String
  request : R
  observe : A request → Observation
  settings : WaitSettings

/-- Where a watch stands: when it began, how often it has asked, the delay that comes next, and the
last state that was observed.  The questions are counted in 32 bits, for the records only. -/
structure WatchState where
  started : Moment
  attempt : UInt32
  delay : Duration
  lastState : Option String
deriving DecidableEq

/-- The circumstances of a step: the time, whether the run is cancelled, and the factor that a rest
with jitter is scaled by. -/
structure Conditions where
  now : Moment
  cancelled : Bool
  factor : Binary64
deriving DecidableEq

/-- The end of a rest: timers go off on whole milliseconds. -/
def restEnd (now : Moment) (length : Duration) : Moment :=
  ⟨(now + length).ceilMillis * 1000000⟩

namespace Watch

variable {R : Type} {A : R → Type}

/-! ## 2. Records -/

/-- The part of the program that speaks while it watches. -/
def target : String := "strata_common::waiter"

def record (w : Watch R A) (level : Level) (message : String)
    (fields : List (String × FieldValue)) : Record :=
  ⟨level, target, message, ("resource", .text w.resource) :: fields⟩

def opening (w : Watch R A) : Record :=
  w.record .info w.operation [("timeout_secs", .number w.settings.timeout.seconds)]

def observed (w : Watch R A) (s : WatchState) (o : Observation) : Record :=
  let fields := [("attempt", FieldValue.number s.attempt.toNat), ("state", .text o.state)]
  match o.verdict with
  | .success => w.record .debug "Operation succeeded" fields
  | .failure => w.record .warn "Operation reached failure state" fields
  | .undecided => w.record .trace "Operation still in progress" fields

/-- The record about a question that could not be answered. -/
def unanswered (w : Watch R A) (s : WatchState) (cause : Fault) : Record :=
  w.record .warn "Status request failed, will poll again"
    [("attempt", .number s.attempt.toNat), ("error", .text cause.message)]

/-- The record about the end of the time. -/
def expired (w : Watch R A) (s : WatchState) : Record :=
  w.record .warn "Timed out waiting for terminal state"
    [("attempt", .number s.attempt.toNat), ("last_state", .quoted (Fault.lastStateText s.lastState))]

/-! ## 3. Faults -/

def interrupted (w : Watch R A) : Fault :=
  .cancelled (w.operation ++ " (" ++ w.resource ++ ")")

def failed (w : Watch R A) (state : String) : Fault :=
  .waitFailed w.resource w.operation state

/-- The fault of a watch whose time is up. -/
def timedOut (w : Watch R A) (s : WatchState) : Fault :=
  .waitTimeout w.resource w.settings.timeout s.lastState

/-! ## 4. Rounds -/

/-- What follows an answer: the watch is over, or there is a rest. -/
inductive Next
  | over (outcome : Outcome Unit)
  | rest (state : WatchState) (due : Moment)

/-- A watch that begins now. -/
def start (w : Watch R A) (now : Moment) : WatchState :=
  ⟨now, 0, w.settings.initialDelay, none⟩

/-- The state with one more question asked, unless the run is cancelled. -/
def enter (_w : Watch R A) (c : Conditions) (s : WatchState) : Option WatchState :=
  if c.cancelled then none else some { s with attempt := s.attempt + 1 }

/-- What follows an undecided round: the end of the time, or a rest, which a cancelled run does not
take. -/
def pause (w : Watch R A) (c : Conditions) (s : WatchState) : List Record × Next :=
  let elapsed := c.now - s.started
  if w.settings.timeout ≤ elapsed then ([w.expired s], .over (.fault (w.timedOut s)))
  else
    match w.settings.scaled c.factor s.delay with
    | .error cause => ([], .over (.overflow cause))
    | .ok delay =>
      if c.cancelled then ([], .over (.fault w.interrupted))
      else ([], .rest s (restEnd c.now (min delay (w.settings.timeout - elapsed))))

/-- What follows an answer to the question. -/
def receive (w : Watch R A) (c : Conditions) (s : WatchState) :
    Except Fault (A w.request) → List Record × Next
  | .error cause =>
    let (records, next) := w.pause c s
    (w.unanswered s cause :: records, next)
  | .ok answer =>
    let seen := w.observe answer
    match seen.verdict with
    | .success => ([w.observed s seen], .over (.ok ()))
    | .failure => ([w.observed s seen], .over (.fault (w.failed seen.state)))
    | .undecided =>
      let (records, next) := w.pause c { s with lastState := some seen.state }
      (w.observed s seen :: records, next)

/-- The state after a rest, with the delay that comes next. -/
def leave (w : Watch R A) (s : WatchState) : Except Duration.Overflow WatchState :=
  (w.settings.nextDelay s.delay).map fun delay => { s with delay }

end Watch

end Teardown
