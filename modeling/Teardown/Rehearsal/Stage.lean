/-
# Rehearsing a process

A rehearsal carries out a process against a scripted remote side, on a clock that jumps from one
timer to the next.  Parties that can go on take turns in the order in which they became able to; a
party that does not have to wait goes on at once.

A rehearsal only chooses among the moves of `Situation.after?`, so what it shows is one of the
sequences of moves that the process has.

* §1  the remote side, which has a state of its own: what it does when a request arrives, and what
      it answers when the time for that has come.
* §2  the stage: the situation of the process, the remote side, who can go on, the timers, and
      what was written down.  Each event of the process puts something on the stage (`react`).
* §3  the moves that a rehearsal makes.
* §4  whole rehearsals.  Somebody who can go on does so; otherwise the clock goes on to the
      earliest timer or intervention, and where there is none the rehearsal is at its end.

The number of steps is bounded, by far more than any rehearsal takes.
-/
import Teardown.Process
import Teardown.Rehearsal.Line

namespace Teardown.Rehearsal

variable {R : Type} {A : R → Type} {σ W : Type}

/-! ## 1. The remote side -/

/-- What happens when a request arrives: what is written down, how long the answer takes in
milliseconds, and the remote side after that. -/
structure Arrival (W : Type) where
  said : List String
  latency : Nat
  world : W

/-- The answer to a request: the reply, what is written down, whether the run is cancelled from
there, and the remote side after that. -/
structure Response (α W : Type) where
  reply : Outcome α
  said : List String
  cancels : Bool
  world : W

/-- A refusal, or else an effect with an answer. -/
def Response.refuseOr {α W : Type} (refusal : Option Fault) (before after : W) (answer : α) :
    Response α W :=
  match refusal with
  | some cause => ⟨.fault cause, [], false, before⟩
  | none => ⟨.ok answer, [], false, after⟩

/-- A scripted remote side with states of type `W`. -/
structure Remote (R : Type) (A : R → Type) (W : Type) where
  arrive : W → R → Arrival W
  respond : W → (request : R) → Response (A request) W

/-! ## 2. The stage -/

/-- What a party waits for. -/
inductive Signal (R : Type)
  | start
  | answer (request : R)
  | wake
  | interrupt
  | settle

/-- A timer. -/
structure Alarm (R : Type) where
  due : Nat
  place : Place
  signal : Signal R

/-- What stays the same during a rehearsal. -/
structure Setting (R : Type) (A : R → Type) (σ W : Type) where
  process : Process R A σ
  remote : Remote R A W
  lane : Place → Place
  view : View
  isOver : σ → Bool

/-- A rehearsal under way: the parties that can go on, in order, the timers in the order in which
they were set, and the lines so far, backwards. -/
structure Stage (R : Type) (σ W : Type) where
  situation : Situation σ
  world : W
  ready : List (Place × Signal R)
  alarms : List (Alarm R)
  lines : List (Place × Line)

namespace Stage

def millis (s : Stage R σ W) : Nat := s.situation.now.millis

def write (setting : Setting R A σ W) (s : Stage R σ W) (place : Place) (line : Line) :
    Stage R σ W :=
  { s with lines := (setting.lane place, line) :: s.lines }

/-- The stage with what the remote side wrote down about a place. -/
def writeAll (setting : Setting R A σ W) (s : Stage R σ W) (place : Place) (said : List String) :
    Stage R σ W :=
  said.foldl (fun s text => s.write setting place ⟨s.millis, text, none⟩) s

/-- The stage with a signal for a place: at once if its time has come, or else by a timer. -/
def schedule (s : Stage R σ W) (due : Nat) (place : Place) (signal : Signal R) : Stage R σ W :=
  if due ≤ s.millis then { s with ready := (place, signal) :: s.ready }
  else { s with alarms := s.alarms ++ [⟨due, place, signal⟩] }

/-- Whether the group at a place is already told that it may be settled. -/
def awaitsSettling (s : Stage R σ W) (place : Place) : Bool :=
  s.ready.any fun (other, signal) =>
    match signal with
    | .settle => other = place
    | _ => false

/-- The stage after the part at a place has ended: its group may be settled. -/
def tellGroup (setting : Setting R A σ W) (s : Stage R σ W) (place : Place) : Stage R σ W :=
  let group := place.dropLast
  if place.isEmpty ∨ setting.lane place ≠ place ∨ s.awaitsSettling group then s
  else { s with ready := s.ready ++ [(group, .settle)] }

/-- The stage after an event. -/
def react (setting : Setting R A σ W) (s : Stage R σ W) (event : Event R A) : Stage R σ W :=
  match event.occurrence with
  | .noted record =>
    match setting.view.line? s.millis record with
    | some line => s.write setting event.place line
    | none => s
  | .asked request =>
    let arrival := setting.remote.arrive s.world request
    let s := { s with world := arrival.world }
    (s.writeAll setting event.place arrival.said).schedule (s.millis + arrival.latency)
      event.place (.answer request)
  | .rested due => s.schedule due.ceilMillis event.place .wake
  | .opened => { s with ready := s.ready ++ [(event.place, .start)] }
  | .ended _ => s.tellGroup setting event.place
  | .replied .. | .began | .cancelled => s

def reactAll (setting : Setting R A σ W) (s : Stage R σ W) (events : List (Event R A)) :
    Stage R σ W :=
  events.foldl (react setting) s

/-! ## 3. Moves -/

/-- The stage after a move, or as it was if the move is not possible. -/
def move (setting : Setting R A σ W) (s : Stage R σ W) (m : Move R A) : Stage R σ W :=
  match s.situation.after? setting.process m with
  | some (entries, situation) =>
    { s with situation }.reactAll setting (entries.map Entry.event)
  | none => s

/-- The stage after the run was cancelled: all rests are interrupted. -/
def cancel (setting : Setting R A σ W) (s : Stage R σ W) : Stage R σ W :=
  let isRest (alarm : Alarm R) : Bool :=
    match alarm.signal with
    | .wake => true
    | _ => false
  let s := s.move setting .cancel
  { s with
    ready := s.ready ++ (s.alarms.filter isRest).map fun alarm => (alarm.place, .interrupt)
    alarms := s.alarms.filter fun alarm => !isRest alarm }

/-- A rest with jitter is taken unscaled. -/
def factor : Binary64 := 1

/-- The stage after a party was set going. -/
def serve (setting : Setting R A σ W) (s : Stage R σ W) (place : Place) :
    Signal R → Stage R σ W
  | .start => s.move setting (.resume place .start factor)
  | .wake => s.move setting (.resume place .wake factor)
  | .interrupt => s.move setting (.resume place .interrupt factor)
  | .settle => s.move setting (.resume place .settle factor)
  | .answer request =>
    let world := s.world
    let response := setting.remote.respond world request
    let s := if response.cancels then s.cancel setting else s
    let s := { s with world := response.world }.writeAll setting place response.said
    s.move setting
      (.resume place (.reply fun q => (setting.remote.respond world q).reply) factor)

def nextDue? (s : Stage R σ W) : Option Nat := (s.alarms.map Alarm.due).min?

def passTo (setting : Setting R A σ W) (s : Stage R σ W) (millis : Nat) : Stage R σ W :=
  s.move setting (.pass ⟨(millis - s.millis) * 1000000⟩)

/-- The stage with all timers that have gone off, in the order in which they were set. -/
def ring (s : Stage R σ W) : Stage R σ W :=
  let isDue (alarm : Alarm R) : Bool := alarm.due ≤ s.millis
  { s with
    ready := s.ready ++ (s.alarms.filter isDue).map fun alarm => (alarm.place, alarm.signal)
    alarms := s.alarms.filter fun alarm => !isDue alarm }

/-! ## 4. Rehearsals -/

/-- What comes from outside: when the run is cancelled and when it is dropped, in milliseconds. -/
structure Interventions where
  cancelAt : Option Nat
  dropAt : Option Nat
deriving Inhabited

/-- How a rehearsal went on: to the next stage, or it stopped. -/
inductive Progress (R : Type) (σ W : Type)
  | onward (stage : Stage R σ W) (left : Interventions)
  | stopped (stage : Stage R σ W)

/-- The next step when nobody can go on: the earliest timer or intervention. -/
def idle (setting : Setting R A σ W) (s : Stage R σ W) (left : Interventions) :
    Progress R σ W :=
  let times := s.nextDue?.toList ++ left.cancelAt.toList ++ left.dropAt.toList
  match times.min? with
  | none => .stopped s
  | some millis =>
    let s := s.passTo setting millis
    if left.dropAt = some millis then .stopped (s.move setting .drop)
    else if left.cancelAt = some millis then
      .onward (s.cancel setting) { left with cancelAt := none }
    else .onward s.ring left

/-- One step of a rehearsal. -/
def step (setting : Setting R A σ W) (s : Stage R σ W) (left : Interventions) :
    Progress R σ W :=
  if setting.isOver s.situation.state then .stopped s
  else
    match s.ready with
    | (place, signal) :: rest => .onward ({ s with ready := rest }.serve setting place signal) left
    | [] => s.idle setting left

/-- The stage where a rehearsal stops, after so many steps at most. -/
def run (setting : Setting R A σ W) : (limit : Nat) → Stage R σ W → Interventions → Stage R σ W
  | 0, s, _ => s
  | limit + 1, s, left =>
    match s.step setting left with
    | .onward s left => run setting limit s left
    | .stopped s => s

end Stage

def stepLimit : Nat := 100000000

/-- A rehearsal from its first events to where it stops, beginning at a time in milliseconds.  Every
intervention has its time on the same clock; a run that should have been cancelled before it begins is
cancelled from the beginning. -/
def rehearse (setting : Setting R A σ W) (world : W) (start : Nat)
    (first : Conditions → List (Event R A) × σ) (interventions : Stage.Interventions) :
    Stage R σ W :=
  let cancelled := interventions.cancelAt.any fun millis => decide (millis ≤ start)
  let now : Moment := ⟨start * 1000000⟩
  let (events, state) := first ⟨now, cancelled, Stage.factor⟩
  let stage : Stage R σ W := ⟨⟨state, now, cancelled, false⟩, world, [], [], []⟩
  let left := if cancelled then { interventions with cancelAt := none } else interventions
  Stage.run setting stepLimit (stage.reactAll setting events) left

def rehearseActivity {α : Type} (remote : Remote R A W) (view : View) (world : W) (start : Nat)
    (activity : Activity R A α) (cancelAt : Option Nat) : Stage R (Thread R A α) W :=
  let setting : Setting R A (Thread R A α) W :=
    ⟨Thread.process R A α, remote, fun _ => [], view, fun thread => thread.outcome?.isSome⟩
  rehearse setting world start
    (fun c => let (happened, thread) := activity.proceed c; (eventsHere happened, thread))
    ⟨cancelAt, none⟩

end Teardown.Rehearsal
