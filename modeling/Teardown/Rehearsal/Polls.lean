/-
# A scripted question

A remote side that can be asked one thing.  Each question is written down with its number, takes
its own time, and is answered from a script.

A watch on its own is rehearsed against it.  The states are texts and the watch is told which of
them is the success and which are failures; one that is both is the success.
-/
import Teardown.Rehearsal.Stage
import Teardown.Rehearsal.Script

namespace Teardown.Rehearsal

/-- The one request: what state is it in? -/
inductive Question
  | state
deriving DecidableEq, Inhabited

/-- A question is answered with the name of a state. -/
def Question.Answer : Question → Type
  | .state => String

/-- How long the answers take: all the same time, or each its own. -/
inductive PollLatency
  | constant (millis : Nat)
  | each (millis : List Nat)
deriving Inhabited

/-- How long an answer takes, by its place from zero on. -/
def PollLatency.at : PollLatency → Nat → Nat
  | .constant millis, _ => millis
  | .each millis, n => millis[n]?.getD 0

/-- A script of answers, with how often the question was asked. -/
structure PollScript where
  answers : List (Except Fault String)
  latency : PollLatency
  asked : Nat
deriving Inhabited

namespace PollScript

def answer (s : PollScript) : Except Fault String :=
  (Scripts.entry? s.answers (s.asked - 1)).getD (.ok "")

/-- The script as a remote side. -/
def remote : Remote Question Question.Answer PollScript where
  arrive s _ := ⟨["poll " ++ toString (s.asked + 1)], s.latency.at s.asked,
    { s with asked := s.asked + 1 }⟩
  respond s
    | .state => ⟨.ofExcept s.answer, [], false, s⟩

end PollScript

/-- A watch over states with given names. -/
def stateWatch (resource operation success : String) (failures : List String)
    (settings : WaitSettings) : Watch Question Question.Answer where
  resource := resource
  operation := operation
  request := .state
  observe := fun state : String =>
    ⟨state, if state = success then .success else if failures.contains state then .failure
      else .undecided⟩
  settings := settings

def rehearseWatch (watch : Watch Question Question.Answer) (script : PollScript) (view : View)
    (cancelAt : Option Nat) : Stage Question (Thread Question Question.Answer Unit) PollScript :=
  rehearseActivity PollScript.remote view script 0 (Activity.await watch) cancelAt

end Teardown.Rehearsal
