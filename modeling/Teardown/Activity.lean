/-
# Activities

An activity is what one party does, step by step: it writes records, asks others to do something
and goes on with their answer, watches remote operations, and ends.  It says nothing about time,
about other activities, or about who answers; `Thread` carries it out under given conditions, and
stops wherever something has to be waited for.

A request may be refused with a fault, which the activity deals with; if the other side breaks off
instead, the activity breaks off with it.  So the type of an answer is what the request promises,
and a fault stands beside it, but a break-off does not appear in an activity at all.

* §1  activities in sequence: `bind` runs through the first one and puts the second in its ends.
* §2  the single steps of which all activities of the domain are made.
* §3  `answered`, the activity with every request answered at once.  The making of a plan is an
      activity without watches, and this is how it comes out.
-/
import Teardown.Watch

namespace Teardown

/-- What one party does.  `R` are the requests that it may make, and `A q` is the type of the answer
to the request `q`. -/
inductive Activity (R : Type) (A : R → Type) (α : Type)
  | finish (outcome : Outcome α)
  | note (record : Record) (next : Activity R A α)
  | ask (request : R) (next : Except Fault (A request) → Activity R A α)
  | watch (watch : Watch R A) (next : Except Fault Unit → Activity R A α)

namespace Activity

variable {R : Type} {A : R → Type} {α β : Type}

/-! ## 1. Sequence -/

def pure (value : α) : Activity R A α := .finish (.ok value)

def fail (cause : Fault) : Activity R A α := .finish (.fault cause)

/-- The first activity, and then what is made of its value. -/
def bind : Activity R A α → (α → Activity R A β) → Activity R A β
  | .finish (.ok value), k => k value
  | .finish (.fault cause), _ => .finish (.fault cause)
  | .finish (.panic text), _ => .finish (.panic text)
  | .note record next, k => .note record (next.bind k)
  | .ask request next, k => .ask request fun answer => (next answer).bind k
  | .watch w next, k => .watch w fun answer => (next answer).bind k

@[simp] theorem bind_pure_right (a : Activity R A α) : a.bind pure = a := by
  induction a with
  | finish o => cases o <;> rfl
  | note record next ih => rw [bind, ih]
  | ask request next ih => rw [bind]; exact congrArg _ (funext ih)
  | watch w next ih => rw [bind]; exact congrArg _ (funext ih)

instance : Monad (Activity R A) where
  pure := pure
  bind := bind

instance : Inhabited (Activity R A α) := ⟨fail default⟩

/-! ## 2. Single steps -/

/-- The value of a computation that may fail. -/
def ofExcept (value : Except Fault α) : Activity R A α := .finish (.ofExcept value)

def say (record : Record) : Activity R A Unit := .note record (pure ())

def sayAll : List Record → Activity R A Unit
  | [] => pure ()
  | record :: records => .note record (sayAll records)

/-- One request; a refusal is handed on. -/
def request (q : R) : Activity R A (A q) := .ask q ofExcept

/-- One watch; its fault is handed on. -/
def await (w : Watch R A) : Activity R A Unit := .watch w ofExcept

/-! ## 3. Immediate answers -/

/-- The records of an activity and how it ends if every request is answered at once; it has no end if it
watches anything. -/
def answered (answer : (q : R) → Except Fault (A q)) :
    Activity R A α → List Record × Option (Outcome α)
  | .finish outcome => ([], some outcome)
  | .note record next =>
    let (records, outcome) := next.answered answer
    (record :: records, outcome)
  | .ask q next => (next (answer q)).answered answer
  | .watch _ _ => ([], none)

end Activity

end Teardown
