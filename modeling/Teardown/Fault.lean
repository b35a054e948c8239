/-
# Faults

What can go wrong while a teardown is planned or carried out, as causes.  `message` is the wording
of a fault and `inspect` shows its structure.  A parallel group collects the faults of its parts
in one `aggregate`; `failures` takes such collections apart again, and `isRetryable` says whether
another attempt could succeed.

A collection may hold collections, so each function on faults comes with one on lists of faults,
and the proofs about them go by the same recursion.

Main fact: `isRetryable_iff`, a fault is retryable exactly when no empty collection occurs
anywhere in it and all its failures are retryable.  The empty collection needs a word of its own,
because it has no failures and is not retryable all the same; no parallel group makes one.

* §1  causes.
* §2  their wordings.  A collection gives the wordings of all it holds.
* §3  failures, and whether it is worth while to try again.
* §4  the two put together.
-/
import Teardown.Text.Quoted
import Teardown.Duration

namespace Teardown

/-! ## 1. Causes -/

/-- What a remote cluster answered when it refused a call. -/
structure Refusal where
  status : String
  message : String
  reason : String
  code : Nat
deriving DecidableEq, Inhabited

/-- Why a call to a cluster failed: it answered with a refusal, or there was no usable answer. -/
inductive ClusterFault
  | refused (refusal : Refusal)
  | unusable
deriving DecidableEq, Inhabited

/-- A cause of failure. -/
inductive Fault
  | stackApi (stack message : String)
  | notFound (kind name : String)
  | precondition (message : String)
  | waitFailed (resource operation state : String)
  | waitTimeout (resource : String) (timeout : Duration) (lastState : Option String)
  | cancelled (context : String)
  | aggregate (faults : List Fault)
  | cluster (cause : ClusterFault)
  | settings (message : String)
  | internal (context message : String)
deriving Inhabited

namespace Refusal

def inspect (r : Refusal) : String :=
  "ErrorResponse \x7b status: " ++ Text.quote r.status ++ ", message: " ++ Text.quote r.message ++
    ", reason: " ++ Text.quote r.reason ++ ", code: " ++ toString r.code ++ " \x7d"

def wording (r : Refusal) : String :=
  "ApiError: " ++ r.message ++ ": " ++ r.reason ++ " (" ++ r.inspect ++ ")"

end Refusal

namespace Fault

/-! ## 2. Wording -/

/-- The last state that was observed, or a word for none. -/
def lastStateText (lastState : Option String) : String := lastState.getD "none"

mutual

/-- The wording of a fault. -/
def message : Fault → String
  | .stackApi stack message => "stack API error for " ++ stack ++ ": " ++ message
  | .notFound kind name => kind ++ " " ++ Text.quote name ++ " not found"
  | .precondition message => "precondition failed: " ++ message
  | .waitFailed resource operation state =>
    operation ++ " for " ++ resource ++ " reached terminal state " ++ state
  | .waitTimeout resource timeout lastState =>
    "timed out after " ++ timeout.text ++ " waiting for " ++ resource ++
      " (last observed state: " ++ lastStateText lastState ++ ")"
  | .cancelled context => "cancelled: " ++ context
  | .aggregate faults =>
    toString faults.length ++ " task(s) failed: " ++ "; ".intercalate (messages faults)
  | .cluster (.refused refusal) => "kubernetes error: " ++ refusal.wording
  | .cluster .unusable => "kubernetes error"
  | .settings message => "configuration error: " ++ message
  | .internal context message => "internal error [" ++ context ++ "]: " ++ message

def messages : List Fault → List String
  | [] => []
  | fault :: faults => fault.message :: messages faults

end

/-- An optional text in the notation for structures. -/
def inspectOption : Option String → String
  | none => "None"
  | some value => "Some(" ++ Text.quote value ++ ")"

/-- A named structure with named parts. -/
def inspectParts (name : String) (parts : List (String × String)) : String :=
  name ++ " \x7b " ++ ", ".intercalate (parts.map fun (part, value) => part ++ ": " ++ value) ++
    " \x7d"

mutual

def inspect : Fault → String
  | .stackApi stack message =>
    inspectParts "StackApi" [("stack", Text.quote stack), ("message", Text.quote message)]
  | .notFound kind name =>
    inspectParts "NotFound" [("kind", Text.quote kind), ("name", Text.quote name)]
  | .precondition message => inspectParts "Precondition" [("message", Text.quote message)]
  | .waitFailed resource operation state =>
    inspectParts "WaitFailed" [("resource", Text.quote resource),
      ("operation", Text.quote operation), ("state", Text.quote state)]
  | .waitTimeout resource timeout lastState =>
    inspectParts "WaitTimeout" [("resource", Text.quote resource), ("timeout", timeout.text),
      ("last_state", inspectOption lastState)]
  | .cancelled context => inspectParts "Cancelled" [("context", Text.quote context)]
  | .aggregate faults =>
    inspectParts "Aggregate" [("errors", "[" ++ ", ".intercalate (inspectAll faults) ++ "]")]
  | .cluster (.refused refusal) =>
    inspectParts "Kube" [("source", "Api(" ++ refusal.inspect ++ ")")]
  | .cluster .unusable => inspectParts "Kube" [("source", "unusable")]
  | .settings message => inspectParts "Config" [("message", Text.quote message)]
  | .internal context message =>
    inspectParts "Internal" [("message", Text.quote message), ("context", Text.quote context)]

def inspectAll : List Fault → List String
  | [] => []
  | fault :: faults => fault.inspect :: inspectAll faults

end

/-! ## 3. Failures and retrying -/

mutual

/-- The failures in a fault, with all collections taken apart, in order. -/
def failures : Fault → List Fault
  | .aggregate faults => failuresOf faults
  | fault => [fault]

def failuresOf : List Fault → List Fault
  | [] => []
  | fault :: faults => fault.failures ++ failuresOf faults

end

mutual

/-- Whether planning and running again could succeed. -/
def isRetryable : Fault → Bool
  | .stackApi .. => true
  | .waitTimeout .. => true
  | .cluster .. => true
  | .aggregate faults => !faults.isEmpty && allRetryable faults
  | _ => false

def allRetryable : List Fault → Bool
  | [] => true
  | fault :: faults => fault.isRetryable && allRetryable faults

end

mutual

/-- Whether a collection without faults occurs anywhere in a fault. -/
def hasEmptyAggregate : Fault → Bool
  | .aggregate faults => faults.isEmpty || anyEmptyAggregate faults
  | _ => false

def anyEmptyAggregate : List Fault → Bool
  | [] => false
  | fault :: faults => fault.hasEmptyAggregate || anyEmptyAggregate faults

end

/-! ## 4. Retryable faults and their failures -/

mutual

theorem isRetryable_iff (fault : Fault) :
    fault.isRetryable = true ↔
      fault.hasEmptyAggregate = false ∧ ∀ f ∈ fault.failures, f.isRetryable = true := by
  cases fault with
  | aggregate faults =>
    have h := allRetryable_iff faults
    simp only [isRetryable, hasEmptyAggregate, failures, Bool.and_eq_true, h,
      Bool.or_eq_false_iff, Bool.not_eq_true']
    exact and_assoc.symm
  | _ => simp [isRetryable, hasEmptyAggregate, failures]

theorem allRetryable_iff (faults : List Fault) :
    allRetryable faults = true ↔
      anyEmptyAggregate faults = false ∧ ∀ f ∈ failuresOf faults, f.isRetryable = true := by
  match faults with
  | [] => simp [allRetryable, anyEmptyAggregate, failuresOf]
  | fault :: faults =>
    have h := isRetryable_iff fault
    have hs := allRetryable_iff faults
    simp only [allRetryable, anyEmptyAggregate, failuresOf, Bool.and_eq_true, h, hs,
      Bool.or_eq_false_iff, List.mem_append]
    constructor
    · rintro ⟨⟨h1, h2⟩, h3, h4⟩
      exact ⟨⟨h1, h3⟩, fun f hf => hf.elim (h2 f) (h4 f)⟩
    · rintro ⟨⟨h1, h3⟩, h4⟩
      exact ⟨⟨h1, fun f hf => h4 f (.inl hf)⟩, h3, fun f hf => h4 f (.inr hf)⟩

end

/-! ## Worked examples -/

example : (Fault.aggregate [.aggregate [], .stackApi "a" "b"]).failures =
    [.stackApi "a" "b"] := by rfl

example : (Fault.aggregate [.aggregate [], .stackApi "a" "b"]).isRetryable = false := by rfl

end Fault

end Teardown
