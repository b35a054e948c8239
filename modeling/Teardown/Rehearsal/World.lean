/-
# A scripted remote side of a teardown

The stacks that there are, what each question about a stack is answered with, and which calls are
refused.  A call is written down when it arrives; after its latency it is refused or takes effect.

The operations that a caller may supply are scripted as deeds: each takes some time and then ends
in one of a few ways.

The questions about a single stack are answered from the script of its name, and each answer
changes the stacks accordingly; without a script the stack is gone.  A listing is answered with
what there is.

* §1  the world, and how it is changed.
* §2  what is written down when a call arrives, and how long its answer takes.
* §3  answers.  An answer and the change of the world that goes with it are one function.
-/
import Teardown.Rehearsal.Plan
import Teardown.Rehearsal.Script

namespace Teardown.Rehearsal

/-! ## 1. The world -/

/-- What a question about a stack is answered with. -/
inductive Poll
  | gone
  | status (status : StackStatus)
  | refused (cause : Fault)
deriving Inhabited

/-- How long the calls of each kind take, in milliseconds. -/
structure Latencies where
  describeStacks : Nat
  describeStack : Nat
  deleteStack : Nat
  deleteProvider : Nat
  connect : Nat
  deleteAccount : Nat
  cleanUp : Nat
deriving Inhabited

/-- How a supplied operation ends. -/
inductive Ending
  | done
  | fails (cause : Fault)
  | cancels
  | panics (text : Option String)
deriving Inhabited

/-- A supplied operation. -/
structure Deed where
  info : String
  millis : Nat
  ending : Ending
deriving Inhabited

/-- Faults by the names of what they are about. -/
abbrev Refusals := List (String × Fault)

/-- A scripted remote side. -/
structure World where
  listing : List Stack
  polls : Scripts Poll
  listingRefusals : Refusals
  deletionRefusals : Refusals
  accountRefusals : Refusals
  cleanUpRefusals : Refusals
  provider : Except Fault Bool
  providerRefusal : Option Fault
  connectionRefusal : Option Fault
  latencies : Latencies
  deeds : List Deed

namespace World

/-- A world in which there is nothing and everything succeeds at once. -/
def empty : World where
  listing := []
  polls := .ofEntries []
  listingRefusals := []
  deletionRefusals := []
  accountRefusals := []
  cleanUpRefusals := []
  provider := .ok false
  providerRefusal := none
  connectionRefusal := none
  latencies := default
  deeds := []

instance : Inhabited World := ⟨empty⟩

def setStatus (world : World) (name : String) (status : StackStatus) : World :=
  { world with
    listing := world.listing.map fun stack =>
      if stack.name = name then { stack with status } else stack }

def removeStack (world : World) (name : String) : World :=
  { world with listing := world.listing.filter fun stack => stack.name ≠ name }

/-- The stack of a name, or one that is made up. -/
def stackNamed (world : World) (name : String) (status : StackStatus) : Stack :=
  (world.listing.find? fun stack => stack.name = name).getD (.plain name .cluster status)

/-! ## 2. Arrivals -/

/-- What is written down when a request arrives. -/
def announce (world : World) : Request → List String
  | .describeStacks cluster kind => ["describe_stacks " ++ cluster ++ " " ++ kind.text]
  | .describeStack name => ["describe_stack " ++ name]
  | .deleteStack stack => ["delete_stack " ++ stack.name]
  | .providerExists => ["oidc exists"]
  | .deleteProvider => ["oidc delete"]
  | .connect => ["client"]
  | .deleteAccount account => ["delete_service_account " ++ account.text]
  | .cleanUp nodeGroup => ["cleanup " ++ nodeGroup]
  | .perform number argument =>
    let info := ((world.deeds[number]?).map Deed.info).getD ""
    ["begin " ++ info ++ ((argument.map (" " ++ ·)).getD "")]

/-- How long the answer to a request takes. -/
def latency (world : World) : Request → Nat
  | .describeStacks .. => world.latencies.describeStacks
  | .describeStack _ => world.latencies.describeStack
  | .deleteStack _ => world.latencies.deleteStack
  | .providerExists => 0
  | .deleteProvider => world.latencies.deleteProvider
  | .connect => world.latencies.connect
  | .deleteAccount _ => world.latencies.deleteAccount
  | .cleanUp _ => world.latencies.cleanUp
  | .perform number _ => ((world.deeds[number]?).map Deed.millis).getD 0

/-! ## 3. Answers -/

/-- The answer to a question about a stack. -/
def respondPoll (world : World) (name : String) : Response (Option Stack) World :=
  let after := { world with polls := world.polls.advance name }
  match (world.polls.next? name).getD .gone with
  | .gone => ⟨.ok none, [], false, after.removeStack name⟩
  | .status status =>
    let after := after.setStatus name status
    ⟨.ok (some (after.stackNamed name status)), [], false, after⟩
  | .refused cause => ⟨.fault cause, [], false, after⟩

/-- The answer of a supplied operation. -/
def respondDeed (world : World) (number : Nat) : Response Unit World :=
  let deed := world.deeds[number]?.getD default
  let finished := ["end " ++ deed.info]
  match deed.ending with
  | .done => ⟨.ok (), finished, false, world⟩
  | .fails cause => ⟨.fault cause, [], false, world⟩
  | .cancels => ⟨.ok (), finished, true, world⟩
  | .panics text => ⟨.panic text, [], false, world⟩

def respond (world : World) : (request : Request) → Response request.Answer World
  | .describeStacks _ kind =>
    .refuseOr (world.listingRefusals.lookup kind.text) world world
      (world.listing.filter fun stack => stack.kind = kind)
  | .describeStack name => world.respondPoll name
  | .deleteStack stack =>
    .refuseOr (world.deletionRefusals.lookup stack.name) world
      (world.setStatus stack.name .deleteInProgress)
      (⟨stack.name, "req-" ++ stack.name⟩ : Receipt)
  | .providerExists => ⟨.ofExcept world.provider, [], false, world⟩
  | .deleteProvider =>
    .refuseOr world.providerRefusal world { world with provider := .ok false } ()
  | .connect => .refuseOr world.connectionRefusal world world ()
  | .deleteAccount account =>
    .refuseOr (world.accountRefusals.lookup account.text) world world ()
  | .cleanUp nodeGroup => .refuseOr (world.cleanUpRefusals.lookup nodeGroup) world world ()
  | .perform number _ => world.respondDeed number

def remote : TeardownRemote World where
  arrive world request := ⟨world.announce request, world.latency request, world⟩
  respond := respond

end World

end Teardown.Rehearsal
