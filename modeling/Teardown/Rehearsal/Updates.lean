/-
# A scripted remote side of updates

The current logging of a cluster, the updates that it accepts, and what each question about an
update is answered with.  An accepted change of logging becomes the current logging when its
update is first reported as successful.

The scripts are read by the ids of the updates.  A question about an id that has no script is
answered with the status of success; and each request is written down when it arrives, whatever
its answer will be.
-/
import Teardown.Rehearsal.Stage
import Teardown.Rehearsal.Script
import Teardown.Update

namespace Teardown.Rehearsal

/-- A scripted remote side of updates. -/
structure UpdateWorld where
  logging : List LogSetup
  loggingRefusal : Option Fault
  loggingUpdateRefusal : Option Fault
  versionUpdateRefusal : Option Fault
  loggingUpdate : Update
  versionUpdate : Update
  statuses : Scripts (Except Fault UpdateStatus)
  latency : Nat
  accepted : List (String × List LogSetup)

namespace UpdateWorld

/-- The update that is accepted where none is scripted. -/
def standardUpdate : Update := ⟨"upd-1", "Update", .inProgress⟩

instance : Inhabited UpdateWorld :=
  ⟨⟨[], none, none, none, standardUpdate, standardUpdate, .ofEntries [], 0, []⟩⟩

def setupText (writeText : String → String) (setup : LogSetup) : String :=
  "\x7b\"enabled\":" ++ toString setup.enabled ++ ",\"types\":[" ++
    ",".intercalate (setup.types.map writeText) ++ "]\x7d"

/-- What is written down when a request arrives. -/
def announce (writeText : String → String) : ClusterRequest → String
  | .describeLogging cluster => "describe_logging " ++ cluster
  | .updateLogging cluster setups => "update_logging " ++ cluster ++ " [" ++
      ",".intercalate (setups.map (setupText writeText)) ++ "]"
  | .updateVersion cluster version => "update_version " ++ cluster ++ " " ++ version
  | .describeUpdate cluster id => "describe_update " ++ cluster ++ " " ++ id

/-- The world after an update was reported as successful. -/
def apply (world : UpdateWorld) (id : String) : UpdateWorld :=
  match world.accepted.lookup id with
  | some setups =>
    { world with
      logging := setups
      accepted := world.accepted.filter fun accepted => accepted.1 ≠ id }
  | none => world

/-- The update of an id with a status. -/
def described (world : UpdateWorld) (id : String) (status : UpdateStatus) : Update :=
  let kind :=
    if id = world.loggingUpdate.id then world.loggingUpdate.kind
    else if id = world.versionUpdate.id then world.versionUpdate.kind else "Update"
  ⟨id, kind, status⟩

/-- The answer to a question about an update. -/
def respondUpdate (world : UpdateWorld) (id : String) : Response Update UpdateWorld :=
  let after := { world with statuses := world.statuses.advance id }
  match (world.statuses.next? id).getD (.ok .successful) with
  | .error cause => ⟨.fault cause, [], false, after⟩
  | .ok status =>
    let after := if status = .successful then after.apply id else after
    ⟨.ok (world.described id status), [], false, after⟩

def respond (world : UpdateWorld) :
    (request : ClusterRequest) → Response request.Answer UpdateWorld
  | .describeLogging _ => .refuseOr world.loggingRefusal world world world.logging
  | .updateLogging _ setups =>
    let id := world.loggingUpdate.id
    .refuseOr world.loggingUpdateRefusal world
      { world with
        accepted := (id, setups) :: world.accepted.filter fun accepted => accepted.1 ≠ id }
      world.loggingUpdate
  | .updateVersion .. => .refuseOr world.versionUpdateRefusal world world world.versionUpdate
  | .describeUpdate _ id => world.respondUpdate id

/-- The world as a remote side, given how texts are written down. -/
def remote (writeText : String → String) :
    Remote ClusterRequest ClusterRequest.Answer UpdateWorld where
  arrive world request :=
    let latency :=
      match request with
      | .describeUpdate .. => world.latency
      | _ => 0
    ⟨[announce writeText request], latency, world⟩
  respond := respond

end UpdateWorld

end Teardown.Rehearsal
