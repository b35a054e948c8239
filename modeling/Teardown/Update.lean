/-
# Updates of a cluster

The control plane of a cluster can be told which kinds of log it is to write, and which version it
is to run.  Both are updates: the remote side accepts one under an id and applies it in its own
time, and its status tells how far it is.

A change of logging names the kinds to enable and, with them, all others as those to disable, so
the two sets split the kinds that there are.  A kind that does not exist makes the whole change a
fault, which lists all such kinds, and then nothing is asked for.

The other way, the kinds that are enabled at present are read off setups that may come in any
grouping (`currentLogging`).

Main facts: `LoggingChange.of_eq_ok_iff` says when there is a change and what it is, and
`LoggingChange.mem_disabled` which kinds it disables.

* §1  updates and their statuses.
* §2  changes of logging.
* §3  the requests to the service that keeps the clusters, with the types of their answers.
* §4  carrying out updates, as activities.
-/
import Teardown.Activity
import Teardown.Text.NameSet

namespace Teardown

/-! ## 1. Updates -/

/-- How far an update is. -/
inductive UpdateStatus
  | inProgress
  | successful
  | failed
  | cancelled
deriving DecidableEq, Inhabited

namespace UpdateStatus

def word : UpdateStatus → String
  | .inProgress => "InProgress"
  | .successful => "Successful"
  | .failed => "Failed"
  | .cancelled => "Cancelled"

def all : List UpdateStatus := [.inProgress, .successful, .failed, .cancelled]

def ofWord? (word : String) : Option UpdateStatus := all.find? fun status => status.word = word

/-- What a status means for the update. -/
def verdict : UpdateStatus → Verdict
  | .inProgress => .undecided
  | .successful => .success
  | .failed | .cancelled => .failure

end UpdateStatus

/-- An update that the remote side has accepted. -/
structure Update where
  id : String
  kind : String
  status : UpdateStatus
deriving DecidableEq, Inhabited

def Update.inspect (u : Update) : String :=
  Fault.inspectParts "Update" [("id", Text.quote u.id), ("update_type", Text.quote u.kind),
    ("status", u.status.word)]

/-! ## 2. Logging -/

/-- Kinds of log that are enabled or disabled together. -/
structure LogSetup where
  enabled : Bool
  types : List String
deriving DecidableEq, Inhabited

def LogSetup.inspect (s : LogSetup) : String :=
  Fault.inspectParts "LogSetup" [("enabled", toString s.enabled), ("types", Text.quoteList s.types)]

/-- The kinds of log that a control plane can write. -/
def supportedLogTypes : NameSet :=
  .ofList ["api", "audit", "authenticator", "controllerManager", "scheduler"]

/-- A change of logging: the kinds to enable, and all others. -/
structure LoggingChange where
  enabled : NameSet
  disabled : NameSet
deriving DecidableEq

namespace LoggingChange

/-- The fault of a change that enables unknown kinds. -/
def unsupported (names : NameSet) : Fault :=
  .precondition ("unsupported log types: " ++ ", ".intercalate names.toList)

/-- The change that enables the given kinds out of all, and disables the rest. -/
def of (all enabled : NameSet) : Except Fault LoggingChange :=
  let unknown := enabled.diff all
  if unknown.isEmpty then .ok ⟨enabled, all.diff enabled⟩ else .error (unsupported unknown)

/-- The change as it is requested: one setup for each of the two sets. -/
def setups (change : LoggingChange) : List LogSetup :=
  [⟨true, change.enabled.toList⟩, ⟨false, change.disabled.toList⟩]

/-- The kinds of a set, described as enabled or disabled. -/
def describe (names : NameSet) (state : String) : String :=
  if names.isEmpty then "no types " ++ state
  else state ++ " types: " ++ ", ".intercalate names.toList

def describeEnabled (change : LoggingChange) : String := describe change.enabled "enabled"

def describeDisabled (change : LoggingChange) : String := describe change.disabled "disabled"

theorem isEmpty_diff {s t : NameSet} : (s.diff t).isEmpty = true ↔ ∀ a ∈ s, a ∈ t := by
  rw [NameSet.isEmpty, List.isEmpty_iff]
  constructor
  · intro h a ha
    refine Decidable.byContradiction fun hat => ?_
    have : a ∈ s.diff t := NameSet.mem_diff.2 ⟨ha, hat⟩
    rw [NameSet.mem_iff, h] at this
    exact List.not_mem_nil this
  · intro h
    refine List.eq_nil_iff_forall_not_mem.2 fun a ha => ?_
    obtain ⟨hs, ht⟩ := NameSet.mem_diff.1 (NameSet.mem_iff.2 ha)
    exact ht (h a hs)

theorem of_eq_ok_iff {all enabled : NameSet} {change : LoggingChange} :
    of all enabled = .ok change ↔
      (∀ a ∈ enabled, a ∈ all) ∧ change = ⟨enabled, all.diff enabled⟩ := by
  simp only [of]
  constructor
  · intro h
    split at h
    · rename_i hempty
      exact ⟨isEmpty_diff.1 hempty, (Except.ok.inj h).symm⟩
    · cases h
  · rintro ⟨hsub, rfl⟩
    rw [if_pos (isEmpty_diff.2 hsub)]

theorem mem_disabled {all enabled : NameSet} {change : LoggingChange}
    (h : of all enabled = .ok change) {a : String} :
    a ∈ change.disabled ↔ a ∈ all ∧ ¬ a ∈ enabled := by
  rw [(of_eq_ok_iff.1 h).2]
  exact NameSet.mem_diff

end LoggingChange

/-! ## 3. Requests -/

/-- A request to the service that keeps the clusters. -/
inductive ClusterRequest
  | describeLogging (cluster : String)
  | updateLogging (cluster : String) (setups : List LogSetup)
  | updateVersion (cluster version : String)
  | describeUpdate (cluster id : String)
deriving DecidableEq

def ClusterRequest.Answer : ClusterRequest → Type
  | .describeLogging _ => List LogSetup
  | .updateLogging .. => Update
  | .updateVersion .. => Update
  | .describeUpdate .. => Update

/-- What a party to an update does. -/
abbrev UpdateAction (α : Type) := Activity ClusterRequest ClusterRequest.Answer α

def ClusterRequest.send (q : ClusterRequest) : UpdateAction q.Answer := Activity.request q

/-! ## 4. Carrying out updates -/

/-- A cluster to be updated, with the settings for waiting on its updates. -/
structure Updater where
  cluster : String
  wait : WaitSettings
deriving DecidableEq

namespace Updater

def record (u : Updater) (message : String) (more : List (String × FieldValue)) : Record :=
  ⟨.info, "strata_stack::update", message, ("cluster", .text u.cluster) :: more⟩

def updateWatch (u : Updater) (update : Update) : Watch ClusterRequest ClusterRequest.Answer where
  resource := u.cluster
  operation := "waiting for requested " ++ Text.quote update.kind ++ " in cluster " ++
    Text.quote u.cluster ++ " to succeed"
  request := .describeUpdate u.cluster update.id
  observe := fun current : Update => ⟨current.status.word, current.status.verdict⟩
  settings := u.wait

/-- Waits until an update is applied. -/
def awaitUpdate (u : Updater) (update : Update) : UpdateAction Unit :=
  Activity.await (u.updateWatch update)

/-- The fault of an answer with a kind of log that has no name. -/
def namelessType (u : Updater) : Fault :=
  .stackApi u.cluster "unexpected response from cluster API: empty log type"

/-- The kinds of some setups that are enabled, or disabled. -/
def typesOf (setups : List LogSetup) (enabled : Bool) : NameSet :=
  .ofList ((setups.filter fun setup => setup.enabled = enabled).flatMap LogSetup.types)

/-- The enabled and the disabled kinds that setups name. -/
def readSetups (u : Updater) (setups : List LogSetup) : Except Fault (NameSet × NameSet) :=
  if setups.any fun setup => setup.types.contains "" then .error u.namelessType
  else .ok (typesOf setups true, typesOf setups false)

/-- The enabled and the disabled kinds of log. -/
def currentLogging (u : Updater) : UpdateAction (NameSet × NameSet) := do
  let setups : List LogSetup ← (ClusterRequest.describeLogging u.cluster).send
  Activity.ofExcept (u.readSetups setups)

/-- Enables the given kinds out of all, disables the rest, and waits until that is applied. -/
def updateLogging (u : Updater) (all enabled : NameSet) : UpdateAction LoggingChange := do
  let change ← Activity.ofExcept (LoggingChange.of all enabled)
  let update : Update ← (ClusterRequest.updateLogging u.cluster change.setups).send
  u.awaitUpdate update
  Activity.say (u.record ("Configured logging (" ++ change.describeEnabled ++ " & " ++
    change.describeDisabled ++ ")") [])
  return change

/-- Asks for a version and does not wait for it. -/
def requestVersion (u : Updater) (version : String) : UpdateAction Update := do
  let update : Update ← (ClusterRequest.updateVersion u.cluster version).send
  Activity.say (u.record "Version update requested"
    [("version", .quoted version), ("update_id", .text update.id)])
  return update

/-- Asks for a version and waits until it is applied. -/
def updateVersion (u : Updater) (version : String) : UpdateAction Unit := do
  let update ← u.requestVersion version
  u.awaitUpdate update

end Updater

/-! ## Worked examples -/

example : (LoggingChange.of (.ofList ["a", "b"]) (.ofList ["b"])).toOption.map (·.disabled.toList) =
    some ["a"] := by decide +kernel

example : UpdateStatus.ofWord? "Failed" = some .failed := by decide

end Teardown
