/-
# Stacks

A stack is a named group of remote resources that is created and deleted as one.  A cluster owns
one stack for its control plane, one for each node group and one for the role of each service
account.  The remote side reports the status of a stack as a word; the words that matter here have
constructors of their own, and every other word is kept as it came.

What a stack belongs to is read off its tags, and where these are missing, off its name.  The
names are made by joining parts with dashes (`nodeGroupStackName`, `accountStackName`), which the
parts may contain themselves, so the way back from a name is not always the way it was made.

Main facts: `StackStatus.word_ofWord` and `StackStatus.ofWord_inj`, a status read from a word
keeps the word and nothing else.

* §1  kinds and statuses, with the words for them.
* §2  stacks, and what is read off their tags and names.
* §3  the names that stacks are given.
-/
import Teardown.Text.NameSet
import Teardown.Account

namespace Teardown

/-! ## 1. Kinds and statuses -/

/-- What a stack provides. -/
inductive StackKind
  | cluster
  | nodeGroup
  | serviceAccount
deriving DecidableEq, Inhabited

namespace StackKind

/-- The kind as it is named in records and requests. -/
def text : StackKind → String
  | .cluster => "cluster"
  | .nodeGroup => "nodegroup"
  | .serviceAccount => "iamserviceaccount"

/-- The kind as it is written in an inventory. -/
def word : StackKind → String
  | .cluster => "cluster"
  | .nodeGroup => "node-group"
  | .serviceAccount => "service-account"

def inspect : StackKind → String
  | .cluster => "Cluster"
  | .nodeGroup => "NodeGroup"
  | .serviceAccount => "ServiceAccount"

def all : List StackKind := [.cluster, .nodeGroup, .serviceAccount]

end StackKind

/-- The status of a stack. -/
inductive StackStatus
  | createInProgress
  | createComplete
  | createFailed
  | updateInProgress
  | updateComplete
  | rollbackComplete
  | deleteInProgress
  | deleteComplete
  | deleteFailed
  | other (word : String)
deriving DecidableEq, Inhabited

namespace StackStatus

def word : StackStatus → String
  | .createInProgress => "CREATE_IN_PROGRESS"
  | .createComplete => "CREATE_COMPLETE"
  | .createFailed => "CREATE_FAILED"
  | .updateInProgress => "UPDATE_IN_PROGRESS"
  | .updateComplete => "UPDATE_COMPLETE"
  | .rollbackComplete => "ROLLBACK_COMPLETE"
  | .deleteInProgress => "DELETE_IN_PROGRESS"
  | .deleteComplete => "DELETE_COMPLETE"
  | .deleteFailed => "DELETE_FAILED"
  | .other word => word

/-- The status of a word. -/
def ofWord (word : String) : StackStatus :=
  if word = "CREATE_IN_PROGRESS" then .createInProgress
  else if word = "CREATE_COMPLETE" then .createComplete
  else if word = "CREATE_FAILED" then .createFailed
  else if word = "UPDATE_IN_PROGRESS" then .updateInProgress
  else if word = "UPDATE_COMPLETE" then .updateComplete
  else if word = "ROLLBACK_COMPLETE" then .rollbackComplete
  else if word = "DELETE_IN_PROGRESS" then .deleteInProgress
  else if word = "DELETE_COMPLETE" then .deleteComplete
  else if word = "DELETE_FAILED" then .deleteFailed
  else .other word

def inspect : StackStatus → String
  | .createInProgress => "CreateInProgress"
  | .createComplete => "CreateComplete"
  | .createFailed => "CreateFailed"
  | .updateInProgress => "UpdateInProgress"
  | .updateComplete => "UpdateComplete"
  | .rollbackComplete => "RollbackComplete"
  | .deleteInProgress => "DeleteInProgress"
  | .deleteComplete => "DeleteComplete"
  | .deleteFailed => "DeleteFailed"
  | .other word => "Other(" ++ Text.quote word ++ ")"

theorem word_ofWord (w : String) : (ofWord w).word = w := by
  unfold ofWord
  repeat' split
  all_goals simp_all [word]

theorem ofWord_inj {v w : String} : ofWord v = ofWord w ↔ v = w :=
  ⟨fun h => by rw [← word_ofWord v, h, word_ofWord], fun h => h ▸ rfl⟩

end StackStatus

/-! ## 2. Stacks -/

/-- The tag with the name of a node group. -/
def nodeGroupNameTag : String := "strata.io/nodegroup-name"

/-- The tag with the written form of a service account. -/
def accountNameTag : String := "strata.io/iamserviceaccount-name"

/-- A stack as the remote side describes it. -/
structure Stack where
  name : String
  id : Option String
  kind : StackKind
  status : StackStatus
  tags : Tags
deriving DecidableEq, Inhabited

namespace Stack

def plain (name : String) (kind : StackKind) (status : StackStatus) : Stack :=
  ⟨name, none, kind, status, .empty⟩

/-- The stack with one more tag. -/
def withTag (s : Stack) (key value : String) : Stack :=
  { s with tags := s.tags.insert key value }

/-- What stands between the cluster and the node group in the name of a stack. -/
def nodeGroupInfix : String := "-nodegroup-"

/-- The name of the node group: its tag, or else what follows the first infix in the stack's name,
or else that name. -/
def nodeGroupName (s : Stack) : String :=
  match s.tags.get? nodeGroupNameTag with
  | some name => name
  | none =>
    match Text.splitOnce? nodeGroupInfix s.name with
    | some (_, name) => name
    | none => s.name

/-- The written form of the service account: its tag, or else the stack's name. -/
def accountName (s : Stack) : String :=
  (s.tags.get? accountNameTag).getD s.name

/-- Whether the stack still exists. -/
def isLive (s : Stack) : Bool := s.status ≠ .deleteComplete

def inspect (s : Stack) : String :=
  let tags := s.tags.entries.map fun (key, value) => Text.quote key ++ ": " ++ Text.quote value
  Fault.inspectParts "Stack" [("name", Text.quote s.name), ("stack_id", Fault.inspectOption s.id),
    ("kind", s.kind.inspect), ("status", s.status.inspect),
    ("tags", "\x7b" ++ ", ".intercalate tags ++ "\x7d")]

end Stack

/-! ## 3. Names of stacks -/

def clusterStackName (cluster : String) : String := "strata-" ++ cluster ++ "-cluster"

def nodeGroupStackName (cluster nodeGroup : String) : String :=
  "strata-" ++ cluster ++ Stack.nodeGroupInfix ++ nodeGroup

def accountStackName (cluster : String) (account : Account) : String :=
  "strata-" ++ cluster ++ "-addon-iamserviceaccount-" ++ account.namespaceName ++ "-" ++
    account.name

/-! ## Worked examples -/

example : StackStatus.ofWord "DELETE_FAILED" = .deleteFailed := by decide

example : (StackStatus.ofWord "delete_failed") = .other "delete_failed" := by decide

end Teardown
