/-
# Deleting an account in a cluster

The call that deletes a service account, and what its answer comes to.  An account that is already
gone is as good as deleted.  A name that no address can hold is refused before anything is sent.

What is deleted is a function of the connection (`deleteOver`): it tells which calls are made,
what is recorded, and how it ends.  There is at most one call, and none is made again.
-/
import Teardown.Account
import Teardown.Api.Address
import Teardown.Api.Answer
import Teardown.Outcome
import Teardown.Record

namespace Teardown

/-- A call to a cluster. -/
structure ApiCall where
  method : String
  path : String
deriving DecidableEq

/-- What a cluster answers to each call; nothing if it cannot be reached. -/
abbrev Connection := ApiCall → Option ApiAnswer

namespace Account

/-- The call that deletes an account, unless its name is empty or no address can hold it. -/
def deletionCall? (a : Account) : Option ApiCall :=
  if a.name.isEmpty then none
  else
    let path := "/api/v1/namespaces/" ++ a.namespaceName ++ "/serviceaccounts/" ++ a.name ++ "?"
    (Address.path? path.toList).map fun path => ⟨"DELETE", String.ofList path⟩

def deletionRecord (a : Account) (level : Level) (message : String) : Record :=
  ⟨level, "strata_stack::kubernetes", message,
    [("namespace", .text a.namespaceName), ("service_account", .text a.name)]⟩

/-- What deleting an account over a connection comes to: the calls that are made, the records, and the
result. -/
structure Deletion where
  calls : List ApiCall
  records : List Record
  result : Except Fault Unit

def deleteOver (connection : Connection) (a : Account) : Deletion :=
  match a.deletionCall? with
  | none => ⟨[], [], .error (.cluster .unusable)⟩
  | some call =>
    match (connection call).map ApiAnswer.result with
    | none => ⟨[call], [], .error (.cluster .unusable)⟩
    | some (.ok ()) => ⟨[call], [a.deletionRecord .info "Deleted serviceaccount"], .ok ()⟩
    | some (.error (.refused refusal)) =>
      if refusal.code = 404 then
        ⟨[call], [a.deletionRecord .debug "Serviceaccount not found (already deleted)"], .ok ()⟩
      else ⟨[call], [], .error (.cluster (.refused refusal))⟩
    | some (.error cause) => ⟨[call], [], .error (.cluster cause)⟩

end Account

end Teardown
