/-
# An inventory as the remote side

A plan that was made from an inventory can be rehearsed against it: questions are answered at
once, and whatever would change something is refused at once.

The inventory is the state of the remote side and never becomes another one, since all it does is
to answer.
-/
import Teardown.Inventory
import Teardown.Rehearsal.Session

namespace Teardown.Rehearsal

/-- An inventory as a remote side, which nothing changes. -/
def inventoryRemote : TeardownRemote Inventory where
  arrive inventory _ := ⟨[], 0, inventory⟩
  respond inventory request := ⟨.ofExcept (inventory.answer request), [], false, inventory⟩

/-- The lines of records that were made before anything else. -/
def linesBefore (view : View) (records : List Record) : List (Place × Line) :=
  (records.filterMap (view.line? 0)).map fun line => ([], line)

def executeAgainst (view : View) (inventory : Inventory) (plan : Plan Task) :
    Report Unit Inventory :=
  carryOut inventoryRemote view inventory 0 plan .executed ⟨none, none⟩

end Teardown.Rehearsal
