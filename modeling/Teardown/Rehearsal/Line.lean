/-
# The script of a rehearsal

What a rehearsal shows is a list of lines, each with its time in whole milliseconds: what the
remote side was asked, and the log records that are urgent enough.  The lines of one lane have an
order; the lanes themselves have none, so they are listed in the order of their contents.

Two rehearsals of the same run may let the lanes take turns in different orders.  What is written
down is the same for both, since the order of the contents does not depend on the turns.
-/
import Teardown.Event

namespace Teardown.Rehearsal

/-- One line: when, what, and the fields of a record by their names. -/
structure Line where
  millis : Nat
  text : String
  fields : Option (List (String × String))
deriving DecidableEq, Inhabited

/-! ## 1. Lines of records -/

/-- A field put into a list that is sorted by name. -/
def insertField (field : String × String) : List (String × String) → List (String × String)
  | [] => [field]
  | other :: rest =>
    if field.1 < other.1 then field :: other :: rest else other :: insertField field rest

/-- Which records are shown, and whether the times are. -/
structure View where
  level : Option Level
  timesHidden : Bool
deriving Inhabited

/-- The text of a field; a length of time is hidden like the times. -/
def View.fieldText (view : View) (name : String) (value : FieldValue) : String :=
  if view.timesHidden ∧ name = "elapsed_ms" then "*" else value.plain

/-- The line of a record, if the record is shown. -/
def View.line? (view : View) (millis : Nat) (record : Record) : Option Line :=
  match view.level with
  | none => none
  | some level =>
    if level.rank < record.level.rank then none
    else
      let fields := record.fields.map fun (name, value) => (name, view.fieldText name value)
      some ⟨millis, record.level.name ++ " " ++ record.message,
        some (fields.foldr insertField [])⟩

/-! ## 2. Order -/

/-- The order of lists, given the order of their members. -/
def compareLists {α : Type} (compareMembers : α → α → Ordering) : List α → List α → Ordering
  | [], [] => .eq
  | [], _ :: _ => .lt
  | _ :: _, [] => .gt
  | a :: as, b :: bs => (compareMembers a b).then (compareLists compareMembers as bs)

/-- The order of fields: by name, then by value. -/
def compareFields (a b : String × String) : Ordering :=
  (compare a.1 b.1).then (compare a.2 b.2)

/-- The order of lines: by time, then by text; without fields comes before with. -/
def Line.compare (a b : Line) : Ordering :=
  (Ord.compare a.millis b.millis).then <| (Ord.compare a.text b.text).then <|
    match a.fields, b.fields with
    | none, none => .eq
    | none, some _ => .lt
    | some _, none => .gt
    | some fields, some others => compareLists compareFields fields others

def compareLanes (a b : List Line) : Ordering := compareLists Line.compare a b

/-! ## 3. Lanes -/

/-- A line added to its lane; the lanes are listed with their places, and their lines backwards. -/
def addLine (lane : Place) (line : Line) : List (Place × List Line) → List (Place × List Line)
  | [] => [(lane, [line])]
  | (place, lines) :: rest =>
    if place = lane then (place, line :: lines) :: rest
    else (place, lines) :: addLine lane line rest

/-- The lanes of some lines, in the order of their contents. -/
def lanes (lines : List (Place × Line)) : List (List Line) :=
  let grouped := lines.foldl (fun lanes (lane, line) => addLine lane line lanes) []
  let each := grouped.map fun (_, lines) => lines.reverse
  each.mergeSort fun a b => compareLanes a b != .gt

end Teardown.Rehearsal
