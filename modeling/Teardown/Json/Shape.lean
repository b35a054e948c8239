/-
# Reading JSON by a schema

How a JSON value is read as a datum.  A whole number may stand where a double is wanted.  A record
may also be given as the list of its fields in their order; fields that are not required may be
left out at its end.  A word may also be given as an object with the word as its only name and
nothing under it.

The first thing that does not fit ends the reading, with a complaint that says what was found and
what was wanted instead.  Members are read in the order in which they stand, so a member that is
repeated is noticed at its second place, and a field that is missing only at the end of the
object.
-/
import Teardown.Json.Basic
import Teardown.Schema.Basic

namespace Teardown.Json

/-- What a value is called in a complaint. -/
def found : Json → String
  | .null => "null"
  | .bool value => "boolean `" ++ toString value ++ "`"
  | .whole value => "integer `" ++ toString value ++ "`"
  | .real value => "floating point `" ++ value.compact ++ "`"
  | .text value => "string " ++ Text.quote value
  | .list _ => "sequence"
  | .object _ => "map"

/-- A complaint about a value of the wrong kind. -/
def wrong {α : Type} (value : Json) (wanted : String) : Reading α :=
  .error (.wrongType value.found wanted)

/-- The double of a number. -/
def double? : Json → Option Binary64
  | .whole value => some (.ofRatio (value < 0) value.natAbs 1)
  | .real value => some value
  | _ => none

/-- A number of seconds or another double. -/
def readDouble (value : Json) : Reading Binary64 :=
  match value.double? with
  | some x => .ok x
  | none => value.wrong "f64"

def readText : Json → Reading Datum
  | .text content => .ok (.text content)
  | value => value.wrong "a string"

/-- A word, by itself or as the only name of an object. -/
def readWord (words : List String) : Json → Reading Datum
  | .text word => Teardown.readWord words word
  | .object [(word, content)] => do
    let datum ← Teardown.readWord words word
    match content with
    | .null => .ok datum
    | content => content.wrong "unit"
  | .object _ => .error (.here "invalid value: map, expected map with a single key")
  | value => value.wrong "string or map"

def tooShort (name : String) (fields : Fields) (length : Nat) : Complaint :=
  .here ("invalid length " ++ toString length ++ ", expected struct " ++ name ++ " with " ++
    toString fields.count ++ (if fields.count = 1 then " element" else " elements"))

def tooLong (length : Nat) : Complaint :=
  .here ("invalid length " ++ toString length ++ ", expected fewer elements in array")

mutual

/-- A value, read by a schema. -/
def read : Schema → Json → Reading Datum
  | .text, value => readText value
  | .flag, value =>
    match value with
    | .bool content => .ok (.flag content)
    | value => value.wrong "a boolean"
  | .strictText, value => readText value
  | .natural bound, value =>
    match value with
    | .whole number =>
      if 0 ≤ number ∧ number < bound then .ok (.natural number.toNat)
      else .error (.outOfRange number bound)
    | value => value.wrong "a natural"
  | .number, value => value.readDouble.map .number
  | .duration, value => value.readDouble.bind readDuration
  | .optional item, value =>
    match value with
    | .null => .ok .absent
    | value => read item value
  | .list item, value =>
    match value with
    | .list items => (items.mapM fun value => read item value).map .list
    | value => value.wrong "a sequence"
  | .table item, value =>
    match value with
    | .object members =>
      (members.mapM fun member => (read item member.2).map fun datum => (member.1, datum)).map
        .table
    | value => value.wrong "a map"
  | .word words, value => readWord words value
  | .record name fields, value =>
    match value with
    | .object members => do
      let present ← members.foldlM (fun present member =>
        if (present.lookup member.1).isSome then .error (.duplicateField member.1)
        else
          match readMember fields member.1 member.2 with
          | some reading => reading.map fun datum => present ++ [(member.1, datum)]
          | none => .ok present) []
      closeRecord fields present
    | .list items =>
      if fields.count < items.length then do
        let _ ← readPositions name fields fields 0 items
        .error (tooLong items.length)
      else (readPositions name fields fields 0 items).map .record
    | value => value.wrong ("struct " ++ name)

/-- The value of a member, if its name is that of a field. -/
def readMember : Fields → String → Json → Option (Reading Datum)
  | .none, _, _ => none
  | .field name _ schema rest, member, value =>
    if member = name then some (read schema value) else readMember rest member value

/-- The items of a list as the fields from a given one on. -/
def readPositions (name : String) (all : Fields) :
    Fields → Nat → List Json → Reading (List (String × Datum))
  | .none, _, _ => .ok []
  | .field field required schema rest, index, items =>
    match items with
    | item :: items => do
      let datum ← read schema item
      let more ← readPositions name all rest (index + 1) items
      .ok ((field, datum) :: more)
    | [] =>
      if required then .error (tooShort name all index)
      else readPositions name all rest (index + 1) []

end

end Teardown.Json
