/-
# Lines of the log

How a record is written: as a plain line, which is broken where a name in it has a line break, or
as a JSON object on one line.  The time of a record is not part of it.

What a run writes are outputs, plain lines and JSON objects.  The records of the log and what is
meant for the reader alone come out in one order.
-/
import Teardown.Json.Basic
import Teardown.Record
import Teardown.Settings

namespace Teardown

/-- What a run writes, line by line. -/
inductive Output
  | line (text : String)
  | entry (json : Json)

def Output.lines (text : String) : List Output := (Text.split '\n' text).map .line

def Output.text : Output → String
  | .line text => text
  | .entry json => json.render

/-- The value of a field as JSON. -/
def FieldValue.toJson : FieldValue → Json
  | .text value => .text value
  | .quoted value => .text value
  | .number value => .whole value

namespace Record

def toJson (r : Record) : Json :=
  .object
    [("fields", .ofMembers (("message", .text r.message) ::
        r.fields.map fun field => (field.1, field.2.toJson))),
     ("level", .text r.level.name), ("target", .text r.target)]

/-- The record as it is written in a format. -/
def written (format : LogFormat) (r : Record) : List Output :=
  match format with
  | .text => Output.lines r.line
  | .json => [.entry r.toJson]

end Record

end Teardown
