/-
# Log records

Everything the library has to tell while it works goes into records: a level, the part of the
program that speaks (`target`), a sentence, and named fields in the order in which they are to be
printed.  A field is a number, or a text that is printed as it is, or a text that is printed
between quotes on a plain line.

Whether a record is printed, and how, is not decided here.  A log has a filter on levels and
targets, and one of two formats; the records are the same under all of them, so a statement about
what is recorded is one about the lists of records.
-/
import Teardown.Text.Quoted

namespace Teardown

/-- How urgent a record is, the most urgent first. -/
inductive Level
  | error
  | warn
  | info
  | debug
  | trace
deriving DecidableEq, Repr

namespace Level

/-- The place of a level, the most urgent first. -/
def rank : Level → Nat
  | .error => 1
  | .warn => 2
  | .info => 3
  | .debug => 4
  | .trace => 5

def name : Level → String
  | .error => "ERROR"
  | .warn => "WARN"
  | .info => "INFO"
  | .debug => "DEBUG"
  | .trace => "TRACE"

def all : List Level := [.error, .warn, .info, .debug, .trace]

end Level

/-- The value of a field. -/
inductive FieldValue
  | text (value : String)
  | quoted (value : String)
  | number (value : Nat)
deriving DecidableEq

namespace FieldValue

/-- The value alone. -/
def plain : FieldValue → String
  | .text value => value
  | .quoted value => value
  | .number value => toString value

/-- The value as a plain log line shows it. -/
def shown : FieldValue → String
  | .quoted value => Text.quote value
  | value => value.plain

end FieldValue

/-- One log record. -/
structure Record where
  level : Level
  target : String
  message : String
  fields : List (String × FieldValue)
deriving DecidableEq

namespace Record

/-- The record as a plain line: level, sentence, and the fields with their names. -/
def line (r : Record) : String :=
  " ".intercalate
    ([r.level.name, r.message] ++ r.fields.map fun (name, value) => name ++ "=" ++ value.shown)

end Record

end Teardown
