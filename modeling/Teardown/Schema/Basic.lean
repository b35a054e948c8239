/-
# Schemas

A schema says what shape a document must have; a datum is what a document of that shape says.  The
same schemas serve both notations in which documents come, and each notation has a reader of its
own (`Json.read`, `Yaml.readNode`).

A record may come with its fields in any order and with other fields, which are ignored; a field
that is not required may be missing.  What is wrong with a document is a `Complaint`: it says
where and what.  The first complaint in the order of the document counts; only when all of a
record has been read is it seen which fields are missing.

* §1  schemas, the fields of records, and data.
* §2  which fields there are, and which have to be there.
* §3  complaints.  A complaint is made where something is wrong and gets its path on the way out,
      one step for each value around it.  The one that stops everything is a number of seconds
      that has no duration.
* §4  taking data apart.  What is not of the kind that is asked for gives nothing, so the
      functions that make values of the domain from data are total.
-/
import Teardown.Outcome

namespace Teardown

/-! ## 1. Schemas and data -/

mutual

/-- The shape of a document.  Where a text is wanted, a notation may take what looks like something else
for one; a strict text has to look like one.  A natural is below its bound. -/
inductive Schema
  | text
  | strictText
  | natural (bound : Nat)
  | flag
  | number
  | duration
  | optional (item : Schema)
  | list (item : Schema)
  | table (item : Schema)
  | word (words : List String)
  | record (name : String) (fields : Fields)

/-- The fields of a record, in their order. -/
inductive Fields
  | none
  | field (name : String) (required : Bool) (schema : Schema) (rest : Fields)

end

/-- What a document says. -/
inductive Datum
  | text (value : String)
  | flag (value : Bool)
  | natural (value : Nat)
  | number (value : Binary64)
  | duration (value : Duration)
  | absent
  | list (items : List Datum)
  | table (entries : List (String × Datum))
  | record (fields : List (String × Datum))
deriving Inhabited

/-! ## 2. Fields -/

namespace Fields

/-- The names of the fields that have to be there. -/
def required : Fields → List String
  | .none => []
  | .field name true _ rest => name :: rest.required
  | .field _ false _ rest => rest.required

/-- How many fields there are. -/
def count : Fields → Nat
  | .none => 0
  | .field _ _ _ rest => rest.count + 1

end Fields

/-! ## 3. Complaints -/

/-- A step on the way to a part of a document. -/
inductive Step
  | key (name : String)
  | item (index : Nat)
  | unnamed
deriving DecidableEq

/-- What is wrong with a document: it breaks off or is no document at all, some part of it is not what
it should be, or a number of seconds in it has no duration.  A complaint `around` a part is one about
the value that has the part. -/
inductive Complaint
  | unreadable
  | unfit (path : List Step) (text : String)
  | around (text : String)
  | overflow (cause : Duration.Overflow)
deriving DecidableEq

namespace Complaint

/-- A complaint about the part at the root. -/
def here (text : String) : Complaint := .unfit [] text

/-- The same complaint, seen from the value that has the part at a step. -/
def inside (step : Step) : Complaint → Complaint
  | .unfit path text => .unfit (step :: path) text
  | .around text => here text
  | complaint => complaint

/-- The path to a part, as it is written. -/
def pathText : List Step → String
  | [] => ""
  | .key name :: rest => (rest.foldl add name)
  | .item index :: rest => (rest.foldl add ("[" ++ toString index ++ "]"))
  | .unnamed :: rest => (rest.foldl add "?")
where
  /-- A path with one more step. -/
  add (path : String) : Step → String
    | .key name => path ++ "." ++ name
    | .item index => path ++ "[" ++ toString index ++ "]"
    | .unnamed => path ++ ".?"

/-- The wording of a complaint about a part. -/
def wording (path : List Step) (text : String) : String :=
  if path.isEmpty then text else pathText path ++ ": " ++ text

/-- The wording of a complaint, if anything is known about its reason. -/
def text? : Complaint → Option String
  | .unreadable => none
  | .unfit path text => some (wording path text)
  | .around text => some text
  | .overflow cause => some cause.message

def wrongType (found wanted : String) : Complaint :=
  here ("invalid type: " ++ found ++ ", expected " ++ wanted)

/-- The words of a choice, each between backquotes. -/
def choices : List String → String
  | [] => "there are no variants"
  | [a] => "`" ++ a ++ "`"
  | [a, b] => "`" ++ a ++ "` or `" ++ b ++ "`"
  | words => "one of " ++ ", ".intercalate (words.map fun word => "`" ++ word ++ "`")

/-- The wording for a word that is not one of a choice. -/
def unknownWordText (word : String) (words : List String) : String :=
  "unknown variant `" ++ word ++ "`, expected " ++ choices words

def unknownWord (word : String) (words : List String) : Complaint :=
  here (unknownWordText word words)

def outOfRange (found : Int) (bound : Nat) : Complaint :=
  here ("invalid value: integer `" ++ toString found ++ "`, expected a natural below " ++
    toString bound)

def missingField (name : String) : Complaint := here ("missing field `" ++ name ++ "`")

def duplicateField (name : String) : Complaint := here ("duplicate field `" ++ name ++ "`")

/-- A number of seconds that is negative or not finite. -/
def badDuration : Complaint := around "duration must be a non-negative number of seconds"

end Complaint

/-- What reading a document gives. -/
abbrev Reading (α : Type) := Except Complaint α

def readWord (words : List String) (word : String) : Reading Datum :=
  if words.contains word then .ok (.text word) else .error (.unknownWord word words)

/-- A duration, from a number of seconds. -/
def readDuration (seconds : Binary64) : Reading Datum :=
  let isNegative := seconds.lt 0
  if !seconds.isFinite || isNegative then .error .badDuration
  else
    match Duration.ofSeconds seconds with
    | .ok duration => .ok (.duration duration)
    | .error cause => .error (.overflow cause)

/-- A record, if no required field is missing. -/
def closeRecord (fields : Fields) (present : List (String × Datum)) : Reading Datum :=
  match fields.required.find? fun name => (present.lookup name).isNone with
  | some name => .error (.missingField name)
  | none => .ok (.record present)

/-! ## 4. Taking data apart -/

namespace Datum

def field? : Datum → String → Option Datum
  | .record fields, name => fields.lookup name
  | _, _ => none

def text? : Datum → Option String
  | .text value => some value
  | _ => none

def flag? : Datum → Option Bool
  | .flag value => some value
  | _ => none

def natural? : Datum → Option Nat
  | .natural value => some value
  | _ => none

def number? : Datum → Option Binary64
  | .number value => some value
  | _ => none

def duration? : Datum → Option Duration
  | .duration value => some value
  | _ => none

def items : Datum → List Datum
  | .list items => items
  | _ => []

def entries : Datum → List (String × Datum)
  | .table entries => entries
  | _ => []

/-- The text of a field, or an empty one. -/
def textAt (d : Datum) (name : String) : String := ((d.field? name).bind text?).getD ""

/-- The text of a field, if it has one. -/
def textAt? (d : Datum) (name : String) : Option String := (d.field? name).bind text?

/-- The items of a field that is a list. -/
def itemsAt (d : Datum) (name : String) : List Datum := ((d.field? name).map items).getD []

/-- The entries of a field that is a table. -/
def entriesAt (d : Datum) (name : String) : List (String × Datum) :=
  ((d.field? name).map entries).getD []

end Datum

/-! ## Worked examples -/

example : Complaint.pathText [.key "stacks", .item 0, .key "kind"] = "stacks[0].kind" := by decide

example : Complaint.choices ["text", "json"] = "`text` or `json`" := by decide

end Teardown
