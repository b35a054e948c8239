/-
# JSON values

A value of the interchange format.  A number is either whole, and then exact, or a double: which
of the two depends on how it is written, so `5` and `5.0` are different values.  In a tidy value
the members of every object are increasing by name, each name once.

`render` writes a value without blanks.  Whole numbers and texts are written so that they read
back as they are; a number that is not finite has no numeral, and what is written for it is read
back as null.

Values are trees whose nodes hold lists, so each function on values comes with one for lists of
values and one for lists of members.

* §1  members of objects, and tidy values.
* §2  writing.
-/
import Teardown.Number.Shortest
import Teardown.Text.Quoted

namespace Teardown

/-- A JSON value. -/
inductive Json
  | null
  | bool (value : Bool)
  | whole (value : Int)
  | real (value : Binary64)
  | text (value : String)
  | list (items : List Json)
  | object (members : List (String × Json))
deriving Inhabited

namespace Json

/-! ## 1. Members -/

/-- A member put into an object's members; an equal name takes the new value. -/
def insertMember (name : String) (value : Json) : List (String × Json) → List (String × Json)
  | [] => [(name, value)]
  | (other, old) :: rest =>
    if name < other then (name, value) :: (other, old) :: rest
    else if name = other then (name, value) :: rest
    else (other, old) :: insertMember name value rest

/-- The object of some members; of two with one name the later counts. -/
def ofMembers (members : List (String × Json)) : Json :=
  .object (members.foldl (fun sorted (name, value) => insertMember name value sorted) [])

/-- The member of a name. -/
def get? : Json → String → Option Json
  | .object members, name => members.lookup name
  | _, _ => none

mutual

/-- The tidy form of a value. -/
def tidy : Json → Json
  | .list items => .list (tidyAll items)
  | .object members => ofMembers (tidyMembers members)
  | value => value

def tidyAll : List Json → List Json
  | [] => []
  | item :: items => item.tidy :: tidyAll items

def tidyMembers : List (String × Json) → List (String × Json)
  | [] => []
  | (name, value) :: members => (name, value.tidy) :: tidyMembers members

end

/-! ## 2. Writing -/

/-- One character as it stands inside a JSON string. -/
def escapeChar (c : Char) : List Char :=
  match c with
  | '"' => ['\\', '"']
  | '\\' => ['\\', '\\']
  | '\x08' => ['\\', 'b']
  | '\x0c' => ['\\', 'f']
  | '\n' => ['\\', 'n']
  | '\r' => ['\\', 'r']
  | '\t' => ['\\', 't']
  | c => if c.toNat < 0x20 then ['\\', 'u'] ++ Text.hexPadded 4 c.toNat else [c]

/-- A text as a JSON string. -/
def quote (s : String) : String :=
  String.ofList ('"' :: s.toList.flatMap escapeChar ++ ['"'])

/-- The numeral of a double; one that is not finite has none. -/
def realText (x : Binary64) : String := if x.isFinite then x.compact else "null"

mutual

/-- A value without blanks. -/
def render : Json → String
  | .null => "null"
  | .bool value => if value then "true" else "false"
  | .whole value => toString value
  | .real value => realText value
  | .text value => quote value
  | .list items => "[" ++ ",".intercalate (renderAll items) ++ "]"
  | .object members => "\x7b" ++ ",".intercalate (renderMembers members) ++ "\x7d"

def renderAll : List Json → List String
  | [] => []
  | item :: items => item.render :: renderAll items

def renderMembers : List (String × Json) → List String
  | [] => []
  | (name, value) :: members => (quote name ++ ":" ++ value.render) :: renderMembers members

end

/-! ## Worked examples -/

example : escapeChar '\x01' = ['\\', 'u', '0', '0', '0', '1'] := by decide

example : insertMember "b" .null [("a", .null), ("c", .null)] =
    [("a", .null), ("b", .null), ("c", .null)] := rfl

end Json

end Teardown
