/-
# Reading YAML by a schema

How a node is read as a datum.  A text may be written as a scalar of any kind and is taken as it
stands; a boolean or a number has to be a plain scalar.  Where nothing is written, a list, a table
or a record is empty.  A word may also be given as the tag of a node in which nothing is written.

A complaint about the document's contents comes before one about its form: only a document that
could be read is looked at for what comes after it.

An alias is read as the node that it stands for, and what is wrong there is complained about where
the alias stands.  A tag of the core schema changes what a scalar means; where the scalar does not
have that meaning, the tag is what the complaint is about.

* §1  what nodes are called in complaints.
* §2-3  scalars and words, one reader for each kind of scalar.
* §4  nodes, by recursion on the schema.  A list and a table go through their parts in order, and
      the first part that is wrong gives the complaint.
-/
import Teardown.Number.Shortest
import Teardown.Schema.Basic
import Teardown.Text.Quoted
import Teardown.Yaml.Node
import Teardown.Yaml.Plain

namespace Teardown.Yaml

/-! ## 1. Calling nodes by their kind -/

/-- The beginning of the tags of the core schema. -/
def coreTag (name : String) : String := "tag:yaml.org,2002:" ++ name

/-- What a number is called in a complaint. -/
def wholeFound (n : Int) : String :=
  let width :=
    if n < -(signedWordBound : Int) then " as i128"
    else if n < (wordBound : Int) then ""
    else " as u128"
  "integer `" ++ toString n ++ "`" ++ width

/-- What a meaning is called in a complaint. -/
def Meaning.found : Meaning → String
  | .null => "unit value"
  | .flag value => "boolean `" ++ toString value ++ "`"
  | .whole value => wholeFound value
  | .real value => "floating point `" ++ value.positional ++ "`"
  | .text value => "string " ++ Text.quote value

/-- The meaning of a scalar that a tag of the core schema gives, or what the tag wants. -/
def taggedMeaning (tag value : String) : Option (Except String Meaning) :=
  let expect (meaning : Option Meaning) (wanted : String) : Option (Except String Meaning) :=
    some (match meaning with
      | some meaning => .ok meaning
      | none => .error wanted)
  if tag = coreTag "bool" then expect ((Plain.flag? value).map .flag) "a boolean"
  else if tag = coreTag "int" then expect ((Plain.whole? value.toList).map .whole) "an integer"
  else if tag = coreTag "float" then expect ((Plain.number? value).map .real) "a float"
  else if tag = coreTag "null" then
    expect (if Plain.isNull value then some .null else none) "null"
  else none

/-- The meaning of a scalar, or what its tag wants it to be. -/
def scalarMeaning (tag : Option String) (value : String) (style : Style) :
    Except String Meaning :=
  match tag with
  | none => .ok (if style = .plain then Plain.meaning value else .text value)
  | some tag =>
    match taggedMeaning tag value with
    | some meaning => meaning
    | none =>
      .ok (if tag.startsWith "!" && style = .plain then Plain.meaning value else .text value)

/-- A text where another was wanted. -/
def wrongText (value wanted : String) : String :=
  "invalid value: string " ++ Text.quote value ++ ", expected " ++ wanted

/-- A complaint about a node of the wrong kind. -/
def Node.complaint (wanted : String) : Node → Complaint
  | .scalar tag value style =>
    match scalarMeaning tag value style with
    | .ok meaning => .wrongType meaning.found wanted
    | .error expected => .here (wrongText value expected)
  | .sequence .. => .wrongType "sequence" wanted
  | .mapping .. => .wrongType "map" wanted
  | _ => .unreadable

/-- Whether a scalar is one in which nothing is written. -/
def isBlankScalar (value : String) (style : Style) : Bool := style = .plain && value.isEmpty

/-- Whether a node is one in which nothing is written. -/
def Node.isEmpty : Node → Bool
  | .scalar _ value style => isBlankScalar value style
  | .void => true
  | _ => false

/-! ## 2. Scalars -/

/-- Whether a scalar may be a boolean or a number: it is plain, or a block with the right tag. -/
def mayBe (name : String) (tag : Option String) (style : Style) : Bool :=
  style = .plain || (style = .literal && tag = some (coreTag name))

def readText (wanted : String) : Node → Reading String
  | .scalar _ value _ => .ok value
  | node => .error (node.complaint wanted)

/-- The text of a scalar that is nothing else. -/
def readStrictText : Node → Reading String
  | .scalar tag value style =>
    match scalarMeaning tag value style with
    | .ok (.text text) => .ok text
    | _ => .error (Node.complaint "a string" (.scalar tag value style))
  | node => .error (node.complaint "a string")

def readNatural (bound : Nat) : Node → Reading Nat
  | .scalar tag value style =>
    match scalarMeaning tag value style with
    | .ok (.whole number) =>
      if 0 ≤ number ∧ number < bound then .ok number.toNat
      else .error (.outOfRange number bound)
    | _ => .error (Node.complaint "a natural" (.scalar tag value style))
  | node => .error (node.complaint "a natural")

def readFlag (node : Node) : Reading Bool :=
  let value? :=
    match node with
    | .scalar tag value style => if mayBe "bool" tag style then Plain.flag? value else none
    | _ => none
  match value? with
  | some value => .ok value
  | none => .error (node.complaint "a boolean")

def readNumber (node : Node) : Reading Binary64 :=
  let value? :=
    match node with
    | .scalar tag value style => if mayBe "float" tag style then Plain.number? value else none
    | _ => none
  match value? with
  | some value => .ok value
  | none => .error (node.complaint "f64")

/-- Whether a node says that a value is absent; a tag that says so may be wrong. -/
def readAbsence : Node → Reading Bool
  | .scalar tag value .plain =>
    match tag with
    | none => .ok (value.isEmpty || Plain.isNull value)
    | some tag =>
      if tag ≠ coreTag "null" then .ok false
      else if Plain.isNull value then .ok true
      else .error (.around (wrongText value "null"))
  | .void => .ok true
  | .missing => .error .unreadable
  | _ => .ok false

/-! ## 3. Words -/

/-- The word that a tag names. -/
def tagWord (tag : String) : String :=
  if tag.startsWith "!" then (tag.drop 1).toString else tag

/-- The word of a tag, over a node in which nothing may be written. -/
def readTagged (words : List String) (tag : String) (node : Node) : Reading Datum :=
  let word := tagWord tag
  if !words.contains word then .error (.around (Complaint.unknownWordText word words))
  else
    match node with
    | .scalar _ value style =>
      if isBlankScalar value style || (style = .plain && Plain.isNull value) then .ok (.text word)
      else .error (.wrongType ("string " ++ Text.quote value) "null")
    | node => .error (node.complaint "unit")

def readWord (words : List String) (node : Node) : Reading Datum :=
  match node with
  | .scalar none value _ => Teardown.readWord words value
  | .scalar (some tag) .. => readTagged words tag node
  | .sequence (some tag) .. => readTagged words tag node
  | .mapping (some tag) .. => readTagged words tag node
  | node => .error (node.complaint "a YAML tag starting with '!'")

/-! ## 4. Nodes -/

/-- The step to the value of a key; only a scalar that is written there gives it a name. -/
def keyStep : Node → Step
  | .scalar _ value _ => .key value
  | _ => .unnamed

/-- A collection that breaks off is unreadable, once its contents are read. -/
def closed {α : Type} (isWhole : Bool) (value : α) : Reading α :=
  if isWhole then .ok value else .error .unreadable

/-- A reading, with complaints seen from the collection around. -/
def within {α : Type} (step : Step) : Reading α → Reading α
  | .ok value => .ok value
  | .error complaint => .error (complaint.inside step)

mutual

/-- A node, read by a schema. -/
def readNode (t : Tree) : Schema → Node → Reading Datum
  | .text, node => (readText "a string" (t.resolve node)).map .text
  | .strictText, node => (readStrictText (t.resolve node)).map .text
  | .natural bound, node => (readNatural bound (t.resolve node)).map .natural
  | .flag, node => (readFlag (t.resolve node)).map .flag
  | .number, node => (readNumber (t.resolve node)).map .number
  | .duration, node => (readNumber (t.resolve node)).bind readDuration
  | .word words, node => readWord words (t.resolve node)
  | .optional item, node => do
    if ← readAbsence (t.resolve node) then .ok .absent else readNode t item node
  | .list item, node =>
    match t.resolve node with
    | .sequence _ items isWhole => do
      let data ← items.zipIdx.mapM fun entry =>
        within (.item entry.2) (readNode t item entry.1)
      closed isWhole (.list data)
    | node => if node.isEmpty then .ok (.list []) else .error (node.complaint "a sequence")
  | .table item, node =>
    match t.resolve node with
    | .mapping _ entries isWhole => do
      let data ← entries.mapM fun entry => do
        let key ← readText "a string" (t.resolve entry.1)
        let datum ← within (keyStep entry.1) (readNode t item entry.2)
        .ok (key, datum)
      closed isWhole (.table data)
    | node => if node.isEmpty then .ok (.table []) else .error (node.complaint "a map")
  | .record name fields, node =>
    match t.resolve node with
    | .mapping _ entries isWhole => do
      let present ← entries.foldlM (fun present entry => do
        let key ← readText "field identifier" (t.resolve entry.1)
        if (present.lookup key).isSome then .error (.duplicateField key)
        else
          match readField t fields key entry.2 with
          | some reading =>
            (within (keyStep entry.1) reading).map fun datum => present ++ [(key, datum)]
          | none => closed entry.2.isWhole present) []
      let present ← closed isWhole present
      closeRecord fields present
    | node =>
      if node.isEmpty then closeRecord fields []
      else .error (node.complaint ("struct " ++ name))

/-- The value of a key, if it is the name of a field. -/
def readField (t : Tree) : Fields → String → Node → Option (Reading Datum)
  | .none, _, _ => none
  | .field name _ schema rest, key, node =>
    if key = name then some (readNode t schema node) else readField t rest key node

end

/-- All documents of a text, read by a schema. -/
def readAll (schema : Schema) (text : List Char) : Reading (List Datum) :=
  (documents (tokens text)).mapM fun document => do
    let tree := Tree.ofDocument document
    let datum ← readNode tree schema tree.root
    if tree.isWhole then .ok datum else .error .unreadable

/-- The only document of a text, read by a schema. -/
def read (schema : Schema) (text : List Char) : Reading Datum := do
  let tree := Tree.ofText text
  let datum ← readNode tree schema tree.root
  if tree.isWhole && !tree.hasMore then .ok datum else .error .unreadable

end Teardown.Yaml
