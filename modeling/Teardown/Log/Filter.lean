/-
# Filters of the log

A filter says which records are written.  It is a list of directives with commas between them;
each has a level, and may be meant only for targets that begin in some way, for records with
certain fields, or for what happens inside a named span.  Of the directives that are meant for a
record the most specific one decides: the one with the longest target, then the one with the most
fields.

There are no spans in this program, so a directive that names one never lets anything through.

The filter of the environment counts more than the one of the settings, but only if it can be read
as a whole; otherwise it is passed over without a word.  A filter of the settings that cannot be
read is a fault.

* §1  directives, and how they are read.  A directive is cut where its level or its brackets
      begin.
* §2  which of two directives decides.
* §3  filters, and the one that a run is set up with.
-/
import Teardown.Record
import Teardown.Settings
import Teardown.Text.Letter

namespace Teardown

/-! ## 1. Directives -/

/-- What is wrong with a filter. -/
inductive FilterFault
  | directive
  | level
deriving DecidableEq

def FilterFault.message : FilterFault → String
  | .directive => "invalid filter directive"
  | .level => "error parsing level filter: expected one of \"off\", \"error\", \"warn\", \"info\", " ++
      "\"debug\", \"trace\", or a number 0-5"

/-- A directive.  Its level is the rank of the least urgent level that it lets through, so with zero it
lets nothing through.  A field may be wanted with a value. -/
structure Directive where
  target : Option String
  span : Option String
  fields : List (String × Option String)
  level : Nat
deriving DecidableEq, Inhabited

namespace Directive

def everything : Nat := Level.trace.rank

/-- The level of a word: a number up to five, or a name whose letters may be of either case. -/
def level? (word : List Char) : Option Nat :=
  match Numeral.unsigned? 10 word with
  | some number => if number ≤ everything then some number else none
  | none =>
    let small := Text.asciiLower (String.ofList word)
    if small.isEmpty then some Level.error.rank
    else if small = "off" then some 0
    else (Level.all.find? fun level => Text.asciiLower level.name = small).map Level.rank

/-- The place of the first character of a class, from a place on. -/
def placeOf? (chars : List Char) (start : Nat) (p : Char → Bool) : Option Nat :=
  ((chars.drop start).findIdx? p).map (· + start)

/-- A piece of a text between two places. -/
def piece (text : List Char) (start stop : Nat) : String :=
  String.ofList ((text.drop start).take (stop - start))

/-- The level behind an equals sign. -/
def readLevel (text : List Char) (start : Nat) (d : Directive) : Except FilterFault Directive :=
  let word := text.drop start
  if word.isEmpty then .ok { d with level := everything }
  else
    match level? word with
    | some level => .ok { d with level }
    | none => .error .level

/-- What stands behind the brackets: nothing, or a level. -/
def readEnd (text chars : List Char) (start : Nat) (d : Directive) : Except FilterFault Directive :=
  match chars[start]? with
  | none => .ok { d with level := everything }
  | some '=' => readLevel text (start + 1) d
  | some _ => .error .directive

/-- A field with the value that is wanted of it, if one is. -/
def readField (text : String) : String × Option String :=
  match Text.split '=' text with
  | name :: value :: _ => (name, some value)
  | pieces => (pieces.headD "", none)

/-- The fields between braces. -/
def readFields (text chars : List Char) (start : Nat) (d : Directive) :
    Except FilterFault Directive :=
  match placeOf? chars start (· = '\x7d') with
  | none => .error .directive
  | some stop =>
    if stop = start ∨ chars[stop + 1]? ≠ some ']' then .error .directive
    else readEnd text chars (stop + 2) { d with fields := [readField (piece text start stop)] }

/-- The span and the fields between brackets. -/
def readSpan (text chars : List Char) (start : Nat) (d : Directive) :
    Except FilterFault Directive :=
  match placeOf? chars start fun c => c = ']' || c = '\x7b' with
  | none => .error .directive
  | some stop =>
    let name := piece text start stop
    if chars[stop]? = some ']' then readEnd text chars (stop + 1) { d with span := some name }
    else
      readFields text chars (stop + 1)
        { d with span := if name.isEmpty then none else some name }

/-- Whether a directive may begin with a character. -/
def mayBegin (c : Char) : Bool := Text.isLetterOrDigit c || c = '-' || c = ':' || c = '_'

/-- The directive of a text.  The places of its parts are found without the blanks around it, but
counted from the beginning of the whole text. -/
def parse (text : List Char) : Except FilterFault Directive :=
  let chars := Text.trimChars text
  let empty : Directive := ⟨none, none, [], everything⟩
  match chars with
  | [] => .error .directive
  | '[' :: _ => readSpan text chars 1 empty
  | c :: _ =>
    if !mayBegin c then .error .directive
    else
      match placeOf? chars 1 fun c => c = '=' || c = '[' with
      | none =>
        match level? text with
        | some level => .ok { empty with level }
        | none => .ok { empty with target := some (String.ofList text) }
      | some stop =>
        let d := { empty with target := some (piece text 0 stop) }
        if chars[stop]? = some '=' then readLevel text (stop + 1) d
        else readSpan text chars (stop + 1) d

/-! ## 2. Which directive decides -/

/-- Whether a directive is meant for what a target says with fields of some names. -/
def concerns (d : Directive) (target : String) (names : List String) : Bool :=
  d.span.isNone && d.fields.all (fun field => field.2.isNone && names.contains field.1) &&
    d.target.all fun start => target.startsWith start

/-- How specific a directive is: the length of its target, then its fields. -/
def weight (d : Directive) : Nat × List String :=
  ((d.target.map fun target => target.utf8ByteSize + 1).getD 0, d.fields.map Prod.fst)

/-- Whether a list of names comes before another in their order, or is the same. -/
def namesPrecede : List String → List String → Bool
  | [], _ => true
  | _ :: _, [] => false
  | a :: names, b :: others => if a = b then namesPrecede names others else decide (a < b)

/-- Whether a directive decides before another that comes before it in the list. -/
def precedes (d other : Directive) : Bool :=
  let (length, fields) := d.weight
  let (otherLength, otherFields) := other.weight
  if length ≠ otherLength then decide (otherLength < length)
  else if fields.length ≠ otherFields.length then decide (otherFields.length < fields.length)
  else namesPrecede otherFields fields

end Directive

/-! ## 3. Filters -/

/-- A filter of the log. -/
structure LogFilter where
  directives : List Directive
deriving DecidableEq, Inhabited

namespace LogFilter

/-- The filter of a text. -/
def parse (text : String) : Except FilterFault LogFilter := do
  let pieces := (Text.splitChars ',' text.toList).filter fun piece => !piece.isEmpty
  .ok ⟨← pieces.mapM Directive.parse⟩

/-- The directive that decides about what a target says with fields of some names. -/
def deciding? (f : LogFilter) (target : String) (names : List String) : Option Directive :=
  (f.directives.filter fun d => d.concerns target names).foldl (fun best d =>
    match best with
    | none => some d
    | some other => if d.precedes other then some d else some other) none

/-- Whether a level is open to a target, for what it says with fields of some names. -/
def isOpen (f : LogFilter) (target : String) (names : List String) (level : Level) : Bool :=
  match f.deciding? target names with
  | some d => level.rank ≤ d.level
  | none => false

/-- Whether a record is written.  Its sentence counts as a field. -/
def allows (f : LogFilter) (r : Record) : Bool :=
  f.isOpen r.target ("message" :: r.fields.map Prod.fst) r.level

/-- The variable that gives a filter in place of the settings. -/
def variableName : String := "RUST_LOG"

/-- The filter of a run: the one of the environment, if it is one, or else that of the settings. -/
def resolve (settings : LogSettings) (environment : Environment) : Except Fault LogFilter :=
  let own := (environment.get? variableName).bind fun text => (parse text).toOption
  match own with
  | some filter => .ok filter
  | none =>
    match parse settings.filter with
    | .ok filter => .ok filter
    | .error fault => .error (.settings ("invalid log filter " ++ Text.quote settings.filter ++ ": " ++
        fault.message))

/-- The filter of a log that is set up; that can be done once only. -/
def setUp (isSetUp : Bool) (settings : LogSettings) (environment : Environment) :
    Except Fault LogFilter := do
  let filter ← resolve settings environment
  if isSetUp then
    .error (.internal "telemetry"
      "failed to install subscriber: a global default trace dispatcher has already been set")
  else .ok filter

end LogFilter

/-! ## Worked examples -/

example : Directive.level? ['I', 'n', 'f', 'o'] = some 3 := by decide +kernel

example : (Directive.parse ['a', '=', '4']).toOption = some ⟨some "a", none, [], 4⟩ := by
  decide +kernel

example : (LogFilter.parse "").toOption = some ⟨[]⟩ := by decide +kernel

end Teardown
