/-
# Outlines of objects

What a cluster sends about one of its objects is not looked at further, but it has to have the
outline of such an object.  Every part of an object may be missing or null, parts that are not
known are ignored, and a part that is there has to be of its kind.

An outline is a tree like the value that it is about, so fitting is a recursion on both.  The one
kind of leaf with an inner structure is the time, which is a date, a clock and a zone in one text;
the readers of its pieces each give back what stands behind the piece.

* §1  times, from the left to the right.  A day has to be one of its month, and a second may be a
      leap second.
* §2  fitting.
-/
import Teardown.Json.Basic
import Teardown.Number.Numeral

namespace Teardown

mutual

/-- What kind of value stands somewhere. -/
inductive Outline
  | anything
  | text
  | word (word : String)
  | flag
  | whole
  | time
  | list (item : Outline)
  | table (item : Outline)
  | object (parts : Parts)

inductive Parts
  | none
  | part (name : String) (outline : Outline) (rest : Parts)

end

/-- The parts of some names, all of one kind, before others. -/
def Parts.ofNames (outline : Outline) (names : List String) (rest : Parts) : Parts :=
  names.foldr (fun name rest => .part name outline rest) rest

namespace Outline

/-! ## 1. Times -/

/-- The value of two digits at the beginning that is at most a bound, and the rest. -/
def twoDigits? (bound : Nat) : List Char → Option (Nat × List Char)
  | a :: b :: rest => do
    let value ← Numeral.natural? 10 [a, b]
    if value ≤ bound then some (value, rest) else none
  | _ => none

/-- What stands after a character of a choice. -/
def afterSign? (signs : List Char) : List Char → Option (List Char)
  | c :: rest => if signs.contains c then some rest else none
  | [] => none

/-- How many days a month has. -/
def daysIn (year month : Nat) : Nat :=
  if month = 2 then if year % 4 = 0 ∧ (year % 100 ≠ 0 ∨ year % 400 = 0) then 29 else 28
  else if [4, 6, 9, 11].contains month then 30
  else 31

/-- What stands behind the date at the beginning. -/
def afterDate? (s : List Char) : Option (List Char) := do
  let year ← Numeral.natural? 10 (s.take 4)
  let rest ← afterSign? ['-'] (s.drop 4)
  let (month, rest) ← twoDigits? 12 rest
  let rest ← afterSign? ['-'] rest
  let (day, rest) ← twoDigits? 31 rest
  if 1 ≤ month ∧ 1 ≤ day ∧ day ≤ daysIn year month then some rest else none

/-- What stands behind the time of day at the beginning. -/
def afterClock? (s : List Char) : Option (List Char) := do
  let (_, rest) ← twoDigits? 23 s
  let rest ← afterSign? [':'] rest
  let (_, rest) ← twoDigits? 59 rest
  let rest ← afterSign? [':'] rest
  let (_, rest) ← twoDigits? 60 rest
  match rest with
  | '.' :: rest =>
    if rest.head?.any Numeral.isDigit then some (rest.dropWhile Numeral.isDigit) else none
  | rest => some rest

/-- Whether a text is the distance of a zone from the prime meridian. -/
def isZone (s : List Char) : Bool :=
  match s with
  | ['Z'] => true
  | ['z'] => true
  | _ =>
    let minutes? := do
      let rest ← afterSign? ['+', '-'] s
      let (_, rest) ← twoDigits? 23 rest
      let rest ← afterSign? [':'] rest
      twoDigits? 59 rest
    minutes?.any fun minutes => minutes.2.isEmpty

/-- Whether a text is a point in time. -/
def isTime (s : List Char) : Bool :=
  let zone? := do
    let rest ← afterDate? s
    let rest ← afterSign? ['T', 't', ' '] rest
    afterClock? rest
  zone?.any isZone

/-! ## 2. Fitting -/

mutual

/-- Whether a value has an outline. -/
def fits : Outline → Json → Bool
  | .anything, _ => true
  | .text, value =>
    match value with
    | .text _ => true
    | _ => false
  | .word wanted, value =>
    match value with
    | .text found => found = wanted
    | _ => false
  | .flag, value =>
    match value with
    | .bool _ => true
    | _ => false
  | .whole, value =>
    match value with
    | .whole number => -(signedWordBound : Int) ≤ number && number < (signedWordBound : Int)
    | _ => false
  | .time, value =>
    match value with
    | .text found => isTime found.toList
    | _ => false
  | .list item, value =>
    match value with
    | .list items => items.all fun value => fits item value
    | _ => false
  | .table item, value =>
    match value with
    | .object members => members.all fun member => fits item member.2
    | _ => false
  | .object parts, value =>
    match value with
    | .object members => members.all fun member => fitsPart parts member.1 member.2
    | _ => false

/-- Whether a value may stand under a name. -/
def fitsPart : Parts → String → Json → Bool
  | .none, _, _ => true
  | .part name outline rest, found, value =>
    if found = name then
      match outline, value with
      | .word _, value => fits outline value
      | _, .null => true
      | _, value => fits outline value
    else fitsPart rest found value

end

end Outline

/-! ## Worked examples -/

example : Outline.isTime "2024-02-29T12:00:00Z".toList = true := by cbv

example : Outline.isTime "2023-02-29T12:00:00Z".toList = false := by cbv

end Teardown
