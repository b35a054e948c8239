/-
# Reading JSON

A strict reader: one value with blanks around it and nothing else.  A numeral without point and
exponent is whole if it fits 64 bits (signed, if it is negative); every other numeral is a double,
and one that is too large for a double is refused.

`asWritten?` keeps the members of an object as they come, even if a name is repeated; `parse?`
gives the tidy value.

Every step uses up at least one character, so the number of characters left bounds the depth of
the recursion.  The bound is an argument of the functions that read values, items and members
(`fuel`), and `asWritten?` gives enough of it for any text.

* §1-3  the parts of a value that hold no others: blanks, words, strings and numbers.
* §4  values, by recursion on what is left.
-/
import Teardown.Json.Basic
import Teardown.Number.Numeral

namespace Teardown.Json

/-! ## 1. Blanks and words -/

/-- Whether a character may stand between the parts of a value. -/
def isBlank (c : Char) : Bool := c = ' ' || c = '\n' || c = '\r' || c = '\t'

def skipBlanks (s : List Char) : List Char := s.dropWhile isBlank

/-- What stands after a given word. -/
def afterWord? (word : String) (s : List Char) : Option (List Char) :=
  let letters := word.toList
  if s.take letters.length = letters then some (s.drop letters.length) else none

/-! ## 2. Strings -/

/-- The value of four hexadecimal digits at the beginning, and the rest. -/
def hexUnit? : List Char → Option (Nat × List Char)
  | a :: b :: c :: d :: rest => do
    let value ← Numeral.digitsValue? 16 0 [a, b, c, d]
    some (value, rest)
  | _ => none

/-- The character of an escape after `\u`, and the rest; two halves of a pair make one character. -/
def unicodeEscape? (s : List Char) : Option (Char × List Char) := do
  let (first, rest) ← hexUnit? s
  if 0xd800 ≤ first ∧ first < 0xdc00 then
    match rest with
    | '\\' :: 'u' :: rest =>
      let (second, rest) ← hexUnit? rest
      if 0xdc00 ≤ second ∧ second < 0xe000 then
        some (Char.ofNat (0x10000 + (first - 0xd800) * 0x400 + (second - 0xdc00)), rest)
      else none
    | _ => none
  else if 0xdc00 ≤ first ∧ first < 0xe000 then none
  else some (Char.ofNat first, rest)

/-- The character of a simple escape. -/
def simpleEscape? : Char → Option Char
  | '"' => some '"'
  | '\\' => some '\\'
  | '/' => some '/'
  | 'b' => some '\x08'
  | 'f' => some '\x0c'
  | 'n' => some '\n'
  | 'r' => some '\r'
  | 't' => some '\t'
  | _ => none

/-- The rest of a string after its opening quote, backwards before what was read. -/
def readString (fuel : Nat) (read : List Char) (s : List Char) : Option (String × List Char) :=
  match fuel with
  | 0 => none
  | fuel + 1 =>
    match s with
    | '"' :: rest => some (String.ofList read.reverse, rest)
    | '\\' :: 'u' :: rest =>
      match unicodeEscape? rest with
      | some (c, rest) => readString fuel (c :: read) rest
      | none => none
    | '\\' :: letter :: rest =>
      match simpleEscape? letter with
      | some c => readString fuel (c :: read) rest
      | none => none
    | c :: rest => if c.toNat < 0x20 ∨ c = '\\' then none else readString fuel (c :: read) rest
    | [] => none

/-! ## 3. Numbers -/

/-- Whether a character may belong to a numeral. -/
def isNumeral (c : Char) : Bool :=
  Numeral.isDigit c || c = '-' || c = '+' || c = '.' || c = 'e' || c = 'E'

/-- Whether the unsigned part of a numeral is well formed: no needless zero in front, digits on both
sides of a point, and digits in the exponent. -/
def isWellFormed (s : List Char) : Bool :=
  let whole := s.takeWhile Numeral.isDigit
  let rest := s.dropWhile Numeral.isDigit
  let wholeOk := whole = ['0'] || (!whole.isEmpty && whole.head? != some '0')
  let fractionOk :=
    match rest with
    | '.' :: rest => !(rest.takeWhile Numeral.isDigit).isEmpty
    | _ => true
  wholeOk && fractionOk

/-- The value of a double numeral, which has to be finite. -/
def finite? (s : List Char) : Option Json :=
  ((Numeral.decimal? s).filter Binary64.isFinite).map .real

def number? (s : List Char) : Option Json :=
  let negative := s.head? = some '-'
  let digits := if negative then s.drop 1 else s
  if !isWellFormed digits then none
  else if digits.all Numeral.isDigit then
    match Numeral.natural? 10 digits with
    | some n =>
      if !negative ∧ n < wordBound then some (.whole n)
      else if negative ∧ 0 < n ∧ n ≤ signedWordBound then some (.whole (-(n : Int)))
      else finite? s
    | none => none
  else finite? s

/-! ## 4. Values -/

mutual

/-- A value at the beginning of a text, and the rest. -/
def readValue (fuel : Nat) (s : List Char) : Option (Json × List Char) :=
  match fuel with
  | 0 => none
  | fuel + 1 =>
    match s with
    | '"' :: rest => (readString fuel [] rest).map fun (value, rest) =>
        (.text value, rest)
    | '[' :: rest =>
      match skipBlanks rest with
      | ']' :: rest => some (.list [], rest)
      | rest => (readItems fuel rest).map fun (items, rest) => (.list items, rest)
    | '\x7b' :: rest =>
      match skipBlanks rest with
      | '\x7d' :: rest => some (.object [], rest)
      | rest => (readMembers fuel rest).map fun (members, rest) => (.object members, rest)
    | 't' :: _ => (afterWord? "true" s).map fun rest => (.bool true, rest)
    | 'f' :: _ => (afterWord? "false" s).map fun rest => (.bool false, rest)
    | 'n' :: _ => (afterWord? "null" s).map fun rest => (.null, rest)
    | _ => (number? (s.takeWhile isNumeral)).map fun value => (value, s.dropWhile isNumeral)

/-- The items of a list up to its closing bracket, and the rest. -/
def readItems (fuel : Nat) (s : List Char) : Option (List Json × List Char) :=
  match fuel with
  | 0 => none
  | fuel + 1 =>
    match readValue fuel (skipBlanks s) with
    | none => none
    | some (item, rest) =>
      match skipBlanks rest with
      | ']' :: rest => some ([item], rest)
      | ',' :: rest => (readItems fuel rest).map fun (items, rest) => (item :: items, rest)
      | _ => none

/-- The members of an object up to its closing brace, and the rest. -/
def readMembers (fuel : Nat) (s : List Char) : Option (List (String × Json) × List Char) :=
  match fuel with
  | 0 => none
  | fuel + 1 =>
    match skipBlanks s with
    | '"' :: rest =>
      match readString fuel [] rest with
      | none => none
      | some (name, rest) =>
        match skipBlanks rest with
        | ':' :: rest =>
          match readValue fuel (skipBlanks rest) with
          | none => none
          | some (value, rest) =>
            match skipBlanks rest with
            | '\x7d' :: rest => some ([(name, value)], rest)
            | ',' :: rest => (readMembers fuel rest).map fun (members, rest) =>
                ((name, value) :: members, rest)
            | _ => none
        | _ => none
    | _ => none

end

/-- The value that a text holds, as it is written. -/
def asWritten? (text : String) : Option Json :=
  let s := skipBlanks text.toList
  match readValue (2 * s.length + 2) s with
  | some (value, rest) => if (skipBlanks rest).isEmpty then some value else none
  | none => none

/-- The value that a text holds. -/
def parse? (text : String) : Option Json := (asWritten? text).map tidy

/-! ## Worked examples -/

example : (number? ['0', '1']).isNone = true := by decide +kernel

example : (number? ['1', '.']).isNone = true := by decide +kernel

example : (parse? "[true, \"a\\u0041\"]").map render = some "[true,\"aA\"]" := by decide +kernel

end Teardown.Json
