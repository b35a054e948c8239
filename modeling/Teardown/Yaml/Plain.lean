/-
# What plain scalars mean

A scalar that is written without quotes may be a null, a boolean, a number or a text.  The forms
are those of the core schema of YAML 1.2: `yes` is a text, `0o17` and `0x10` are whole numbers,
and digits behind a leading zero are a text.

The forms are tried in one order, and what has none of them is a text.  A whole numeral that needs
more than 128 bits is not whole; it may still be a decimal numeral, and then it is rounded.

* §1-3  the forms, in the order in which they are tried, and at the end the meaning of any scalar.
-/
import Teardown.Number.Numeral

namespace Teardown.Yaml

/-- What a scalar means. -/
inductive Meaning
  | null
  | flag (value : Bool)
  | whole (value : Int)
  | real (value : Binary64)
  | text (value : String)
deriving DecidableEq

namespace Plain

/-! ## 1. Nulls and booleans -/

/-- Whether a text is one of the words for null. -/
def isNull (s : String) : Bool := ["null", "Null", "NULL", "~"].contains s

/-- The boolean of a word. -/
def flag? (s : String) : Option Bool :=
  if ["true", "True", "TRUE"].contains s then some true
  else if ["false", "False", "FALSE"].contains s then some false
  else none

/-! ## 2. Whole numbers -/

def dropPlus : List Char → List Char
  | '+' :: rest => rest
  | s => s

def dropSign : List Char → List Char
  | '-' :: rest => rest
  | s => dropPlus s

/-- Whether a text consists of digits, two at least, the first of which is a zero. -/
def hasLeadingZero (s : List Char) : Bool :=
  match dropSign s with
  | '0' :: c :: rest => (c :: rest).all Numeral.isDigit
  | _ => false

/-- The value of digits, in the base that the beginning names. -/
def digits? : List Char → Option Nat
  | '0' :: 'x' :: rest => Numeral.natural? 16 rest
  | '0' :: 'o' :: rest => Numeral.natural? 8 rest
  | '0' :: 'b' :: rest => Numeral.natural? 2 rest
  | s => Numeral.natural? 10 s

/-- The value of a whole numeral that does not need more than 128 bits. -/
def whole? (s : List Char) : Option Int :=
  if hasLeadingZero s then none
  else
    match s with
    | '-' :: rest =>
      (digits? rest).bind fun n => if n ≤ signedDoubleWordBound then some (-(n : Int)) else none
    | s => (digits? (dropPlus s)).bind fun n => if n < doubleWordBound then some (n : Int) else none

/-! ## 3. Other numbers -/

/-- The value of a decimal numeral, or of a word for a number that is not finite. -/
def number? (s : String) : Option Binary64 :=
  let rest := dropPlus s.toList
  let isSignedTwice := rest.length < s.length && (rest.head? = some '+' || rest.head? = some '-')
  if isSignedTwice then none
  else if [".inf", ".Inf", ".INF"].contains (String.ofList rest) then some (.infinity false)
  else if ["-.inf", "-.Inf", "-.INF"].contains s then some (.infinity true)
  else if [".nan", ".NaN", ".NAN"].contains s then some .nan
  else if rest.head? = some '+' then none
  else (Numeral.decimal? rest).filter Binary64.isFinite

/-- What a plain scalar means. -/
def meaning (s : String) : Meaning :=
  if s.isEmpty || isNull s then .null
  else
    match flag? s with
    | some value => .flag value
    | none =>
      match whole? s.toList with
      | some value => .whole value
      | none =>
        match if hasLeadingZero s.toList then none else number? s with
        | some value => .real value
        | none => .text s

end Plain

/-! ## Worked examples -/

example : Plain.whole? ['0', 'o', '1', '7'] = some 15 := by decide +kernel

example : Plain.whole? ['-', '0', 'x', '1', '0'] = some (-16) := by decide +kernel

example : Plain.whole? ['0', '1', '7'] = none := by decide +kernel

example : Plain.meaning "~" = .null := by cbv

example : Plain.meaning "yes" = .text "yes" := by cbv

end Teardown.Yaml
