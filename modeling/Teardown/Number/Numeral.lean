/-
# Reading numerals

Numbers arrive as text in three places: the environment, the plain scalars of a settings file and
the bodies of remote answers.  This module reads the common forms.  A decimal numeral is an
optional sign, digits with at most one point among or around them (at least one digit in all), and
an optional exponent.  A whole numeral is an optional plus sign and at least one digit.

What is read is an integer or a double.  A decimal numeral is rounded once, from its digits and
its exponent together, so it does not matter how many digits it has.  The words for infinity and
for the value that is no number are read too, in any case of their letters.

* §1  digits in a given base, and whole numerals.
* §2  decimal numerals, from the point and the exponent.
-/
import Teardown.Number.Binary64

namespace Teardown.Numeral

/-! ## 1. Digits -/

def digitValue? (base : Nat) (c : Char) : Option Nat :=
  let value? : Option Nat :=
    if '0' ≤ c ∧ c ≤ '9' then some (c.toNat - '0'.toNat)
    else if 'a' ≤ c ∧ c ≤ 'f' then some (c.toNat - 'a'.toNat + 10)
    else if 'A' ≤ c ∧ c ≤ 'F' then some (c.toNat - 'A'.toNat + 10)
    else none
  value?.filter (· < base)

/-- The value of a sequence of digits, continuing from the value of those before it. -/
def digitsValue? (base : Nat) : (value : Nat) → List Char → Option Nat
  | value, [] => some value
  | value, c :: rest =>
    match digitValue? base c with
    | some digit => digitsValue? base (value * base + digit) rest
    | none => none

/-- The value of a text of digits; there has to be at least one. -/
def natural? (base : Nat) (s : List Char) : Option Nat :=
  if s.isEmpty then none else digitsValue? base 0 s

def unsigned? (base : Nat) : List Char → Option Nat
  | '+' :: rest => natural? base rest
  | s => natural? base s

def signed? (base : Nat) : List Char → Option Int
  | '-' :: rest => (natural? base rest).map fun n => -(n : Int)
  | s => (unsigned? base s).map fun n => (n : Int)

def isDigit (c : Char) : Bool := '0' ≤ c && c ≤ '9'

/-! ## 2. Decimal numerals -/

/-- The number after a letter of exponent, or nothing where there is no such letter. -/
def exponent? : List Char → Option Int
  | [] => some 0
  | c :: rest => if c = 'e' ∨ c = 'E' then signed? 10 rest else none

/-- An unsigned decimal numeral: digits, point, digits, exponent. -/
def magnitude? (negative : Bool) (s : List Char) : Option Binary64 := do
  let whole := s.takeWhile isDigit
  let rest := s.dropWhile isDigit
  let (fraction, rest) :=
    match rest with
    | '.' :: rest => (rest.takeWhile isDigit, rest.dropWhile isDigit)
    | rest => ([], rest)
  let digits ← natural? 10 (whole ++ fraction)
  let exponent ← exponent? rest
  some (.ofDecimal negative digits (exponent - fraction.length))

def decimal? : List Char → Option Binary64
  | '-' :: rest => magnitude? true rest
  | '+' :: rest => magnitude? false rest
  | s => magnitude? false s

/-- The words for the numbers that have no numeral, in small letters. -/
def word? (negative : Bool) (s : List Char) : Option Binary64 :=
  match s.map Char.toLower with
  | ['i', 'n', 'f'] => some (.infinity negative)
  | ['i', 'n', 'f', 'i', 'n', 'i', 't', 'y'] => some (.infinity negative)
  | ['n', 'a', 'n'] => some .nan
  | _ => none

/-- A decimal numeral or a word, with an optional sign. -/
def number? (s : List Char) : Option Binary64 :=
  let unsignedWord? :=
    match s with
    | '-' :: rest => word? true rest
    | '+' :: rest => word? false rest
    | s => word? false s
  unsignedWord? <|> decimal? s

/-! ## Worked examples -/

example : unsigned? 10 ['+', '0', '7'] = some 7 := by decide

example : unsigned? 10 ['+'] = none := by decide

example : signed? 10 ['-', '5'] = some (-5) := by decide

example : decimal? ['.', '5'] = some (.ofRatio false 1 2) := by decide +kernel

example : decimal? ['.'] = none := by decide +kernel

end Teardown.Numeral
