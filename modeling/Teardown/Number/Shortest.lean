/-
# The shortest numeral of a double-precision number

A message that quotes a number gives the fewest digits that read back as the same number, and of
several such the nearest.  The reals that round to a magnitude form an interval between the
midpoints to its neighbours, with the ends exactly when its place is even.  On the grid of `n`
digits only the two points around the magnitude need a test; the first grid with a point in the
interval decides.

Seventeen digits always suffice, so the search has an end that is known beforehand.

`positional` writes the digits without an exponent, `compact` turns to an exponent for very large
and very small numbers.

* §1  which numerals round to a magnitude.
* §2  the grids, from coarse to fine.
* §3  the texts of the digits that were found.
-/
import Teardown.Number.Binary64

namespace Teardown.Binary64

/-! ## 1. The interval of a magnitude -/

/-- Whether `digits · 10^exponent` rounds to the place `index`. -/
def readsAs (index digits : Nat) (exponent : Int) : Bool :=
  let scaled := digits * tenTo exponent.toNat * twoTo 1075
  let unit := tenTo (-exponent).toNat
  let low := (units (index - 1) + units index) * unit
  let high := (units index + units (index + 1)) * unit
  if index % 2 = 0 then low ≤ scaled && scaled ≤ high else low < scaled && scaled < high

/-! ## 2. The grids -/

/-- How often a magnitude below one must be multiplied by ten to reach one. -/
def tensToOne (fuel size : Nat) : Nat :=
  match fuel with
  | 0 => 0
  | fuel + 1 => if twoTo 1074 ≤ size then 0 else tensToOne fuel (size * 10) + 1

/-- The exponent of the leading decimal digit of a positive magnitude. -/
def leadingExponent (index : Nat) : Int :=
  let whole := units index / twoTo 1074
  if whole = 0 then -(tensToOne 400 (units index) : Int) else decimalLength whole - 1

/-- The point of the grid of `count` digits that reads back, if there is one: of two the nearer,
of two equally near the lower. -/
def gridPoint? (index count : Nat) : Option (Nat × Int) :=
  let exponent := leadingExponent index - (count - 1 : Nat)
  let num := units index * tenTo (-exponent).toNat
  let den := twoTo 1074 * tenTo exponent.toNat
  let lower := num / den
  let takesLower := readsAs index lower exponent
  let takesUpper := readsAs index (lower + 1) exponent
  if takesLower && (!takesUpper || decide (2 * (num % den) ≤ den)) then some (lower, exponent)
  else if takesUpper then some (lower + 1, exponent)
  else none

/-- The shortest digits of a positive finite magnitude and the exponent of the last of them. -/
def shortestDigits (index : Nat) : Nat × Int :=
  ((List.range 17).findSome? fun count => gridPoint? index (count + 1)).getD (0, 0)

/-- Digits without the zeros at their end, with the exponent that makes up for them. -/
def dropZeros (fuel digits : Nat) (exponent : Int) : Nat × Int :=
  match fuel with
  | 0 => (digits, exponent)
  | fuel + 1 =>
    if digits ≠ 0 ∧ digits % 10 = 0 then dropZeros fuel (digits / 10) (exponent + 1)
    else (digits, exponent)

/-! ## 3. Texts -/

def decimalDigits (n : Nat) : List Char := Nat.toDigits 10 n

/-- Digits with a point `places` before their end, with at least one digit on each side. -/
def withPoint (digits : List Char) (exponent : Int) : List Char :=
  if 0 ≤ exponent then digits ++ List.replicate exponent.toNat '0' ++ ['.', '0']
  else
    let places := (-exponent).toNat
    let padded := List.replicate (places + 1 - digits.length) '0' ++ digits
    padded.take (padded.length - places) ++ ['.'] ++ padded.drop (padded.length - places)

def withExponent (digits : List Char) (exponent : Int) : List Char :=
  let fraction := digits.drop 1
  let point := if fraction.isEmpty then [] else '.' :: fraction
  digits.take 1 ++ point ++ 'e' :: (toString (exponent + fraction.length)).toList

/-- The text of a finite magnitude, given how its digits are to be written. -/
def magnitudeText (write : List Char → Int → List Char) (negative : Bool) (index : Nat) : String :=
  let sign := if negative then ['-'] else []
  let body :=
    if index = 0 then ['0', '.', '0']
    else
      let (digits, exponent) := shortestDigits index
      let (digits, exponent) := dropZeros 20 digits exponent
      write (decimalDigits digits) exponent
  String.ofList (sign ++ body)

def textWith (write : List Char → Int → List Char) : Binary64 → String
  | .nan => "NaN"
  | .signed negative index =>
    if index.val = infinityIndex then (if negative then "-inf" else "inf")
    else magnitudeText write negative index

/-- The shortest numeral without an exponent. -/
def positional (x : Binary64) : String := x.textWith withPoint

/-- The shortest numeral, with an exponent below 10^-5 and from 10^16 on. -/
def compact (x : Binary64) : String :=
  x.textWith fun digits exponent =>
    let point := digits.length + exponent
    if -5 < point ∧ point ≤ 16 then withPoint digits exponent
    else withExponent digits exponent

/-! ## Worked examples -/

example : (ofDecimal false 1 (-1)).positional = "0.1" := by decide +kernel

example : (ofNat 5).positional = "5.0" := by decide +kernel

example : (ofDecimal false 1 300).compact = "1e300" := by decide +kernel

end Teardown.Binary64
