/-
# Double-precision numbers, exactly

The settings of a wait are scaled by a floating-point multiplier, and the delays that result are
observable, so the arithmetic is the one of the 64-bit binary format, bit for bit.  Every finite
number of the format is a whole multiple of the smallest one, 2^-1074.  A magnitude is therefore
kept as its place in the increasing sequence of all finite magnitudes (`index`), and its size as a
number of such units (`units`).  An operation computes its exact result as a quotient of naturals
and rounds once, to the nearest place and to the even one of two (`nearest`).

The one value that is not a number has no sign here, and no payload: nothing in this program could
tell two of them apart.

The order of the numbers is that of the integers (`key`), with the two zeros at one place, and a
comparison with the value that is no number is false.  That matters in two places, the smaller of
two numbers and the check of a multiplier.

Main fact: `nearest_lt`, rounding stays among the places that there are.

* §1  rounding, the one place where anything is lost.
* §2-3  particular numbers, the classes, and the order.
* §4  arithmetic: each operation is exact up to its one rounding.
* §5-6  the 64 bits of a number, and the number of a decimal numeral.
-/
import Teardown.Number.Power

namespace Teardown

/-! ## 1. Rounding a quotient -/

/-- A quotient rounded to the nearest natural, and to the even one of two. -/
def roundHalfEven (num den : Nat) : Nat :=
  let q := num / den
  let r := num % den
  if 2 * r < den then q else if den < 2 * r then q + 1 else q + q % 2

/-- The place of infinity, one past the last finite magnitude. -/
def infinityIndex : Nat := 0x7ff0000000000000

/-- A double-precision number: not a number, or a sign with the place of a magnitude. -/
inductive Binary64
  | nan
  | signed (negative : Bool) (index : Fin 0x7ff0000000000001)
deriving DecidableEq

namespace Binary64

/-- How many places there are from one power of two to the next. -/
def binade : Nat := 0x10000000000000

/-- The size of the magnitude at a finite place, in units of 2^-1074. -/
def units (index : Nat) : Nat :=
  if index < binade then index else (binade + index % binade) * twoTo (index / binade - 1)

/-- The place nearest to a quotient of units; too large a quotient goes to infinity. -/
def nearest (num den : Nat) : Nat :=
  let excess := Nat.log2 (num / den) - 52
  min infinityIndex (excess * binade + roundHalfEven num (den * twoTo excess))

theorem nearest_lt (num den : Nat) : nearest num den < 0x7ff0000000000001 :=
  Nat.lt_succ_of_le (Nat.min_le_left _ _)

/-- A quotient of units with a sign, rounded. -/
def round (negative : Bool) (num den : Nat) : Binary64 :=
  .signed negative ⟨nearest num den, nearest_lt num den⟩

/-! ## 2. Particular numbers -/

def zero (negative : Bool) : Binary64 := .signed negative ⟨0, by decide⟩

def infinity (negative : Bool) : Binary64 := .signed negative ⟨infinityIndex, by decide⟩

/-- The number nearest to a quotient of naturals. -/
def ofRatio (negative : Bool) (num den : Nat) : Binary64 :=
  round negative (num * twoTo 1074) den

def ofNat (n : Nat) : Binary64 := ofRatio false n 1

instance : Inhabited Binary64 := ⟨zero false⟩

instance (n : Nat) : OfNat Binary64 n := ⟨ofNat n⟩

/-- One and a half, the usual growth of a delay. -/
def threeHalves : Binary64 := ofRatio false 3 2

/-! ## 3. Classes and order -/

/-- Whether the number is neither infinite nor the value that is no number. -/
def isFinite : Binary64 → Bool
  | .nan => false
  | .signed _ index => index.val < infinityIndex

/-- The place with its sign: the order of the numbers is the order of these keys. -/
def key (negative : Bool) (index : Nat) : Int :=
  if negative then -(index : Int) else index

def lt : Binary64 → Binary64 → Bool
  | .signed s i, .signed t j => key s i < key t j
  | _, _ => false

/-- The smaller of two numbers; a value that is no number gives way to the other. -/
def min : Binary64 → Binary64 → Binary64
  | .nan, y => y
  | x, .nan => x
  | x, y => if x.lt y then x else y

/-! ## 4. Arithmetic -/

def mul : Binary64 → Binary64 → Binary64
  | .signed s i, .signed t j =>
    let negative := s != t
    if i.val = infinityIndex ∨ j.val = infinityIndex then
      if i.val = 0 ∨ j.val = 0 then .nan else infinity negative
    else round negative (units i * units j) (twoTo 1074)
  | _, _ => .nan

def add : Binary64 → Binary64 → Binary64
  | .signed s i, .signed t j =>
    if i.val = infinityIndex then
      if j.val = infinityIndex ∧ s ≠ t then .nan else infinity s
    else if j.val = infinityIndex then infinity t
    else if s = t then round s (units i + units j) 1
    else if units j < units i then round s (units i - units j) 1
    else if units i < units j then round t (units j - units i) 1
    else zero false
  | _, _ => .nan

def div : Binary64 → Binary64 → Binary64
  | .signed s i, .signed t j =>
    let negative := s != t
    if i.val = infinityIndex then
      if j.val = infinityIndex then .nan else infinity negative
    else if j.val = infinityIndex then zero negative
    else if j.val = 0 then
      if i.val = 0 then .nan else infinity negative
    else round negative (units i * twoTo 1074) (units j)
  | _, _ => .nan

instance : Mul Binary64 := ⟨mul⟩
instance : Add Binary64 := ⟨add⟩
instance : Div Binary64 := ⟨div⟩

/-! ## 5. Interchange form -/

/-- The 64 bits of the interchange form, as a natural. -/
def toBits : Binary64 → Nat
  | .nan => 0x7ff8000000000000
  | .signed negative index => (if negative then signedWordBound else 0) + index

/-! ## 6. Decimal numerals -/

/-- How many decimal digits a natural has; zero has none. -/
def decimalLength (n : Nat) : Nat :=
  if n = 0 then 0 else decimalLength (n / 10) + 1
termination_by n

/-- The number nearest to `digits · 10^exponent`.  Numerals far beyond the range of the format are
recognised by their length, so that no power of ten of that size is ever formed. -/
def ofDecimal (negative : Bool) (digits : Nat) (exponent : Int) : Binary64 :=
  let size := decimalLength digits + exponent
  if digits = 0 then zero negative
  else if 310 < size then infinity negative
  else if size < -330 then zero negative
  else if 0 ≤ exponent then ofRatio negative (digits * tenTo exponent.toNat) 1
  else ofRatio negative digits (tenTo (-exponent).toNat)

/-! ## Worked examples -/

example : (threeHalves).toBits = 0x3ff8000000000000 := by decide +kernel

example : (ofDecimal false 1 (-1)).toBits = 0x3fb999999999999a := by decide +kernel

example : (ofDecimal false 1 400) = infinity false := by decide +kernel

example : (ofRatio false 1 3 * 3 : Binary64) = 1 := by decide +kernel

end Binary64

end Teardown
