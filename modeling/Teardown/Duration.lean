/-
# Durations

A duration is a whole number of nanoseconds, of which the seconds fit 64 bits.  In a settings file
it is a number of seconds, which is rounded to the nearest nanosecond and to the even one of two
(`ofSeconds`); the way back is the double nearest to the seconds plus the double nearest to the
rest (`toSeconds`).  A number of seconds that is negative, or too large, has no duration; which of
the two it was is kept as a `Duration.Overflow`.

The bound on the seconds is not part of the type.  It is checked where a duration is made of a
double, and a whole number of seconds is read as one of 64 bits.  No other duration is as long as
that: sums and differences are only taken of moments of a run and the lengths between them.

A message writes a duration in its largest unit that is not a fraction of one (`text`).

* §1  the type, with the order and the arithmetic of its nanoseconds.
* §2  the ways from a double and back.  Neither is the inverse of the other: most doubles are no
      whole number of nanoseconds, and a long duration has more digits than a double.
* §3  durations as texts, for a reader (`text`) and without any loss (`exactText`).
-/
import Teardown.Number.Binary64

namespace Teardown

/-! ## 1. The type -/

def nanosPerSecond : Nat := 1000000000

/-- A length of time in nanoseconds. -/
structure Duration where
  nanos : Nat
deriving DecidableEq, Inhabited

namespace Duration

def ofParts (seconds nanos : Nat) : Duration := ⟨seconds * nanosPerSecond + nanos⟩

def ofWhole (seconds : Nat) : Duration := ofParts seconds 0

def seconds (d : Duration) : Nat := d.nanos / nanosPerSecond

/-- The nanoseconds beyond the whole seconds. -/
def subsecond (d : Duration) : Nat := d.nanos % nanosPerSecond

/-- The duration in milliseconds, rounded up. -/
def ceilMillis (d : Duration) : Nat := (d.nanos + 999999) / 1000000

def millis (d : Duration) : Nat := d.nanos / 1000000

instance : LE Duration := ⟨fun a b => a.nanos ≤ b.nanos⟩
instance : LT Duration := ⟨fun a b => a.nanos < b.nanos⟩
instance (a b : Duration) : Decidable (a ≤ b) := inferInstanceAs (Decidable (a.nanos ≤ b.nanos))
instance (a b : Duration) : Decidable (a < b) := inferInstanceAs (Decidable (a.nanos < b.nanos))
instance : Min Duration := ⟨fun a b => ⟨Nat.min a.nanos b.nanos⟩⟩
instance : Add Duration := ⟨fun a b => ⟨a.nanos + b.nanos⟩⟩
instance : Sub Duration := ⟨fun a b => ⟨a.nanos - b.nanos⟩⟩

/-! ## 2. Seconds as a double -/

/-- Why a number of seconds has no duration. -/
inductive Overflow
  | negative
  | tooBig
deriving DecidableEq

def Overflow.message : Overflow → String
  | .negative => "cannot convert float seconds to Duration: value is negative"
  | .tooBig => "cannot convert float seconds to Duration: value is either too big or NaN"

/-- The nanoseconds of so many units of 2^-1074 seconds. -/
def nanosOfUnits (units : Nat) : Nat :=
  roundHalfEven (units * nanosPerSecond) (twoTo 1074)

/-- The duration of a number of seconds. -/
def ofSeconds : Binary64 → Except Overflow Duration
  | .nan => .error .tooBig
  | .signed negative index =>
    if negative ∧ index.val ≠ 0 then .error .negative
    else if wordBound * twoTo 1074 ≤ Binary64.units index then .error .tooBig
    else .ok ⟨nanosOfUnits (Binary64.units index)⟩

/-- The seconds of a duration: its whole seconds plus the rest, each rounded. -/
def toSeconds (d : Duration) : Binary64 :=
  Binary64.ofNat d.seconds + Binary64.ofNat d.subsecond / Binary64.ofNat nanosPerSecond

/-! ## 3. Text -/

/-- A natural with zeros before it, so that it has `width` digits. -/
def padded (width n : Nat) : List Char :=
  let digits := Nat.toDigits 10 n
  List.replicate (width - digits.length) '0' ++ digits

/-- A whole part, the `width` digits of a fraction without the zeros at their end, and a unit. -/
def decimalText (whole fraction width : Nat) (unit : String) : String :=
  let digits := ((padded width fraction).reverse.dropWhile (· == '0')).reverse
  let point := if digits.isEmpty then [] else '.' :: digits
  String.ofList (Nat.toDigits 10 whole ++ point) ++ unit

/-- A duration in seconds, milliseconds, microseconds or nanoseconds. -/
def text (d : Duration) : String :=
  if nanosPerSecond ≤ d.nanos then decimalText d.seconds d.subsecond 9 "s"
  else if 1000000 ≤ d.nanos then decimalText (d.nanos / 1000000) (d.nanos % 1000000) 6 "ms"
  else if 1000 ≤ d.nanos then decimalText (d.nanos / 1000) (d.nanos % 1000) 3 "µs"
  else decimalText d.nanos 0 0 "ns"

/-- A duration as whole seconds, a point and nine digits. -/
def exactText (d : Duration) : String :=
  toString d.seconds ++ "." ++ String.ofList (padded 9 d.subsecond)

end Duration

/-- A moment, as the time since the beginning of a run. -/
abbrev Moment := Duration

/-! ## Worked examples -/

example : (Duration.ofParts 1500 250000000).text = "1500.25s" := by decide +kernel

example : (Duration.ofParts 0 1500).text = "1.5µs" := by decide +kernel

example : (Duration.ofParts 0 0).text = "0ns" := by decide +kernel

example : (Duration.ofWhole 30).toSeconds = Binary64.ofNat 30 := by decide +kernel

end Teardown
