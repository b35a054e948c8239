/-
# Powers of two and of ten

Binary numbers are scaled by powers of two, and decimal numerals by powers of ten.  Both are
counted in naturals, so that no scaling ever loses anything.  Some powers of two are the bounds of
numbers that are kept in a fixed number of bits.

The powers have names of their own, and the bounds are written out, because the exponents are
large: a statement about them is proved from `twoTo_succ` and `twoTo_add`, and no proof about
rounding has to compute the power.
-/

namespace Teardown

/-- The power of two with an exponent. -/
def twoTo (exponent : Nat) : Nat := Nat.pow 2 exponent

def tenTo (exponent : Nat) : Nat := Nat.pow 10 exponent

@[simp] theorem twoTo_zero : twoTo 0 = 1 := rfl

theorem twoTo_succ (n : Nat) : twoTo (n + 1) = twoTo n * 2 := rfl

theorem twoTo_pos (n : Nat) : 0 < twoTo n := by
  induction n with
  | zero => decide
  | succ n ih => rw [twoTo_succ]; omega

theorem twoTo_add (m n : Nat) : twoTo (m + n) = twoTo m * twoTo n := by
  induction n with
  | zero => rw [Nat.add_zero, twoTo_zero, Nat.mul_one]
  | succ n ih => rw [← Nat.add_assoc, twoTo_succ, twoTo_succ, ih, Nat.mul_assoc]

/-! ## Bounds -/

/-- One more than the largest number of 64 bits. -/
def wordBound : Nat := 0x10000000000000000

def signedWordBound : Nat := 0x8000000000000000

/-- One more than the largest number of 128 bits. -/
def doubleWordBound : Nat := 0x100000000000000000000000000000000

def signedDoubleWordBound : Nat := 0x80000000000000000000000000000000

example : wordBound = twoTo 64 ∧ signedWordBound = twoTo 63 ∧ doubleWordBound = twoTo 128 ∧
    signedDoubleWordBound = twoTo 127 := by decide +kernel

end Teardown
