/-
# Rounding keeps the order

The bounds of a computation with doubles are found from the bounds of its operands, because no
operation turns an order around: the sizes of the places grow (`units_mono`), and rounding a
larger quotient gives no earlier place (`nearest_mono`).  The second is not obvious where the two
quotients have different exponents, since each is then rounded at a step of its own; there the
power of two between them separates the two places.

Numbers that are not negative are bounded from above and from below by places (`UpTo`, `From`),
with a lemma for each operation.  What a bound comes to in the end is computed for particular
places.

* §1  rounding a quotient to a natural, half to even.
* §2-3  places, their sizes, and the place nearest to a quotient.
* §4  bounds of numbers that are not negative.  The smaller of two numbers is a number if one of
      them is, so its bound does not ask for both.
* §5  naturals that a double has as they are (`Kept`), as bounds.

Nothing here is about waits.  The bounds are used for the lengths of pauses, from above
(`Teardown.Proofs.Pauses`) and from below (`Teardown.Proofs.RestLengths`).
-/
import Mathlib.Data.Nat.Log
import Mathlib.Order.Monotone.Basic
import Teardown.Number.Binary64

namespace Teardown

/-! ## 1. Rounding a quotient -/

/-- A larger quotient is not rounded to a smaller natural. -/
theorem roundHalfEven_mono {num num' : Nat} (h : num ≤ num') (den : Nat) :
    roundHalfEven num den ≤ roundHalfEven num' den := by
  have hquotient : num / den ≤ num' / den := Nat.div_le_div_right h
  have hnum := Nat.div_add_mod num den
  have hnum' := Nat.div_add_mod num' den
  simp only [roundHalfEven]
  rcases Nat.lt_or_eq_of_le hquotient with hless | hsame
  · split <;> split <;> (try split) <;> (try split) <;> omega
  · rw [hsame] at hnum ⊢
    split <;> split <;> (try split) <;> (try split) <;> omega

@[simp] theorem roundHalfEven_mul (n : Nat) {den : Nat} (hden : 0 < den) :
    roundHalfEven (n * den) den = n := by
  rw [roundHalfEven, Nat.mul_mod_left, Nat.mul_div_cancel n hden, if_pos (by omega)]

theorem roundHalfEven_le {num den n : Nat} (hden : 0 < den) (h : num ≤ n * den) :
    roundHalfEven num den ≤ n :=
  (roundHalfEven_mono h den).trans_eq (roundHalfEven_mul n hden)

theorem le_roundHalfEven {num den n : Nat} (hden : 0 < den) (h : n * den ≤ num) :
    n ≤ roundHalfEven num den :=
  (roundHalfEven_mul n hden).symm.trans_le (roundHalfEven_mono h den)

namespace Binary64

/-! ## 2. Places and their sizes -/

/-- The next place is no smaller. -/
theorem units_le_succ (i : Nat) : units i ≤ units (i + 1) := by
  have hbinade : 0 < binade := by decide
  by_cases hlow : i + 1 < binade
  · rw [units, units, if_pos (by omega), if_pos hlow]
    omega
  by_cases hedge : i + 1 = binade
  · have hfirst : units binade = binade := by decide +kernel
    rw [hedge, hfirst, units, if_pos (by omega)]
    omega
  have hi : ¬ i < binade := by omega
  rw [units, units, if_neg hi, if_neg hlow]
  have hsplit := Nat.div_add_mod i binade
  have hrest := Nat.mod_lt i hbinade
  have hrow : 0 < i / binade := Nat.div_pos (by omega) hbinade
  by_cases hlast : i % binade + 1 < binade
  · have hnext : (i + 1) / binade = i / binade ∧ (i + 1) % binade = i % binade + 1 := by
      rw [Nat.div_mod_unique hbinade]
      omega
    rw [hnext.1, hnext.2]
    exact Nat.mul_le_mul_right _ (by omega)
  · -- The last place of a row: the next row begins with twice the size of this one's first.
    have hnext : (i + 1) / binade = i / binade + 1 ∧ (i + 1) % binade = 0 := by
      rw [Nat.div_mod_unique hbinade, Nat.mul_add]
      omega
    obtain ⟨row, hrowEq⟩ : ∃ row, i / binade = row + 1 := ⟨i / binade - 1, by omega⟩
    rw [hnext.1, hnext.2, hrowEq, Nat.add_sub_cancel, Nat.add_sub_cancel, twoTo_succ,
      Nat.add_zero, Nat.mul_comm (twoTo row), ← Nat.mul_assoc]
    exact Nat.mul_le_mul_right _ (by omega)

/-- **The sizes of the places** grow with the places. -/
theorem units_mono {i j : Nat} (h : i ≤ j) : units i ≤ units j :=
  monotone_nat_of_le_succ units_le_succ h

/-! ## 3. The nearest place -/

/-- How large a quotient with a given excess is. -/
theorem quotient_bounds (quotient : Nat) :
    quotient < twoTo (53 + (Nat.log2 quotient - 52)) ∧
    (0 < Nat.log2 quotient - 52 → twoTo (52 + (Nat.log2 quotient - 52)) ≤ quotient) := by
  refine ⟨?_, fun hexcess => ?_⟩
  · calc quotient < 2 ^ (Nat.log2 quotient + 1) := Nat.lt_log2_self
      _ ≤ 2 ^ (53 + (Nat.log2 quotient - 52)) := Nat.pow_le_pow_right (by omega) (by omega)
  · have hexponent : 52 + (Nat.log2 quotient - 52) = Nat.log2 quotient := by omega
    rw [hexponent]
    refine Nat.log2_self_le ?_
    rintro rfl
    exact absurd hexcess (by decide)

/-- **Rounding keeps the order** of quotients. -/
theorem nearest_mono {num num' : Nat} (h : num ≤ num') (den : Nat) :
    nearest num den ≤ nearest num' den := by
  have hlog : Nat.log2 (num / den) ≤ Nat.log2 (num' / den) := by
    rw [Nat.log2_eq_log_two, Nat.log2_eq_log_two]
    exact Nat.log_mono_right (Nat.div_le_div_right h)
  obtain ⟨hbelow, -⟩ := quotient_bounds (num / den)
  obtain ⟨-, habove⟩ := quotient_bounds (num' / den)
  have hexcess : Nat.log2 (num / den) - 52 ≤ Nat.log2 (num' / den) - 52 := by omega
  simp only [nearest]
  refine Nat.le_min.2 ⟨Nat.min_le_left _ _, (Nat.min_le_right _ _).trans ?_⟩
  generalize hlow : Nat.log2 (num / den) - 52 = low at hbelow hexcess ⊢
  generalize hhigh : Nat.log2 (num' / den) - 52 = high at habove hexcess ⊢
  rcases Nat.eq_or_lt_of_le hexcess with rfl | hless
  · exact Nat.add_le_add_left (roundHalfEven_mono h _) _
  -- The smaller quotient rounds at most to the power of two above it, the larger at least to the one
  -- below it; where the exponents differ, the second power is no smaller than the first.
  have hden : 0 < den := by
    refine Nat.pos_of_ne_zero ?_
    rintro rfl
    rw [Nat.div_zero] at hhigh
    exact absurd hless (by rw [← hhigh]; exact Nat.not_lt_zero _)
  have hlower : roundHalfEven num (den * twoTo low) ≤ twoTo 53 := by
    refine roundHalfEven_le (Nat.mul_pos hden (twoTo_pos low)) ?_
    have hnum := (Nat.div_lt_iff_lt_mul hden).1 hbelow
    rw [twoTo_add, Nat.mul_assoc, Nat.mul_comm (twoTo low)] at hnum
    exact hnum.le
  have hupper : twoTo 52 ≤ roundHalfEven num' (den * twoTo high) := by
    refine le_roundHalfEven (Nat.mul_pos hden (twoTo_pos high)) ?_
    have hnum := (Nat.le_div_iff_mul_le hden).1 (habove (by omega))
    rwa [twoTo_add, Nat.mul_assoc, Nat.mul_comm (twoTo high)] at hnum
  have hpowers : twoTo 52 = binade ∧ twoTo 53 = 2 * binade := by decide
  calc low * binade + roundHalfEven num (den * twoTo low)
      ≤ low * binade + 2 * binade := by omega
    _ = (low + 1) * binade + binade := by rw [Nat.add_mul]; omega
    _ ≤ high * binade + binade := Nat.add_le_add_right (Nat.mul_le_mul_right _ hless) _
    _ ≤ high * binade + roundHalfEven num' (den * twoTo high) := by omega

/-! ## 4. Bounds of numbers that are not negative -/

/-- A number that is not negative and stands at a given place or before it. -/
def UpTo (limit : Nat) (x : Binary64) : Prop := ∃ i, x = .signed false i ∧ i.val ≤ limit

/-- A number that is not negative and stands at a given place or after it. -/
def From (limit : Nat) (x : Binary64) : Prop := ∃ i, x = .signed false i ∧ limit ≤ i.val

variable {x y : Binary64} {i j limit : Nat}

theorem UpTo.mono (h : x.UpTo i) (hle : i ≤ j) : x.UpTo j := by
  obtain ⟨k, rfl, hk⟩ := h
  exact ⟨k, rfl, hk.trans hle⟩

theorem From.mono (h : x.From j) (hle : i ≤ j) : x.From i := by
  obtain ⟨k, rfl, hk⟩ := h
  exact ⟨k, rfl, hle.trans hk⟩

/-- The other side of a bound, for numbers that are not negative. -/
theorem From.upTo_iff (h : x.From i) : x.UpTo limit ↔ ¬ x.From (limit + 1) := by
  obtain ⟨k, rfl, -⟩ := h
  constructor
  · rintro ⟨k', heq, hk'⟩ ⟨k'', heq', hk''⟩
    obtain ⟨-, rfl⟩ := signed.inj heq
    obtain ⟨-, rfl⟩ := signed.inj heq'
    omega
  · intro hno
    exact ⟨k, rfl, by_contra fun hk => hno ⟨k, rfl, by omega⟩⟩

theorem UpTo.mul (hx : x.UpTo i) (hy : y.UpTo j) (hi : i < infinityIndex) (hj : j < infinityIndex) :
    (x * y).UpTo (nearest (units i * units j) (twoTo 1074)) := by
  obtain ⟨k, rfl, hk⟩ := hx
  obtain ⟨l, rfl, hl⟩ := hy
  have hfinite : ¬ (k.val = infinityIndex ∨ l.val = infinityIndex) := by omega
  refine ⟨⟨_, nearest_lt (units k * units l) (twoTo 1074)⟩, ?_, ?_⟩
  · show mul _ _ = _
    rw [mul, if_neg hfinite]
    rfl
  · exact nearest_mono (Nat.mul_le_mul (units_mono hk) (units_mono hl)) _

theorem From.mul (hx : x.From i) (hy : y.From j) (hi : 0 < i) (hj : 0 < j) :
    (x * y).From (nearest (units i * units j) (twoTo 1074)) := by
  obtain ⟨k, rfl, hk⟩ := hx
  obtain ⟨l, rfl, hl⟩ := hy
  have hzero : ¬ (k.val = 0 ∨ l.val = 0) := by omega
  show (Binary64.mul _ _).From _
  rw [Binary64.mul]
  by_cases hinfinite : k.val = infinityIndex ∨ l.val = infinityIndex
  · rw [if_pos hinfinite, if_neg hzero]
    exact ⟨_, rfl, Nat.min_le_left _ _⟩
  · rw [if_neg hinfinite]
    exact ⟨_, rfl, nearest_mono (Nat.mul_le_mul (units_mono hk) (units_mono hl)) _⟩

theorem UpTo.add (hx : x.UpTo i) (hy : y.UpTo j) (hi : i < infinityIndex) (hj : j < infinityIndex) :
    (x + y).UpTo (nearest (units i + units j) 1) := by
  obtain ⟨k, rfl, hk⟩ := hx
  obtain ⟨l, rfl, hl⟩ := hy
  refine ⟨⟨_, nearest_lt (units k + units l) 1⟩, ?_, ?_⟩
  · show add _ _ = _
    rw [add, if_neg (by omega), if_neg (by omega), if_pos rfl]
    rfl
  · exact nearest_mono (Nat.add_le_add (units_mono hk) (units_mono hl)) _

theorem From.add (hx : x.From i) (hy : y.From j) : (x + y).From (nearest (units i + units j) 1) := by
  obtain ⟨k, rfl, hk⟩ := hx
  obtain ⟨l, rfl, hl⟩ := hy
  show (Binary64.add _ _).From _
  rw [Binary64.add]
  by_cases hinfinite : k.val = infinityIndex ∨ l.val = infinityIndex
  · rcases hinfinite with hk' | hl'
    · rw [if_pos hk', if_neg (by simp)]
      exact ⟨_, rfl, Nat.min_le_left _ _⟩
    · rw [if_pos hl']
      simp only [ne_eq, not_true_eq_false, and_false, if_false, ite_self]
      exact ⟨_, rfl, Nat.min_le_left _ _⟩
  · rw [if_neg (by omega), if_neg (by omega), if_pos rfl]
    exact ⟨_, rfl, nearest_mono (Nat.add_le_add (units_mono hk) (units_mono hl)) _⟩

theorem UpTo.div (hx : x.UpTo i) (hi : i < infinityIndex) {k : Fin 0x7ff0000000000001} (hk : 0 < k.val)
    (hfinite : k.val < infinityIndex) :
    (x / signed false k).UpTo (nearest (units i * twoTo 1074) (units k)) := by
  obtain ⟨l, rfl, hl⟩ := hx
  refine ⟨⟨_, nearest_lt (units l * twoTo 1074) (units k)⟩, ?_, ?_⟩
  · show div _ _ = _
    rw [div, if_neg (by omega), if_neg (by omega), if_neg (by omega)]
    rfl
  · exact nearest_mono (Nat.mul_le_mul_right _ (units_mono hl)) _

/-- The smaller of two numbers is bounded by the second, even where the first is no number. -/
theorem UpTo.min (hx : x = nan ∨ x.From 0) (hy : y.UpTo limit) : (x.min y).UpTo limit := by
  rcases hx with rfl | ⟨k, rfl, -⟩
  · exact hy
  · obtain ⟨l, rfl, hl⟩ := hy
    show UpTo limit (if lt (signed false k) (signed false l) = true then _ else _)
    split
    case isTrue hless =>
      have hkl : k.val < l.val := by simpa [lt, key] using hless
      exact ⟨k, rfl, by omega⟩
    case isFalse => exact ⟨l, rfl, hl⟩

/-- What is not below a positive number stands at its place or after it, or is no number. -/
theorem from_of_not_lt {k : Fin 0x7ff0000000000001} (hk : 0 < k.val)
    (h : x.lt (signed false k) = false) : x = nan ∨ x.From k.val := by
  cases x with
  | nan => exact .inl rfl
  | signed negative l =>
    refine .inr ?_
    cases negative with
    | true =>
      simp only [lt, key, if_true, decide_eq_false_iff_not] at h
      exact absurd (by simp; omega) h
    | false => exact ⟨l, rfl, by simpa [lt, key] using h⟩

theorem one_eq : (1 : Binary64) = signed false ⟨0x3ff0000000000000, by decide⟩ := by decide +kernel

/-- A product of a number that is not negative and one that is not below one is no number, or is not
negative. -/
theorem From.mul_of_ge_one (hx : x.From 0) (hy : y.lt 1 = false) : x * y = nan ∨ (x * y).From 0 := by
  obtain ⟨k, rfl, -⟩ := hx
  rw [one_eq] at hy
  rcases from_of_not_lt (by decide) hy with rfl | ⟨l, rfl, -⟩
  · exact .inl rfl
  · show Binary64.mul _ _ = nan ∨ (Binary64.mul _ _).From 0
    rw [Binary64.mul]
    split
    · split
      · exact .inl rfl
      · exact .inr ⟨_, rfl, Nat.zero_le _⟩
    · exact .inr ⟨_, rfl, Nat.zero_le _⟩

/-! ## 5. Naturals -/

/-- The place nearest to a natural. -/
def placeOf (n : Nat) : Nat := nearest (n * twoTo 1074) 1

/-- A natural that a double has as it is. -/
def Kept (n : Nat) : Prop := units (placeOf n) = n * twoTo 1074

instance (n : Nat) : Decidable (Kept n) := inferInstanceAs (Decidable (_ = _))

theorem placeOf_mono {m n : Nat} (h : m ≤ n) : placeOf m ≤ placeOf n :=
  nearest_mono (Nat.mul_le_mul_right _ h) 1

theorem upTo_ofNat {m n : Nat} (h : m ≤ n) : (ofNat m).UpTo (placeOf n) :=
  ⟨_, rfl, placeOf_mono h⟩

theorem from_ofNat {m n : Nat} (h : m ≤ n) : (ofNat n).From (placeOf m) :=
  ⟨_, rfl, placeOf_mono h⟩

/-- A number that is not negative is either below a natural or at least as large, and its place tells
which. -/
theorem From.lt_ofNat (h : x.From 0) (n : Nat) : x.lt (ofNat n) = false ↔ x.From (placeOf n) := by
  obtain ⟨k, rfl, -⟩ := h
  have hlt : lt (signed false k) (ofNat n) = decide ((k.val : Int) < (placeOf n : Int)) := rfl
  rw [hlt, decide_eq_false_iff_not, Int.ofNat_lt, Nat.not_lt]
  refine ⟨fun hle => ⟨k, rfl, hle⟩, ?_⟩
  rintro ⟨k', heq, hle⟩
  obtain ⟨-, rfl⟩ := signed.inj heq
  exact hle

end Binary64

end Teardown
