/-
# Pauses that have a duration

A pause is computed with doubles, and a double need not be the number of seconds of any duration.
Two computations of a wait end in one: the next delay, and a delay scaled by a factor.

The next delay is never the problem.  It is the smaller of a product and of the largest delay, so
it is bounded by the latter, whatever the delay before it was (`WaitSettings.nextDelay_ok`).  The
scaled delay is: the factors go up to three halves, and three halves of a duration need not be
one.  There is a factor that leaves no duration exactly if the delay exceeds `longestScaled`
seconds, about two thirds of the longest duration (`WaitSettings.scaled_overflows_iff`).

The bounds are natural numbers of seconds that a double has as they are, and that a further
fraction of a second does not change (`Firm`); so nothing is lost on the way from a duration to
its seconds and back.

* §1  seconds of a duration against bounds of that kind, from above and from below.
* §2  the largest such numbers, with and without a factor.  Both are closed terms, and that they
      are firm is computed.
* §3, §4  the next delay, and scaled delays.

All comparisons are between places of magnitudes, which are naturals; no real number occurs.
-/
import Teardown.Proofs.Rounding
import Teardown.Settings.Wait

namespace Teardown

open Binary64

/-! ## 1. Seconds that a double has as they are -/

/-- A number of seconds that a double has as it is, and to which one second more is rounded back. -/
structure Firm (n : Nat) : Prop where
  kept : Kept n
  still : placeOf (n + 1) = placeOf n
  fits : n < wordBound

instance (n : Nat) : Decidable (Firm n) :=
  decidable_of_iff (Kept n ∧ placeOf (n + 1) = placeOf n ∧ n < wordBound)
    ⟨fun ⟨kept, still, fits⟩ => ⟨kept, still, fits⟩, fun h => ⟨h.kept, h.still, h.fits⟩⟩

theorem placeOf_lt_infinity {n : Nat} (h : n ≤ wordBound) : placeOf n < infinityIndex :=
  calc placeOf n ≤ placeOf wordBound := placeOf_mono h
    _ < infinityIndex := by decide +kernel

namespace Duration

variable {d : Duration} {n : Nat}

theorem fraction_upTo (d : Duration) :
    (ofNat d.subsecond / ofNat nanosPerSecond).UpTo (placeOf 1) := by
  have hpart : d.subsecond ≤ nanosPerSecond := (Nat.mod_lt _ (by decide)).le
  have hone : nearest (units (placeOf nanosPerSecond) * twoTo 1074)
      (units (placeOf nanosPerSecond)) = placeOf 1 := by decide +kernel
  have hsecond : 0 < placeOf nanosPerSecond := by decide +kernel
  have hfinite : placeOf nanosPerSecond < infinityIndex := placeOf_lt_infinity (by decide)
  have hquotient := (upTo_ofNat hpart).div hfinite
    (k := ⟨placeOf nanosPerSecond, nearest_lt _ _⟩) hsecond hfinite
  rwa [hone] at hquotient

/-- The seconds of a duration, as a double, are not negative. -/
theorem toSeconds_from_zero (d : Duration) : d.toSeconds.From 0 := by
  obtain ⟨k, hk, -⟩ := d.fraction_upTo
  have hsum := (from_ofNat (Nat.zero_le d.seconds)).add ⟨k, hk, Nat.zero_le _⟩
  exact hsum.mono (Nat.zero_le _)

/-- **A bound from above** for the seconds of a duration. -/
theorem toSeconds_upTo (hn : Firm n) (h : d.seconds ≤ n) : d.toSeconds.UpTo (placeOf n) := by
  have hsum := (upTo_ofNat h).add d.fraction_upTo (placeOf_lt_infinity hn.fits.le)
    (placeOf_lt_infinity (by decide))
  have hone : units (placeOf 1) = twoTo 1074 := by decide +kernel
  have hplace : nearest (units (placeOf n) + units (placeOf 1)) 1 = placeOf (n + 1) := by
    rw [hn.kept, hone, placeOf, Nat.add_mul, Nat.one_mul]
  rwa [hplace, hn.still] at hsum

/-- **A bound from below** for the seconds of a duration. -/
theorem toSeconds_from (hn : Kept n) (h : n ≤ d.seconds) : d.toSeconds.From (placeOf n) := by
  obtain ⟨k, hk, -⟩ := d.fraction_upTo
  have hsum := (from_ofNat h).add ⟨k, hk, Nat.zero_le k.val⟩
  have hzero : units 0 = 0 := rfl
  rwa [hn, hzero, Nat.add_zero] at hsum

/-- A bounded number of seconds has a duration, within the same bound. -/
theorem ofSeconds_ok {x : Binary64} (hn : Kept n) (hfits : n < wordBound) (hx : x.UpTo (placeOf n)) :
    ∃ d, ofSeconds x = .ok d ∧ d.seconds ≤ n := by
  obtain ⟨k, rfl, hk⟩ := hx
  have hunits : units k ≤ n * twoTo 1074 := (units_mono hk).trans_eq hn
  have hword : ¬ wordBound * twoTo 1074 ≤ units k :=
    Nat.not_le.2 (hunits.trans_lt (Nat.mul_lt_mul_of_pos_right hfits (twoTo_pos 1074)))
  refine ⟨⟨nanosOfUnits (units k)⟩, ?_, ?_⟩
  · rw [ofSeconds, if_neg (by simp), if_neg hword]
  · have hnanos : nanosOfUnits (units k) ≤ n * nanosPerSecond := by
      refine roundHalfEven_le (twoTo_pos 1074) ?_
      rw [Nat.mul_right_comm]
      exact Nat.mul_le_mul_right _ hunits
    generalize nanosOfUnits (units k) = nanos at hnanos ⊢
    exact Nat.div_le_of_le_mul (hnanos.trans_eq (Nat.mul_comm _ _))

/-- Too large a number of seconds has no duration. -/
theorem ofSeconds_tooBig {x : Binary64} (hx : x.From (placeOf wordBound)) :
    ofSeconds x = .error .tooBig := by
  obtain ⟨k, rfl, hk⟩ := hx
  have hkept : Kept wordBound := by decide +kernel
  have hunits : wordBound * twoTo 1074 ≤ units k := hkept.symm.trans_le (units_mono hk)
  rw [ofSeconds, if_neg (by simp), if_pos hunits]

/-! ## 2. The longest durations -/

/-- The largest number of seconds below 2^64 that a double has. -/
def longestSeconds : Nat := 18446744073709549568

/-- The largest number of seconds of which every product with a jitter factor has a duration. -/
def longestScaled : Nat := 12297829382473033728

theorem longestSeconds_firm : Firm longestSeconds := by decide +kernel

theorem longestScaled_firm : Firm longestScaled := by decide +kernel

theorem placeOf_longestSeconds : placeOf longestSeconds + 1 = placeOf wordBound := by decide +kernel

/-- **Which numbers of seconds have a duration**, among those that are not negative. -/
theorem ofSeconds_error_iff {x : Binary64} (hx : x.From 0) (cause : Overflow) :
    ofSeconds x = .error cause ↔ cause = .tooBig ∧ x.lt (ofNat wordBound) = false := by
  rw [hx.lt_ofNat]
  constructor
  · intro herror
    by_cases hbig : x.From (placeOf wordBound)
    · rw [ofSeconds_tooBig hbig] at herror
      exact ⟨(Except.error.inj herror).symm, hbig⟩
    · rw [← placeOf_longestSeconds, ← hx.upTo_iff] at hbig
      obtain ⟨d, hd, -⟩ := ofSeconds_ok longestSeconds_firm.kept longestSeconds_firm.fits hbig
      rw [hd] at herror
      exact absurd herror (by simp)
  · rintro ⟨rfl, hbig⟩
    exact ofSeconds_tooBig hbig

theorem seconds_le_longest {x : Binary64} (hx : x.From 0) (h : ofSeconds x = .ok d) :
    d.seconds ≤ longestSeconds := by
  have hsmall : x.UpTo (placeOf longestSeconds) := by
    rw [hx.upTo_iff, placeOf_longestSeconds]
    intro hbig
    rw [ofSeconds_tooBig hbig] at h
    exact absurd h (by simp)
  obtain ⟨d', hd', hle⟩ := ofSeconds_ok longestSeconds_firm.kept longestSeconds_firm.fits hsmall
  obtain rfl := Except.ok.inj (h.symm.trans hd')
  exact hle

end Duration

open Duration

/-! ## 3. The next delay -/

namespace WaitSettings

variable {w : WaitSettings} {n : Nat}

/-- **The next delay** has a duration within the bound of the largest one, whatever the delay before it
was, if the delays do not shrink. -/
theorem nextDelay_ok (hgrows : w.multiplier.lt 1 = false) (hn : Firm n) (hmax : w.maxDelay.seconds ≤ n)
    (delay : Duration) : ∃ next, w.nextDelay delay = .ok next ∧ next.seconds ≤ n := by
  have hproduct := (toSeconds_from_zero delay).mul_of_ge_one hgrows
  exact ofSeconds_ok hn.kept hn.fits (UpTo.min hproduct (toSeconds_upTo hn hmax))

/-! ## 4. Scaled delays -/

/-- The factors of a jitter: from one half up to three halves, which they never reach. -/
def IsJitter (factor : Binary64) : Prop :=
  factor.lt (.ofRatio false 1 2) = false ∧ factor.lt .threeHalves = true

instance (factor : Binary64) : Decidable (IsJitter factor) := inferInstanceAs (Decidable (_ ∧ _))

def largestJitter : Nat := 0x3ff7ffffffffffff

theorem IsJitter.upTo {factor : Binary64} (h : IsJitter factor) : factor.UpTo largestJitter := by
  obtain ⟨hlow, hhigh⟩ := h
  have hhalf : ofRatio false 1 2 = signed false ⟨0x3fe0000000000000, by decide⟩ := by decide +kernel
  have hlimit : threeHalves = signed false ⟨0x3ff8000000000000, by decide⟩ := by decide +kernel
  rw [hhalf] at hlow
  rw [hlimit] at hhigh
  rcases from_of_not_lt (by decide) hlow with rfl | ⟨k, rfl, -⟩
  · exact absurd hhigh (by simp [lt])
  · have hk : (k.val : Int) < 0x3ff8000000000000 := by simpa [lt, key] using hhigh
    exact ⟨k, rfl, by rw [largestJitter]; omega⟩

/-- The largest factor of a jitter. -/
def largestFactor : Binary64 := .signed false ⟨largestJitter, by decide⟩

theorem largestFactor_isJitter : IsJitter largestFactor := by decide +kernel

theorem largestFactor_from : largestFactor.From largestJitter := ⟨_, rfl, Nat.le_refl _⟩

/-- A delay that is not scaled too far has a duration. -/
theorem scaled_ok {factor : Binary64} (hfactor : IsJitter factor) {delay : Duration}
    (h : w.jitter = true → delay.toSeconds.UpTo (placeOf longestScaled)) :
    ∃ length, w.scaled factor delay = .ok length := by
  rw [scaled]
  split
  case isTrue hjitter =>
    have hplaces : nearest (units (placeOf longestScaled) * units largestJitter) (twoTo 1074) ≤
        placeOf longestSeconds := by decide +kernel
    have hproduct := (h hjitter).mul hfactor.upTo
      (placeOf_lt_infinity longestScaled_firm.fits.le) (by decide)
    obtain ⟨length, hlength, -⟩ :=
      ofSeconds_ok longestSeconds_firm.kept longestSeconds_firm.fits (hproduct.mono hplaces)
    exact ⟨length, hlength⟩
  case isFalse => exact ⟨delay, rfl⟩

/-- A delay beyond the bound has no duration once it is scaled by the largest factor. -/
theorem scaled_tooBig (hjitter : w.jitter = true) {delay : Duration}
    (h : delay.toSeconds.From (placeOf longestScaled + 1)) :
    w.scaled largestFactor delay = .error .tooBig := by
  have hplaces : nearest (units (placeOf longestScaled + 1) * units largestJitter) (twoTo 1074) =
      placeOf wordBound := by decide +kernel
  have hproduct := h.mul largestFactor_from (by omega) (by decide)
  rw [hplaces] at hproduct
  rw [scaled, if_pos hjitter]
  exact ofSeconds_tooBig hproduct

theorem scaled_tooBig_of_seconds (hjitter : w.jitter = true) {delay : Duration}
    (h : longestScaled + 2048 ≤ delay.seconds) :
    w.scaled largestFactor delay = .error .tooBig := by
  have hnext : placeOf (longestScaled + 2048) = placeOf longestScaled + 1 := by decide +kernel
  have hkept : Kept (longestScaled + 2048) := by decide +kernel
  exact scaled_tooBig hjitter (hnext ▸ toSeconds_from hkept h)

/-- **Which delays can be scaled.**  A delay has some jitter factor that leaves it without a duration
exactly if its seconds exceed the bound. -/
theorem scaled_overflows_iff (hjitter : w.jitter = true) (delay : Duration) :
    (∃ factor cause, IsJitter factor ∧ w.scaled factor delay = .error cause) ↔
      ¬ delay.toSeconds.UpTo (placeOf longestScaled) := by
  constructor
  · rintro ⟨factor, cause, hfactor, herror⟩ hdelay
    obtain ⟨length, hlength⟩ := scaled_ok hfactor fun _ => hdelay
    rw [hlength] at herror
    exact absurd herror (by simp)
  · intro hdelay
    rw [(toSeconds_from_zero delay).upTo_iff, not_not] at hdelay
    exact ⟨_, .tooBig, largestFactor_isJitter, scaled_tooBig hjitter hdelay⟩

end WaitSettings

end Teardown
