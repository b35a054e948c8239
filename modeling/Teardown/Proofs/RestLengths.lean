/-
# Rests that are not empty

A wait ends because every rest takes some time.  The delays of accepted settings do: the first one
is not zero, they never shrink, and the longest is not shorter than the first.  But a delay is
computed with doubles, and a rest with jitter is half a delay or more, so this is a matter of
rounding (`WaitSettings.Within.resting`).

The bound is the number of seconds that a double has for a nanosecond.  It is a little more than
the nanosecond, so half of it is rounded up to a nanosecond again (`nanos_of_half`).  Without that
a delay of one nanosecond and a factor of a half would make an empty rest, and a wait might ask
again and again at one moment.

* §1  the delays and the rests of a wait, one after the other.  `Resting` says that all of them
      have a length, and that none is zero.
* §2  bounds from below, for a quotient and for the smaller of two numbers.
* §3  the two places that matter are computed once (`NanoPlaces`).
* §4  no rest of accepted settings is empty, and none is missing unless it is scaled and too long
      for a duration (`WaitSettings.resting_of_validate`).

That every rest of some settings has a length at all, whatever the factors are, is settled in
`Teardown.Proofs.LastingWaits`.
-/
import Teardown.Proofs.LastingWaits

namespace Teardown

open Binary64

/-! ## 1. Rests one after the other -/

namespace WaitSettings

variable (settings : WaitSettings)

/-- The delay after so many others. -/
def delayAt : Nat → Except Duration.Overflow Duration
  | 0 => .ok settings.initialDelay
  | n + 1 =>
    match delayAt n with
    | .ok delay => settings.nextDelay delay
    | .error cause => .error cause

/-- The length of the rest after so many others, before it is cut to what is left of the time. -/
def restAt (factor : Nat → Binary64) (n : Nat) : Except Duration.Overflow Duration :=
  match settings.delayAt n with
  | .ok delay => settings.scaled (factor n) delay
  | .error cause => .error cause

/-- All rests have a length, and none has the length zero. -/
def Resting (factor : Nat → Binary64) : Prop :=
  ∀ n, ∃ rest, settings.restAt factor n = .ok rest ∧ rest.nanos ≠ 0

variable {settings}

/-- Where all rests have a length, so have all delays. -/
theorem Resting.delay {factor : Nat → Binary64} (h : settings.Resting factor) (n : Nat) :
    ∃ delay, settings.delayAt n = .ok delay := by
  obtain ⟨rest, hrest, -⟩ := h n
  cases hdelay : settings.delayAt n with
  | ok delay => exact ⟨delay, rfl⟩
  | error cause =>
    rw [restAt, hdelay] at hrest
    exact absurd hrest (by simp)

end WaitSettings

/-! ## 2. Bounds from below -/

namespace Binary64

variable {x y : Binary64} {i : Nat}

/-- A bound from below, for a quotient by a number other than zero. -/
theorem From.div (hx : x.From i) {k : Fin 0x7ff0000000000001} (hk : 0 < k.val)
    (hfinite : k.val < infinityIndex) :
    (x / signed false k).From (nearest (units i * twoTo 1074) (units k)) := by
  obtain ⟨l, rfl, hl⟩ := hx
  show (Binary64.div _ _).From _
  rw [Binary64.div]
  by_cases hinfinite : l.val = infinityIndex
  · rw [if_pos hinfinite, if_neg (by omega)]
    exact ⟨_, rfl, Nat.min_le_left _ _⟩
  · rw [if_neg hinfinite, if_neg (by omega), if_neg (by omega)]
    exact ⟨_, rfl, nearest_mono (Nat.mul_le_mul_right _ (units_mono hl)) _⟩

theorem From.min (hx : x = nan ∨ x.From i) (hy : y.From i) : (x.min y).From i := by
  rcases hx with rfl | ⟨k, rfl, hk⟩
  · exact hy
  · obtain ⟨l, rfl, hl⟩ := hy
    show From i (if lt (signed false k) (signed false l) = true then _ else _)
    split
    case isTrue => exact ⟨k, rfl, hk⟩
    case isFalse => exact ⟨l, rfl, hl⟩

end Binary64

/-! ## 3. A nanosecond -/

/-- The place of the seconds of a nanosecond. -/
def nanoPlace : Nat := nearest (units (placeOf 1) * twoTo 1074) (units (placeOf nanosPerSecond))

/-- The place of half of that. -/
def halfPlace : Nat := nearest (units nanoPlace * units 0x3fe0000000000000) (twoTo 1074)

/-- What the computations with these places come to. -/
structure NanoPlaces : Prop where
  positive : 0 < nanoPlace
  small : nanoPlace ≤ placeOf 1
  alone : nearest (units (placeOf 0) + units nanoPlace) 1 = nanoPlace
  once : nearest (units nanoPlace * units 0x3ff0000000000000) (twoTo 1074) = nanoPlace
  half : halfPlace ≤ nanoPlace
  enough : 1 ≤ Duration.nanosOfUnits (units halfPlace)
  second : 0 < placeOf nanosPerSecond
  kept : Kept 1
  one : (1 : Binary64) = signed false ⟨0x3ff0000000000000, by decide⟩
  oneHalf : ofRatio false 1 2 = signed false ⟨0x3fe0000000000000, by decide⟩

instance : Decidable NanoPlaces :=
  decidable_of_iff (_ ∧ _ ∧ _ ∧ _ ∧ _ ∧ _ ∧ _ ∧ _ ∧ _ ∧ _)
    ⟨fun ⟨positive, small, alone, once, half, enough, second, kept, one, oneHalf⟩ =>
      ⟨positive, small, alone, once, half, enough, second, kept, one, oneHalf⟩,
    fun h => ⟨h.positive, h.small, h.alone, h.once, h.half, h.enough, h.second, h.kept, h.one,
      h.oneHalf⟩⟩

theorem nanoPlaces : NanoPlaces := by decide +kernel

namespace Duration

variable {d : Duration}

/-- A duration that is not zero is a nanosecond or more, also in doubles. -/
theorem toSeconds_from_nano (h : d.nanos ≠ 0) : d.toSeconds.From nanoPlace := by
  have hfinite : placeOf nanosPerSecond < infinityIndex := placeOf_lt_infinity (by decide)
  by_cases hwhole : d.seconds = 0
  · have hpart : 1 ≤ d.subsecond := by
      have hdivided := Nat.div_add_mod d.nanos nanosPerSecond
      rw [seconds] at hwhole
      rw [hwhole] at hdivided
      rw [subsecond]
      omega
    have hquotient := (from_ofNat hpart).div (k := ⟨placeOf nanosPerSecond, nearest_lt _ _⟩)
      nanoPlaces.second hfinite
    have hnano : nearest (units (placeOf 1) * twoTo 1074) (units (placeOf nanosPerSecond)) =
        nanoPlace := rfl
    rw [hnano] at hquotient
    have hsum := (from_ofNat (Nat.zero_le d.seconds)).add hquotient
    rwa [nanoPlaces.alone] at hsum
  · exact (toSeconds_from nanoPlaces.kept (Nat.one_le_iff_ne_zero.2 hwhole)).mono nanoPlaces.small

/-- **Half a nanosecond**, or more, is rounded to no less than a nanosecond. -/
theorem nanos_of_half {x : Binary64} (hx : x.From halfPlace)
    (h : ofSeconds x = .ok d) : d.nanos ≠ 0 := by
  obtain ⟨k, rfl, hk⟩ := hx
  rw [ofSeconds, if_neg (by simp)] at h
  split at h
  case isTrue => exact absurd h (by simp)
  case isFalse =>
    obtain rfl := Except.ok.inj h
    have hone : 1 ≤ nanosOfUnits (units halfPlace) := nanoPlaces.enough
    have hmore : nanosOfUnits (units halfPlace) ≤ nanosOfUnits (units k) :=
      roundHalfEven_mono (Nat.mul_le_mul_right nanosPerSecond (units_mono hk)) (twoTo 1074)
    generalize nanosOfUnits (units halfPlace) = least at hone hmore
    generalize nanosOfUnits (units k) = nanos at hmore ⊢
    exact Nat.one_le_iff_ne_zero.1 (hone.trans hmore)

end Duration

open Duration

/-! ## 4. Rests of accepted settings -/

namespace WaitSettings

variable {w : WaitSettings} {delay next rest : Duration} {factor : Binary64} {n : Nat}

/-- **The next delay** is not zero if the one before is not, and the longest is not. -/
theorem nextDelay_ne_zero (hgrows : w.multiplier.lt 1 = false) (hends : w.maxDelay.nanos ≠ 0)
    (hdelay : delay.nanos ≠ 0) (h : w.nextDelay delay = .ok next) : next.nanos ≠ 0 := by
  have hproduct : delay.toSeconds * w.multiplier = nan ∨
      (delay.toSeconds * w.multiplier).From nanoPlace := by
    rw [nanoPlaces.one] at hgrows
    rcases from_of_not_lt (by decide) hgrows with hnan | hfrom
    · left
      rw [hnan]
      obtain ⟨k, hk, -⟩ := toSeconds_from_nano hdelay
      rw [hk]
      rfl
    · right
      have hfrom : w.multiplier.From 0x3ff0000000000000 := hfrom
      have hproduct := (toSeconds_from_nano hdelay).mul hfrom nanoPlaces.positive (by decide)
      rwa [nanoPlaces.once] at hproduct
  have hsmaller := From.min hproduct (toSeconds_from_nano hends)
  exact nanos_of_half (hsmaller.mono nanoPlaces.half) h

theorem IsJitter.from_half (h : IsJitter factor) : factor.From 0x3fe0000000000000 := by
  obtain ⟨hlow, hhigh⟩ := h
  rw [nanoPlaces.oneHalf] at hlow
  rcases from_of_not_lt (by decide) hlow with rfl | hfrom
  · exact absurd hhigh (by simp [lt])
  · exact hfrom

theorem scaled_ne_zero (hfactor : IsJitter factor) (hdelay : delay.nanos ≠ 0)
    (h : w.scaled factor delay = .ok rest) : rest.nanos ≠ 0 := by
  rw [scaled] at h
  split at h
  case isTrue =>
    exact nanos_of_half ((toSeconds_from_nano hdelay).mul hfactor.from_half nanoPlaces.positive
      (by decide)) h
  case isFalse =>
    obtain rfl := Except.ok.inj h
    exact hdelay

theorem Within.delayAt (h : w.Within n) (hstarts : w.initialDelay.nanos ≠ 0)
    (hends : w.maxDelay.nanos ≠ 0) (k : Nat) :
    ∃ delay, w.delayAt k = .ok delay ∧ delay.seconds ≤ n ∧ delay.nanos ≠ 0 := by
  induction k with
  | zero => exact ⟨w.initialDelay, rfl, h.starts, hstarts⟩
  | succ k ih =>
    obtain ⟨delay, hdelay, -, hlong⟩ := ih
    obtain ⟨next, hnext, hbound⟩ := nextDelay_ok h.grows h.firm h.ends delay
    refine ⟨next, ?_, hbound, nextDelay_ne_zero h.grows hends hlong hnext⟩
    rw [WaitSettings.delayAt, hdelay]
    exact hnext

/-- **The rests of settings that are within a bound** are not empty, whatever the factors of the jitter
are. -/
theorem Within.resting (h : w.Within n) (hstarts : w.initialDelay.nanos ≠ 0)
    (hends : w.maxDelay.nanos ≠ 0) {factor : Nat → Binary64} (hfactor : ∀ k, IsJitter (factor k)) :
    w.Resting factor := by
  intro k
  obtain ⟨delay, hdelay, hbound, hlong⟩ := h.delayAt hstarts hends k
  obtain ⟨rest, hrest⟩ := h.scaled_ok (hfactor k) hbound
  refine ⟨rest, ?_, scaled_ne_zero (hfactor k) hlong hrest⟩
  rw [restAt, hdelay]
  exact hrest

/-- **What validation is for**: where a wait is accepted, no rest is empty, and none is missing unless it is
scaled and too long for it. -/
theorem resting_of_validate (h : w.validate = .ok ()) (hends : w.maxDelay.seconds ≤ longestSeconds)
    (hlong : w.jitter = true → w.maxDelay.seconds ≤ longestScaled) {factor : Nat → Binary64}
    (hfactor : ∀ k, IsJitter (factor k)) : w.Resting factor := by
  have haccepted := accepted_of_validate h hends
  obtain ⟨n, hwithin⟩ := haccepted.within hlong
  obtain ⟨-, hstarts, -⟩ := validate_ok_iff.1 h
  have hlast : w.initialDelay.nanos ≤ w.maxDelay.nanos := haccepted.starts
  exact hwithin.resting hstarts (by omega) hfactor

end WaitSettings

end Teardown
