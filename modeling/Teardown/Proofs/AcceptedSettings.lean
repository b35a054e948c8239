/-
# Settings that are accepted, and settings that break off

A settings file may give any numbers as lengths of time.  Loading settings then ends in one of
three ways.  They are accepted, and what the waits rely on holds of them (`Accepted`); there is a
fault; or the run breaks off.

The last is not meant to happen: a length of time is refused unless it is finite and not negative,
which keeps all but one kind of number away from the conversion.  That kind is left: a number that
is finite but not below 2^64 (`readDuration_overflow_iff`).

* §1  A number of seconds breaks a reading off exactly if it is of that kind, and one that is read
      gives a duration that is no longer than the longest duration of a double
      (`seconds_of_readDuration`).
* §2  A file breaks off only over a number that it gives (`Settings.ofFile_panic`).  The readers
      of a document are not unfolded for that: `Yaml.accounted_read` says of any reading what its
      complaints come from and which durations it holds.
* §3  The layers above the file.  The environment changes nothing of a wait but its timeout, and
      validation comes after it.  Main facts: `Settings.load_panic`, a run breaks off over its
      settings only if their file gives such a number; and `Settings.load_accepted`.

Of a multiplier nothing more is known than that it is not smaller than one, which leaves out the
value that is no number; whoever needs more has to ask for it.
-/
import Teardown.Program
import Teardown.Proofs.GivenFields
import Teardown.Proofs.Pauses

namespace Teardown

open Binary64

/-! ## 1. Numbers that are read as durations -/

/-- What is finite and not below zero is zero with a sign, or has no sign. -/
theorem Binary64.from_zero_or {x : Binary64} (hfinite : x.isFinite = true) (hlow : x.lt 0 = false) :
    x = zero true ∨ x.From 0 := by
  have hzero : (0 : Binary64) = zero false := by decide +kernel
  rw [hzero] at hlow
  cases x with
  | nan => exact absurd hfinite (by simp [isFinite])
  | signed negative k =>
    cases negative with
    | false => exact .inr ⟨k, rfl, Nat.zero_le _⟩
    | true =>
      simp only [lt, zero, key, if_true, decide_eq_false_iff_not] at hlow
      have hk : k.val = 0 := by simp at hlow; omega
      exact .inl (congrArg _ (Fin.ext hk))

theorem ofSeconds_zero : Duration.ofSeconds (zero true) = .ok ⟨0⟩ := by decide +kernel

theorem Binary64.from_of_large {x : Binary64} (hfinite : x.isFinite = true)
    (hlarge : x.lt (ofNat wordBound) = false) : x.From (placeOf wordBound) := by
  have hpos : 0 < placeOf wordBound := by decide +kernel
  rcases from_of_not_lt (k := ⟨placeOf wordBound, nearest_lt _ _⟩) hpos hlarge with rfl | hfrom
  · exact absurd hfinite (by simp [isFinite])
  · exact hfrom

/-- **Which numbers of seconds break a reading off**: those that are finite and not below 2^64. -/
theorem readDuration_overflow_iff {x : Binary64} {cause : Duration.Overflow} :
    readDuration x = .error (.overflow cause) ↔
      cause = .tooBig ∧ x.isFinite = true ∧ x.lt (ofNat wordBound) = false := by
  constructor
  · intro h
    simp only [readDuration] at h
    split at h
    case isTrue => exact absurd h (by simp [Complaint.badDuration])
    case isFalse hgood =>
      obtain ⟨hfinite, hlow⟩ : x.isFinite = true ∧ x.lt 0 = false := by simpa using hgood
      split at h
      case h_1 => exact absurd h (by simp)
      case h_2 hseconds =>
        obtain rfl := Complaint.overflow.inj (Except.error.inj h)
        rcases from_zero_or hfinite hlow with rfl | hfrom
        · rw [ofSeconds_zero] at hseconds
          exact absurd hseconds (by simp)
        · obtain ⟨hcause, hlarge⟩ := (Duration.ofSeconds_error_iff hfrom _).1 hseconds
          exact ⟨hcause, hfinite, hlarge⟩
  · rintro ⟨rfl, hfinite, hlarge⟩
    have hfrom := from_of_large hfinite hlarge
    have hlow : x.lt 0 = false := by
      have hzero : (0 : Binary64) = ofNat 0 := rfl
      rw [hzero, (hfrom.mono (Nat.zero_le _)).lt_ofNat]
      exact hfrom.mono (placeOf_mono (Nat.zero_le _))
    simp only [readDuration, hfinite, hlow]
    rw [Duration.ofSeconds_tooBig hfrom]
    rfl

/-- What is read as a duration is never longer than the longest duration of a double. -/
theorem seconds_of_readDuration {x : Binary64} {d : Duration}
    (h : readDuration x = .ok (.duration d)) : d.seconds ≤ Duration.longestSeconds := by
  simp only [readDuration] at h
  split at h
  case isTrue => exact absurd h (by simp)
  case isFalse hgood =>
    obtain ⟨hfinite, hlow⟩ : x.isFinite = true ∧ x.lt 0 = false := by simpa using hgood
    split at h
    case h_2 => exact absurd h (by simp)
    case h_1 hseconds =>
      obtain rfl := Datum.duration.inj (Except.ok.inj h)
      rcases from_zero_or hfinite hlow with rfl | hfrom
      · rw [ofSeconds_zero] at hseconds
        obtain rfl := Except.ok.inj hseconds
        decide
      · exact Duration.seconds_le_longest hfrom hseconds

/-! ## 2. Files -/

/-- The only document of a text is accounted for like its root. -/
theorem Yaml.accounted_read (schema : Schema) (text : List Char) :
    Accounted (Yaml.Gives (Tree.ofText text) schema (Tree.ofText text).root)
      (Yaml.read schema text) := by
  rw [Yaml.read]
  refine Ends.bind (accounted_readNode _ _ _) fun datum hdatum => ?_
  split
  · exact hdatum
  · intro cause hcause
    exact absurd hcause (by simp)

theorem Settings.maxDelay_ofDatum (datum : Datum) :
    (Settings.ofDatum datum).wait.maxDelay = WaitSettings.standard.maxDelay ∨
      datum.Holds (Settings.ofDatum datum).wait.maxDelay := by
  cases hwait : datum.field? "wait" with
  | none =>
    refine .inl ?_
    simp [Settings.ofDatum, hwait]
  | some part =>
    have hpart : (Settings.ofDatum datum).wait = WaitSettings.ofDatum part := by
      simp [Settings.ofDatum, hwait]
    rw [hpart]
    cases hdelay : (part.field? "max_delay").bind Datum.duration? with
    | none =>
      refine .inl ?_
      simp [WaitSettings.ofDatum, hdelay]
    | some d =>
      have hmax : (WaitSettings.ofDatum part).maxDelay = d := by
        simp [WaitSettings.ofDatum, hdelay]
      obtain ⟨inner, hinner, hd⟩ := Option.bind_eq_some_iff.1 hdelay
      rw [hmax]
      exact .inr (((Datum.holds_of_duration? hd).of_field? hinner).of_field? hwait)

/-- `Settings.Gives files path x`: the settings file, if one is named, gives the number `x` as a length
of time. -/
def Settings.Gives (files : Files) (path : Option String) (x : Binary64) : Prop :=
  ∃ name text, path = some name ∧ files.text name = .ok text ∧
    Yaml.Gives (Yaml.Tree.ofText text.toList) Settings.schema (Yaml.Tree.ofText text.toList).root x

/-- What is known of the settings of a text, or of the number over which their reading breaks off. -/
theorem Settings.ends_ofText (text : String) :
    Ends (fun settings : Settings => settings.wait.maxDelay.seconds ≤ Duration.longestSeconds)
      (Stops (Yaml.Gives (Yaml.Tree.ofText text.toList) Settings.schema
        (Yaml.Tree.ofText text.toList).root)) (Settings.ofText text) := by
  refine (Yaml.accounted_read Settings.schema text.toList).map fun datum hdatum => ?_
  rcases Settings.maxDelay_ofDatum datum with hstandard | hholds
  · rw [hstandard]
    decide
  · obtain ⟨x, -, hread⟩ := hdatum _ hholds
    exact seconds_of_readDuration hread

section File

variable {files : Files} {name : String}

/-- A file breaks off only over a number that it gives. -/
theorem Settings.ofFile_panic {text : Option String} (h : Settings.ofFile files name = .panic text) :
    ∃ x, Settings.Gives files (some name) x ∧ x.isFinite = true ∧ x.lt (ofNat wordBound) = false := by
  rw [Settings.ofFile] at h
  split at h
  case h_1 => exact absurd h (by simp)
  case h_2 contents hcontents =>
    have hends := Settings.ends_ofText contents
    cases hread : Settings.ofText contents with
    | ok settings =>
      rw [hread] at h
      exact absurd h (by simp)
    | error complaint =>
      rw [hread] at h hends
      cases complaint with
      | overflow cause =>
        obtain ⟨x, hx, hoverflow⟩ := hends cause rfl
        obtain ⟨-, hfinite, hlarge⟩ := readDuration_overflow_iff.1 hoverflow
        exact ⟨x, ⟨name, contents, rfl, hcontents, hx⟩, hfinite, hlarge⟩
      | _ => exact absurd h (by simp)

theorem Settings.ofFile_ok {settings : Settings} (h : Settings.ofFile files name = .ok settings) :
    settings.wait.maxDelay.seconds ≤ Duration.longestSeconds := by
  rw [Settings.ofFile] at h
  split at h
  case h_1 => exact absurd h (by simp)
  case h_2 contents hcontents =>
    have hends := Settings.ends_ofText contents
    cases hread : Settings.ofText contents with
    | ok settings' =>
      rw [hread] at h hends
      obtain rfl := Outcome.ok.inj h
      exact hends
    | error complaint =>
      rw [hread] at h
      cases complaint <;> exact absurd h (by simp [Outcome.overflow])

end File

/-! ## 3. Layers -/

/-- What the waits rely on: there is time, the first delay is no longer than the longest, the delays do
not shrink, and the longest is one that a double gives. -/
structure WaitSettings.Accepted (w : WaitSettings) : Prop where
  isTimed : w.timeout.nanos ≠ 0
  starts : w.initialDelay ≤ w.maxDelay
  grows : w.multiplier.lt 1 = false
  ends : w.maxDelay.seconds ≤ Duration.longestSeconds

/-- What is valid: a wait to which none of the objections applies. -/
theorem WaitSettings.validate_ok_iff {w : WaitSettings} : w.validate = .ok () ↔
    w.timeout.nanos ≠ 0 ∧ w.initialDelay.nanos ≠ 0 ∧ w.initialDelay ≤ w.maxDelay ∧
      w.multiplier.lt 1 = false := by
  have hlonger : w.initialDelay ≤ w.maxDelay ↔ ¬ w.maxDelay < w.initialDelay := Nat.not_lt.symm
  rw [hlonger, WaitSettings.validate]
  constructor
  · intro h
    split at h
    case isTrue => exact absurd h (by simp)
    case isFalse htimed =>
      split at h
      case isTrue => exact absurd h (by simp)
      case isFalse hbegins =>
        split at h
        case isTrue => exact absurd h (by simp)
        case isFalse hstarts =>
          split at h
          case isTrue => exact absurd h (by simp)
          case isFalse hgrows => exact ⟨htimed, hbegins, hstarts, by simpa using hgrows⟩
  · rintro ⟨htimed, hbegins, hstarts, hgrows⟩
    rw [if_neg htimed, if_neg hbegins, if_neg hstarts, if_neg (by simp [hgrows])]

/-- What validation leaves. -/
theorem WaitSettings.accepted_of_validate {w : WaitSettings} (h : w.validate = .ok ())
    (hends : w.maxDelay.seconds ≤ Duration.longestSeconds) : w.Accepted := by
  obtain ⟨htimed, -, hstarts, hgrows⟩ := WaitSettings.validate_ok_iff.1 h
  exact ⟨htimed, hstarts, hgrows, hends⟩

/-- The environment changes nothing of a wait but its timeout, and what it leaves is validated. -/
theorem Settings.resolve_ok {file settings : Settings} {environment : Environment}
    (h : file.resolve environment = .ok settings) :
    settings.wait.validate = .ok () ∧ ∃ timeout, settings.wait = { file.wait with timeout } := by
  have htimeout : ∀ {s s' : Settings} {value : Option String}, s.overrideTimeout value = .ok s' →
      ∃ timeout, s'.wait = { s.wait with timeout } := by
    intro s s' value hs
    cases value with
    | none => exact ⟨s.wait.timeout, by rw [← Except.ok.inj hs]⟩
    | some value =>
      rw [Settings.overrideTimeout] at hs
      split at hs
      case h_1 timeout _ => exact ⟨timeout, by rw [← Except.ok.inj hs]⟩
      case h_2 => exact absurd hs (by simp)
  have hformat : ∀ {s s' : Settings} {value : Option String}, s.overrideFormat value = .ok s' →
      s'.wait = s.wait := by
    intro s s' value hs
    cases value with
    | none => rw [← Except.ok.inj hs]
    | some value =>
      rw [Settings.overrideFormat] at hs
      cases hparse : LogFormat.parse value with
      | ok format =>
        rw [hparse] at hs
        rw [← Except.ok.inj hs]
      | error cause =>
        rw [hparse] at hs
        exact absurd hs (by simp [Except.map])
  rw [Settings.resolve] at h
  cases hfirst : file.overrideTimeout (environment.get? Settings.timeoutVariable) with
  | error cause =>
    rw [hfirst] at h
    exact absurd h (by simp [bind, Except.bind])
  | ok timed =>
    cases hsecond : timed.overrideFormat (environment.get? Settings.formatVariable) with
    | error cause =>
      simp only [hfirst, bind, Except.bind, hsecond] at h
      exact absurd h (by simp)
    | ok formatted =>
      cases hthird : formatted.wait.validate with
      | error cause =>
        simp only [hfirst, bind, Except.bind, hsecond, hthird] at h
        exact absurd h (by simp)
      | ok _ =>
        simp only [hfirst, bind, Except.bind, hsecond, hthird] at h
        obtain rfl := Except.ok.inj h
        obtain ⟨timeout, hwait⟩ := htimeout hfirst
        exact ⟨hthird, timeout, (hformat hsecond).trans hwait⟩

theorem Outcome.ofExcept_ne_panic {α : Type} (result : Except Fault α) (text : Option String) :
    Outcome.ofExcept result ≠ .panic text := by
  cases result <;> exact nofun

theorem eq_ok_of_toOption {ε α : Type} {result : Except ε α} {value : α}
    (h : result.toOption = some value) : result = .ok value := by
  cases result with
  | ok value' => exact congrArg _ (Option.some.inj h)
  | error cause => exact absurd h (by simp [Except.toOption])

theorem Problem.eq_ok_of_ofOutcome {α : Type} {outcome : Outcome α} {value : α}
    (h : Problem.ofOutcome outcome = .ok value) : outcome = .ok value := by
  cases outcome with
  | ok value' => exact congrArg _ (Except.ok.inj h)
  | fault cause => exact absurd h (by simp [Problem.ofOutcome])
  | panic text => exact absurd h (by simp [Problem.ofOutcome])

theorem Outcome.eq_ok_of_ofExcept {α : Type} {result : Except Fault α} {value : α}
    (h : Outcome.ofExcept result = .ok value) : result = .ok value := by
  cases result with
  | ok value' => exact congrArg _ (Outcome.ok.inj h)
  | error cause => exact nomatch h

section Load

variable {files : Files} {path : Option String} {environment : Environment}

/-- Settings that are loaded come of those below the overrides. -/
theorem Settings.load_ok {settings : Settings} (h : load files path environment = .ok settings) :
    ∃ file, OfFile files path file ∧ file.resolve environment = .ok settings := by
  cases path with
  | none => exact ⟨_, .standard, Outcome.eq_ok_of_ofExcept h⟩
  | some name =>
    cases hfile : Settings.ofFile files name with
    | ok file =>
      simp only [Settings.load, hfile] at h
      exact ⟨file, .read hfile, Outcome.eq_ok_of_ofExcept h⟩
    | fault cause =>
      simp only [Settings.load, hfile] at h
      exact absurd h (by simp)
    | panic text =>
      simp only [Settings.load, hfile] at h
      exact absurd h (by simp)

/-- **Loading breaks off only over a length of time** that the settings file gives, and that is finite and
not below 2^64 seconds. -/
theorem Settings.load_panic {text : Option String}
    (h : Settings.load files path environment = .panic text) :
    ∃ x, Settings.Gives files path x ∧ x.isFinite = true ∧ x.lt (ofNat wordBound) = false := by
  cases path with
  | none => exact absurd h (Outcome.ofExcept_ne_panic _ _)
  | some name =>
    cases hfile : Settings.ofFile files name with
    | ok settings =>
      simp only [Settings.load, hfile] at h
      exact absurd h (Outcome.ofExcept_ne_panic _ _)
    | fault cause =>
      simp only [Settings.load, hfile] at h
      exact absurd h (by simp)
    | panic text' => exact Settings.ofFile_panic hfile

/-- **Settings that are loaded** satisfy what the waits rely on. -/
theorem Settings.load_accepted {settings : Settings}
    (h : Settings.load files path environment = .ok settings) : settings.wait.Accepted := by
  obtain ⟨file, hfile, hresolve⟩ := Settings.load_ok h
  obtain ⟨hvalid, timeout, hwait⟩ := Settings.resolve_ok hresolve
  have hends : file.wait.maxDelay.seconds ≤ Duration.longestSeconds := by
    cases hfile with
    | standard => decide
    | read hread => exact Settings.ofFile_ok hread
  exact WaitSettings.accepted_of_validate hvalid (by rw [hwait]; exact hends)

end Load

end Teardown
