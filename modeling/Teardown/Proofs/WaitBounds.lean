/-
# Bounds on accepted waits

What holds of the wait of settings that were accepted: there is time, there is a first pause, it
is no longer than the largest, and the pauses do not shrink.  The last is not meant to depend on
anything, but it does.  The multiplier is refused if it is smaller than one, and the value that is
no number is not smaller than anything; so it is accepted, and it is all that is accepted besides
the numbers from one on (`WaitSettings.valid_iff_bounded`).

* §1  a number of at least one, by its sign and its size.
* §2  what is valid, as bounds.
* §3  where a multiplier that is no number can come from.  The variables do not set it, so the
      settings file does, by one of the words for it (`WritesNan`).
* §4  settings that are loaded.

Main fact: `accepted_waits_bounded`.  The multiplier is a number of at least one unless the
settings file says at its place, in one of three spellings, that it is no number.  What such a
multiplier does to the delays is not said here; the next delay is then the longest one, since the
smaller of two numbers passes over what is no number.
-/
import Teardown.Proofs.AcceptedSettings

namespace Teardown

open Binary64

/-! ## 1. Numbers from one on -/

/-- The number is one or more: it has no sign, and its size is at least that of one. -/
def Binary64.IsOneOrMore (x : Binary64) : Prop := ∃ k, x = signed false k ∧ twoTo 1074 ≤ units k.val

/-- The numbers from one on are those that are not smaller than one. -/
theorem Binary64.isOneOrMore_iff {x : Binary64} : x.IsOneOrMore ↔ x ≠ nan ∧ x.lt 1 = false := by
  have hone : units 0x3ff0000000000000 = twoTo 1074 := by decide +kernel
  have hbelow : units 0x3fefffffffffffff < twoTo 1074 := by decide +kernel
  rw [one_eq]
  constructor
  · rintro ⟨k, rfl, hk⟩
    -- The place before that of one is smaller than one, and sizes grow with the places.
    have hplace : 0x3ff0000000000000 ≤ k.val := by
      by_contra hless
      have hunits := units_mono (show k.val ≤ 0x3fefffffffffffff by omega)
      omega
    refine ⟨by simp, ?_⟩
    simp only [lt, key, Bool.false_eq_true, if_false, decide_eq_false_iff_not]
    omega
  · rintro ⟨hnumber, hlt⟩
    obtain ⟨k, rfl, hk⟩ := (from_of_not_lt (by decide) hlt).resolve_left hnumber
    exact ⟨k, rfl, hone.symm.trans_le (units_mono hk)⟩

/-! ## 2. Validation -/

/-- **What is valid**: what the bounds say, except that the multiplier may be no number. -/
theorem WaitSettings.valid_iff_bounded {w : WaitSettings} : w.validate = .ok () ↔
    0 < w.timeout.nanos ∧ 0 < w.initialDelay.nanos ∧ w.initialDelay ≤ w.maxDelay ∧
      (w.multiplier = nan ∨ w.multiplier.IsOneOrMore) := by
  have hmultiplier : w.multiplier.lt 1 = false ↔ w.multiplier = nan ∨ w.multiplier.IsOneOrMore := by
    rw [isOneOrMore_iff]
    by_cases hnumber : w.multiplier = nan
    · simp [hnumber, lt]
    · simp [hnumber]
  rw [validate_ok_iff, hmultiplier, Nat.pos_iff_ne_zero, Nat.pos_iff_ne_zero]

/-! ## 3. Where a multiplier that is no number comes from -/

/-- The words for the value that is no number. -/
def nanWords : List String := [".nan", ".NaN", ".NAN"]

/-- The value that is no number is written as one of its words. -/
theorem Yaml.Plain.number?_eq_nan_iff {word : String} :
    Plain.number? word = some nan ↔ word ∈ nanWords := by
  constructor
  · intro h
    simp only [Plain.number?] at h
    split at h
    case isTrue => exact absurd h (by simp)
    split at h
    case isTrue => exact absurd h (by simp [infinity])
    split at h
    case isTrue => exact absurd h (by simp [infinity])
    split at h
    case isTrue hword => exact List.contains_iff_mem.1 hword
    split at h
    case isTrue => exact absurd h (by simp)
    case isFalse =>
      obtain ⟨-, hfinite⟩ := Option.filter_eq_some_iff.1 h
      exact absurd hfinite (by simp [isFinite])
  · intro h
    simp only [nanWords, List.mem_cons, List.not_mem_nil, or_false] at h
    rcases h with rfl | rfl | rfl <;> decide +kernel

/-- What is read as a number is a scalar with the numeral or the word for it. -/
theorem Yaml.readNode_number_ok {t : Tree} {node : Node} {datum : Datum}
    (h : readNode t .number node = .ok datum) : ∃ tag word style x,
      t.resolve node = .scalar tag word style ∧ Plain.number? word = some x ∧ datum = .number x := by
  rw [readNode, readNumber.eq_def] at h
  cases hnode : t.resolve node with
  | scalar tag word style =>
    simp only [hnode] at h
    by_cases hmay : mayBe "float" tag style = true
    · rw [if_pos hmay] at h
      cases hnumber : Plain.number? word with
      | some x =>
        rw [hnumber] at h
        exact ⟨tag, word, style, x, rfl, hnumber, (Except.ok.inj h).symm⟩
      | none =>
        rw [hnumber] at h
        exact absurd h (by simp [Except.map])
    · rw [if_neg hmay] at h
      exact absurd h (by simp [Except.map])
  | _ =>
    simp only [hnode] at h
    exact absurd h (by simp [Except.map])

/-- `WritesNan files path`: the settings file has one of the words for what is no number at the place of the
multiplier. -/
def WritesNan (files : Files) (path : Option String) : Prop :=
  ∃ t node tag word style, Setting.multiplier.Stands files path t node ∧
    t.resolve node = .scalar tag word style ∧ word ∈ nanWords

/-- The multiplier is no number exactly if the file says so. -/
theorem Settings.multiplier_eq_nan_iff {files : Files} {path : Option String} {file : Settings}
    (h : OfFile files path file) : file.wait.multiplier = nan ↔ WritesNan files path := by
  have hsettles := Setting.multiplier.settles h
  constructor
  · intro hnan
    rcases (hsettles nan).2 hnan.symm with ⟨t, node, datum, hstands, hread, hvalue⟩ | ⟨-, hstandard⟩
    · obtain ⟨tag, word, style, x, hscalar, hnumber, rfl⟩ := Yaml.readNode_number_ok hread
      obtain rfl := Option.some.inj hvalue
      exact ⟨t, node, tag, word, style, hstands, hscalar, Yaml.Plain.number?_eq_nan_iff.1 hnumber⟩
    · exact absurd hstandard (by decide +kernel)
  · rintro ⟨t, node, tag, word, style, hstands, hscalar, hword⟩
    obtain ⟨datum, hread⟩ := Setting.read_of_stands h hstands
    obtain ⟨tag', word', style', x, hscalar', hnumber, rfl⟩ := Yaml.readNode_number_ok hread
    rw [hscalar] at hscalar'
    obtain ⟨-, rfl, -⟩ := Yaml.Node.scalar.inj hscalar'
    rw [Yaml.Plain.number?_eq_nan_iff.2 hword] at hnumber
    obtain rfl := Option.some.inj hnumber
    exact ((hsettles nan).1 (.inl ⟨t, node, _, hstands, hread, rfl⟩)).symm

/-! ## 4. Settings that are loaded -/

/-- **Accepted waits are bounded.**  Of settings that are loaded the timeout and the first pause are not zero
and the first pause is no longer than the largest.  The multiplier is a number of at least one exactly if the
settings file does not have a word for what is no number at its place; otherwise it is no number. -/
theorem accepted_waits_bounded {files : Files} {path : Option String} {environment : Environment}
    {settings : Settings} (h : Settings.load files path environment = .ok settings) :
    0 < settings.wait.timeout.nanos ∧ 0 < settings.wait.initialDelay.nanos ∧
    settings.wait.initialDelay ≤ settings.wait.maxDelay ∧
    (settings.wait.multiplier.IsOneOrMore ↔ ¬ WritesNan files path) ∧
    (WritesNan files path → settings.wait.multiplier = nan) := by
  obtain ⟨file, hfile, hresolve⟩ := Settings.load_ok h
  obtain ⟨hvalid, timeout, hwait⟩ := Settings.resolve_ok hresolve
  obtain ⟨htimed, hstarts, hends, hgrows⟩ := WaitSettings.valid_iff_bounded.1 hvalid
  have hnan : settings.wait.multiplier = nan ↔ WritesNan files path := by
    rw [hwait]
    exact Settings.multiplier_eq_nan_iff hfile
  refine ⟨htimed, hstarts, hends, ⟨fun hone hwrites => ?_, fun hno => ?_⟩, hnan.2⟩
  · exact (isOneOrMore_iff.1 hone).1 (hnan.2 hwrites)
  · exact hgrows.resolve_left fun hmult => hno (hnan.1 hmult)

namespace Sample

def growing (multiplier : String) : Files :=
  fun _ => .ok ("wait:\n  backoff_multiplier: " ++ multiplier ++ "\n").toUTF8

def grown (multiplier : Binary64) : Settings := ⟨{ WaitSettings.standard with multiplier }, .standard⟩

theorem growing_infinite : Settings.load (growing ".inf") (some "strata.yaml") ⟨[]⟩ =
    .ok (grown (infinity false)) :=
  Problem.eq_ok_of_ofOutcome (eq_ok_of_toOption (by decide +kernel))

theorem growing_nan : Settings.load (growing ".nan") (some "strata.yaml") ⟨[]⟩ = .ok (grown nan) :=
  Problem.eq_ok_of_ofOutcome (eq_ok_of_toOption (by decide +kernel))

end Sample

/-- Infinite growth is a number of at least one, and a file whose growth is no number has a word for it. -/
theorem accepted_waits_bounded_infinite :
    (Settings.load (Sample.growing ".inf") (some "strata.yaml") ⟨[]⟩ =
        .ok (Sample.grown (infinity false)) ∧
      (infinity false).IsOneOrMore ∧ ¬ WritesNan (Sample.growing ".inf") (some "strata.yaml")) ∧
    Settings.load (Sample.growing ".nan") (some "strata.yaml") ⟨[]⟩ = .ok (Sample.grown nan) ∧
      WritesNan (Sample.growing ".nan") (some "strata.yaml") := by
  refine ⟨⟨Sample.growing_infinite, ?_⟩, Sample.growing_nan, ?_⟩
  · obtain ⟨-, -, -, hone, -⟩ := accepted_waits_bounded Sample.growing_infinite
    have hinfinite : (infinity false).IsOneOrMore := isOneOrMore_iff.2 ⟨by simp [infinity], by decide +kernel⟩
    exact ⟨hinfinite, hone.1 hinfinite⟩
  · obtain ⟨-, -, -, hone, -⟩ := accepted_waits_bounded Sample.growing_nan
    by_contra hno
    exact (isOneOrMore_iff.1 (hone.2 hno)).1 rfl

/-- A multiplier that is no number is accepted. -/
theorem multiplier_unbounded : ∃ settings,
    Settings.load (Sample.growing ".nan") (some "strata.yaml") ⟨[]⟩ = .ok settings ∧
      settings.wait.multiplier = nan ∧ ¬ settings.wait.multiplier.IsOneOrMore :=
  ⟨_, Sample.growing_nan, rfl, fun hone => (isOneOrMore_iff.1 hone).1 rfl⟩

end Teardown
