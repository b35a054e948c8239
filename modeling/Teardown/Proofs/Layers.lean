/-
# Settings in layers

The settings of an invocation come from four places: the standard values, a file, the variables
and a flag.  This module says what comes of them as a whole.  Either there are settings, and each
of them comes from the uppermost place that says something of it (`Invocation.Layered`); or there
is a fault, and it is that of the first stage that goes wrong (`FirstFault`): the file is read
first, then the variable for the timeout, then the variable for the format, and what comes of
these is validated last.

Main fact: `settings_layered`.  Two things follow from the order of the stages.  A timeout that is
not valid does no harm if a variable overrides it, since it is overridden before it is validated;
and a variable that names no format does harm even if a flag overrides it, since it is read first.

* §1  the file: there are settings below the overrides, or the file is at fault, or reading it
      breaks off.
* §2  the stages, each of which is reached only if those before it have come out well
      (`Settings.stages`).
* §3  the layers, for each setting by itself.  What the file settles for a setting is taken from
      what is known of single settings.

A variable whose value is no text says nothing, just as if it were not set.
-/
import Teardown.Proofs.AcceptedSettings
import Teardown.Proofs.Variables

namespace Teardown

/-! ## 1. The file -/

/-- `FileFault files path cause`: a file is named and cannot be read, or its text cannot be parsed. -/
inductive FileFault (files : Files) (path : Option String) : Fault → Prop
  | unreadable {name : String} {cause : ReadFault} : path = some name → files.text name = .error cause →
      FileFault files path (Settings.unusable "read" name (some cause.message))
  | unparsed {name text : String} {complaint : Complaint} : path = some name →
      files.text name = .ok text → Settings.ofText text = .error complaint →
      (∀ cause, complaint ≠ .overflow cause) →
      FileFault files path (Settings.unusable "parse" name complaint.text?)

section File

variable {files : Files} {path : Option String}

theorem Settings.load_of_ofFile {file : Settings} (h : OfFile files path file)
    (environment : Environment) :
    load files path environment = .ofExcept (file.resolve environment) := by
  cases h with
  | standard => rfl
  | read hread => simp only [load, hread]

theorem Settings.load_of_fileFault {cause : Fault} (h : FileFault files path cause)
    (environment : Environment) : load files path environment = .fault cause := by
  cases h with
  | @unreadable name _ hpath htext =>
    subst hpath
    simp only [load, ofFile, htext]
  | @unparsed name text complaint hpath htext hread hplain =>
    subst hpath
    have hfile : ofFile files name = .fault (unusable "parse" name complaint.text?) := by
      simp only [ofFile, htext, hread]
    simp only [load, hfile]

/-- `BreaksOff files path text`: reading the file breaks off over a length of time that it gives and that has
no duration, since it is finite and not below 2^64 seconds. -/
def BreaksOff (files : Files) (path : Option String) (text : Option String) : Prop :=
  (∀ environment, Settings.load files path environment = .panic text) ∧
    ∃ x, Settings.Gives files path x ∧ x.isFinite = true ∧ x.lt (.ofNat wordBound) = false

/-- There are settings below the overrides, or the file is at fault, or reading it breaks off. -/
theorem Settings.ofFile_or (files : Files) (path : Option String) :
    (∃ file, OfFile files path file) ∨ (∃ cause, FileFault files path cause) ∨
      ∃ text, BreaksOff files path text := by
  cases path with
  | none => exact .inl ⟨_, .standard⟩
  | some name =>
    cases hfile : ofFile files name with
    | ok file => exact .inl ⟨file, .read hfile⟩
    | panic text =>
      have hload : ∀ environment, load files (some name) environment = .panic text := by
        intro environment
        simp only [load, hfile]
      exact .inr (.inr ⟨text, hload, ofFile_panic hfile⟩)
    | fault cause =>
      refine .inr (.inl ?_)
      cases htext : files.text name with
      | error cause' => exact ⟨_, .unreadable rfl htext⟩
      | ok text =>
        cases hread : ofText text with
        | ok settings =>
          simp only [ofFile, htext, hread] at hfile
          exact absurd hfile (by simp)
        | error complaint =>
          refine ⟨_, .unparsed rfl htext hread ?_⟩
          rintro cause' rfl
          simp only [ofFile, htext, hread] at hfile
          exact absurd hfile (by simp [Outcome.overflow])

end File

/-! ## 2. The stages -/

/-- `FirstFault files path system cause`: the cause is what is wrong at the first stage that goes wrong.
The stages before it have come out well. -/
inductive FirstFault (files : Files) (path : Option String) (system : SystemVariables) : Fault → Prop
  | file {cause : Fault} : FileFault files path cause → FirstFault files path system cause
  | timeout {file : Settings} {text : String} : Settings.OfFile files path file →
      system.Holds Settings.timeoutVariable text → (∀ n, ¬ WritesSeconds text n) →
      FirstFault files path system
        (.settings (Settings.timeoutVariable ++ " must be a number of seconds"))
  | format {file : Settings} {timeout : Option Duration} {text : String} :
      Settings.OfFile files path file → system.TimeoutSaid timeout →
      system.Holds Settings.formatVariable text → (∀ format : LogFormat, ¬ format.Named text) →
      FirstFault files path system (LogFormat.unknown text)
  | invalid {file : Settings} {timeout : Option Duration} {format : Option LogFormat} {cause : Fault} :
      Settings.OfFile files path file → system.TimeoutSaid timeout → system.FormatSaid format →
      (file.withTimeout timeout).wait.validate = .error cause → FirstFault files path system cause

section Stages

variable {files : Files} {path : Option String} {system : SystemVariables} {file : Settings}
  {timeout : Option Duration} {format : Option LogFormat}

/-- What comes of the overrides is validated. -/
theorem Settings.resolve_said (htimeout : system.TimeoutSaid timeout)
    (hformat : system.FormatSaid format) :
    file.resolve system.seen = (file.withTimeout timeout).wait.validate.map
      fun _ => (file.withTimeout timeout).withFormat format := by
  have hwait : ((file.withTimeout timeout).withFormat format).wait = (file.withTimeout timeout).wait := by
    cases format <;> rfl
  simp only [resolve, bind, Except.bind, overrideTimeout_said _ htimeout, overrideFormat_said _ hformat,
    hwait]
  cases (file.withTimeout timeout).wait.validate <;> rfl

theorem Settings.load_of_firstFault {cause : Fault} (h : FirstFault files path system cause) :
    load files path system.seen = .fault cause := by
  cases h with
  | file hfile => exact load_of_fileFault hfile _
  | timeout hfile htext hwritten =>
    rw [load_of_ofFile hfile]
    simp only [resolve, bind, Except.bind, overrideTimeout_error _ htext hwritten, Outcome.ofExcept]
  | format hfile htimeout htext hnamed =>
    rw [load_of_ofFile hfile]
    simp only [resolve, bind, Except.bind, overrideTimeout_said _ htimeout,
      overrideFormat_error _ htext hnamed, Outcome.ofExcept]
  | invalid hfile htimeout hformat hinvalid =>
    rw [load_of_ofFile hfile, resolve_said htimeout hformat, hinvalid]
    rfl

/-- What is settled if no stage goes wrong. -/
theorem Settings.load_said (hfile : OfFile files path file) (htimeout : system.TimeoutSaid timeout)
    (hformat : system.FormatSaid format) (hvalid : (file.withTimeout timeout).wait.validate = .ok ()) :
    load files path system.seen = .ok ((file.withTimeout timeout).withFormat format) := by
  rw [load_of_ofFile hfile, resolve_said htimeout hformat, hvalid]
  rfl

/-- **The stages**: none goes wrong, or there is a first one that does, or reading the file breaks off. -/
theorem Settings.stages (files : Files) (path : Option String) (system : SystemVariables) :
    (∃ file timeout format, OfFile files path file ∧ system.TimeoutSaid timeout ∧
      system.FormatSaid format ∧ (file.withTimeout timeout).wait.validate = .ok ()) ∨
    (∃ cause, FirstFault files path system cause) ∨ ∃ text, BreaksOff files path text := by
  rcases ofFile_or files path with ⟨file, hfile⟩ | ⟨cause, hfault⟩ | hbroken
  · rcases system.timeoutSaid_or with ⟨timeout, htimeout⟩ | ⟨text, htext, hwritten⟩
    · rcases system.formatSaid_or with ⟨format, hformat⟩ | ⟨text, htext, hnamed⟩
      · cases hvalid : (file.withTimeout timeout).wait.validate with
        | ok _ => exact .inl ⟨file, timeout, format, hfile, htimeout, hformat, hvalid⟩
        | error cause => exact .inr (.inl ⟨cause, .invalid hfile htimeout hformat hvalid⟩)
      · exact .inr (.inl ⟨_, .format hfile htimeout htext hnamed⟩)
    · exact .inr (.inl ⟨_, .timeout hfile htext hwritten⟩)
  · exact .inr (.inl ⟨cause, .file hfault⟩)
  · exact .inr (.inr hbroken)

end Stages

/-! ## 3. The layers -/

/-- `Over said below value`: the value is the one that is said, or if none is, one from below. -/
def Over {α : Type} : Option α → (α → Prop) → α → Prop
  | some said, _, value => value = said
  | none, below, value => below value

/-- Where each of the settings of an invocation comes from.  The variables say the timeout, and where they
say nothing of it the file settles it; the flag says the format before the variables do, and these before
the file.  All other settings are settled by the file, each at its own place. -/
structure Invocation.Layered (i : Invocation) (files : Files) (system : SystemVariables)
    (settings : Settings) : Prop where
  timeout : ∃ said, system.TimeoutSaid said ∧
    Over said (Setting.timeout.Settles files i.settings) settings.wait.timeout
  initialDelay : Setting.initialDelay.Settles files i.settings settings.wait.initialDelay
  maxDelay : Setting.maxDelay.Settles files i.settings settings.wait.maxDelay
  multiplier : Setting.multiplier.Settles files i.settings settings.wait.multiplier
  jitter : Setting.jitter.Settles files i.settings settings.wait.jitter
  format : ∃ said, system.FormatSaid said ∧
    Over i.logFormat (Over said (Setting.format.Settles files i.settings)) settings.log.format
  filter : Setting.filter.Settles files i.settings settings.log.filter

/-- What is put over a file is layered. -/
theorem Invocation.layered_of_said {i : Invocation} {files : Files} {system : SystemVariables}
    {file : Settings} {timeout : Option Duration} {format : Option LogFormat}
    (hfile : Settings.OfFile files i.settings file) (htimeout : system.TimeoutSaid timeout)
    (hformat : system.FormatSaid format) :
    i.Layered files system
      (((file.withTimeout timeout).withFormat format).withFormat i.logFormat) := by
  have hwait : (((file.withTimeout timeout).withFormat format).withFormat i.logFormat).wait =
      { file.wait with timeout := timeout.getD file.wait.timeout } := by
    cases timeout <;> cases format <;> cases i.logFormat <;> rfl
  have hlog : (((file.withTimeout timeout).withFormat format).withFormat i.logFormat).log =
      { file.log with format := i.logFormat.getD (format.getD file.log.format) } := by
    cases timeout <;> cases format <;> cases i.logFormat <;> rfl
  -- No override is looked at but the one of the setting itself.
  constructor <;> simp only [hwait, hlog]
  case timeout =>
    refine ⟨timeout, htimeout, ?_⟩
    cases timeout with
    | none => exact Setting.timeout.settles hfile
    | some said => rfl
  case initialDelay => exact Setting.initialDelay.settles hfile
  case maxDelay => exact Setting.maxDelay.settles hfile
  case multiplier => exact Setting.multiplier.settles hfile
  case jitter => exact Setting.jitter.settles hfile
  case format =>
    refine ⟨format, hformat, ?_⟩
    cases i.logFormat with
    | some given => rfl
    | none =>
      cases format with
      | none => exact Setting.format.settles hfile
      | some said => rfl
  case filter => exact Setting.filter.settles hfile

section Load

variable {i : Invocation} {files : Files} {system : SystemVariables}

theorem Invocation.load_of_firstFault {cause : Fault} (h : FirstFault files i.settings system cause) :
    i.load ⟨files, system.seen⟩ = .error (.fault cause) := by
  rw [Invocation.load, Settings.load_of_firstFault h]
  rfl

/-- A run that breaks off over its file gets no settings. -/
theorem Invocation.load_of_breaksOff {text : Option String} (h : BreaksOff files i.settings text) :
    i.load ⟨files, system.seen⟩ = .error (.breakdown text) := by
  rw [Invocation.load, h.1]
  rfl

/-- **Which settings there are**: what the layers come to, if no stage goes wrong. -/
theorem Invocation.load_ok_iff {settings : Settings} :
    i.load ⟨files, system.seen⟩ = .ok settings ↔
      ∃ file timeout format, Settings.OfFile files i.settings file ∧ system.TimeoutSaid timeout ∧
        system.FormatSaid format ∧ (file.withTimeout timeout).wait.validate = .ok () ∧
        settings = ((file.withTimeout timeout).withFormat format).withFormat i.logFormat := by
  have hsaid : ∀ {file timeout format}, Settings.OfFile files i.settings file →
      system.TimeoutSaid timeout → system.FormatSaid format →
      (file.withTimeout timeout).wait.validate = .ok () → i.load ⟨files, system.seen⟩ =
        .ok (((file.withTimeout timeout).withFormat format).withFormat i.logFormat) := by
    intro file timeout format hfile htimeout hformat hvalid
    rw [Invocation.load, Settings.load_said hfile htimeout hformat hvalid]
    rfl
  constructor
  · intro h
    rcases Settings.stages files i.settings system with
      ⟨file, timeout, format, hfile, htimeout, hformat, hvalid⟩ | ⟨cause, hcause⟩ | ⟨text, hbroken⟩
    · have hload := hsaid hfile htimeout hformat hvalid
      exact ⟨file, timeout, format, hfile, htimeout, hformat, hvalid,
        Except.ok.inj (h.symm.trans hload)⟩
    · exact absurd (h.symm.trans (load_of_firstFault hcause)) (by simp)
    · exact absurd (h.symm.trans (load_of_breaksOff hbroken)) (by simp)
  · rintro ⟨file, timeout, format, hfile, htimeout, hformat, hvalid, rfl⟩
    exact hsaid hfile htimeout hformat hvalid

/-- **Which problem there is**: the first fault, unless the run breaks off over its file. -/
theorem Invocation.load_error {problem : Problem} (h : i.load ⟨files, system.seen⟩ = .error problem) :
    (∃ cause, problem = .fault cause ∧ FirstFault files i.settings system cause) ∨
      ∃ text, problem = .breakdown text ∧ BreaksOff files i.settings text := by
  rcases Settings.stages files i.settings system with
    ⟨file, timeout, format, hfile, htimeout, hformat, hvalid⟩ | ⟨cause, hcause⟩ | ⟨text, hbroken⟩
  · have hload := load_ok_iff.2 ⟨file, timeout, format, hfile, htimeout, hformat, hvalid, rfl⟩
    exact absurd (h.symm.trans hload) (by simp)
  · exact .inl ⟨cause, Except.error.inj (h.symm.trans (load_of_firstFault hcause)), hcause⟩
  · exact .inr ⟨text, Except.error.inj (h.symm.trans (load_of_breaksOff hbroken)), hbroken⟩

end Load

/-- **Settings are layered.**  An invocation has settings exactly if the file can be read, if there is one,
the variables say something of the timeout and of the format, be it nothing, and the wait is valid under the
timeout that they say; each setting then comes from the uppermost layer that says something of it.  A stage
that goes wrong first gives its fault.  There is no other problem, unless the file gives a length of time that
is finite and not below 2^64 seconds: then the run breaks off. -/
theorem settings_layered (i : Invocation) (files : Files) (system : SystemVariables) :
    ((∃ settings, i.load ⟨files, system.seen⟩ = .ok settings) ↔
      ∃ file timeout format, Settings.OfFile files i.settings file ∧ system.TimeoutSaid timeout ∧
        system.FormatSaid format ∧ (file.withTimeout timeout).wait.validate = .ok ()) ∧
    (∀ settings, i.load ⟨files, system.seen⟩ = .ok settings → i.Layered files system settings) ∧
    (∀ cause, FirstFault files i.settings system cause →
      i.load ⟨files, system.seen⟩ = .error (.fault cause)) ∧
    ∀ problem, i.load ⟨files, system.seen⟩ = .error problem →
      (∃ cause, problem = .fault cause ∧ FirstFault files i.settings system cause) ∨
      ∃ text x, problem = .breakdown text ∧ Settings.Gives files i.settings x ∧ x.isFinite = true ∧
        x.lt (.ofNat wordBound) = false := by
  refine ⟨⟨?_, ?_⟩, fun settings h => ?_, fun cause => Invocation.load_of_firstFault,
    fun problem h => ?_⟩
  · rintro ⟨settings, h⟩
    obtain ⟨file, timeout, format, hfile, htimeout, hformat, hvalid, -⟩ := Invocation.load_ok_iff.1 h
    exact ⟨file, timeout, format, hfile, htimeout, hformat, hvalid⟩
  · rintro ⟨file, timeout, format, hfile, htimeout, hformat, hvalid⟩
    exact ⟨_, Invocation.load_ok_iff.2 ⟨file, timeout, format, hfile, htimeout, hformat, hvalid, rfl⟩⟩
  · obtain ⟨file, timeout, format, hfile, htimeout, hformat, -, rfl⟩ := Invocation.load_ok_iff.1 h
    exact Invocation.layered_of_said hfile htimeout hformat
  · rcases Invocation.load_error h with hfault | ⟨text, hproblem, -, x, hgiven⟩
    · exact .inl hfault
    · exact .inr ⟨text, x, hproblem, hgiven⟩

namespace Sample

/-- Files with a timeout that is not valid. -/
def zeroTimeout : Files := fun _ => .ok "wait:\n  timeout: 0\n".toUTF8

def zeroed : Settings := ⟨{ WaitSettings.standard with timeout := ⟨0⟩ }, .standard⟩

def overriding (format : String) : SystemVariables :=
  [(Settings.timeoutVariable, " +090 ".toUTF8), (Settings.formatVariable, format.toUTF8)]

def formatted : Invocation :=
  { (default : Invocation) with settings := some "strata.yaml", logFormat := some .text }

theorem zeroed_ofFile : Settings.OfFile zeroTimeout formatted.settings zeroed := by
  have htext : zeroTimeout.text "strata.yaml" = .ok "wait:\n  timeout: 0\n" := rfl
  have hread : Settings.ofText "wait:\n  timeout: 0\n" = .ok zeroed :=
    eq_ok_of_toOption (by decide +kernel)
  refine .read ?_
  simp only [Settings.ofFile, htext, hread]

/-- Variables with a timeout that is no text. -/
def garbled : SystemVariables := [(Settings.timeoutVariable, ⟨#[0xff]⟩)]

theorem garbled_says_nothing (name text : String) : ¬ garbled.Holds name text := by
  rintro ⟨bytes, hbytes, htext⟩
  have hmem : bytes = ⟨#[0xff]⟩ := by
    rw [garbled, List.lookup_cons] at hbytes
    split at hbytes
    · exact (Option.some.inj hbytes).symm
    · exact absurd hbytes (by simp)
  have hnone : String.fromUTF8? ⟨#[0xff]⟩ = none := by decide +kernel
  rw [hmem, hnone] at htext
  exact absurd htext (by simp)

theorem overriding_timeout (format : String) :
    (overriding format).TimeoutSaid (some (.ofWhole 90)) := by
  have hwritten : WritesSeconds " +090 " 90 :=
    ⟨by decide, [' '], ['+'], ['0', '9', '0'], [' '], rfl, List.all_eq_true.1 (by decide),
      List.all_eq_true.1 (by decide), by decide, by decide, List.all_eq_true.1 (by decide), rfl⟩
  exact .seconds ⟨_, rfl, rfl⟩ hwritten

end Sample

/-- A timeout of zero in the file does no harm under a variable, as long as the variable is a text; and a
variable that names no format does harm even under a flag. -/
theorem settings_layered_over_zero :
    (∃ settings, Sample.formatted.load ⟨Sample.zeroTimeout, (Sample.overriding "JSON").seen⟩ =
        .ok settings ∧ settings.wait.timeout = .ofWhole 90 ∧ settings.log.format = .text ∧
      Setting.jitter.Settles Sample.zeroTimeout (some "strata.yaml") settings.wait.jitter) ∧
    Sample.formatted.load ⟨Sample.zeroTimeout, (Sample.overriding "xml").seen⟩ =
      .error (.fault (LogFormat.unknown "xml")) ∧
    Sample.formatted.load ⟨Sample.zeroTimeout, Sample.garbled.seen⟩ =
      .error (.fault (.settings "wait.timeout must be greater than zero")) := by
  refine ⟨?_, ?_, ?_⟩
  · have hload : Sample.formatted.load ⟨Sample.zeroTimeout, (Sample.overriding "JSON").seen⟩ =
        .ok ⟨{ WaitSettings.standard with timeout := .ofWhole 90 }, .standard⟩ :=
      eq_ok_of_toOption (by decide +kernel)
    obtain ⟨-, hlayered, -⟩ := settings_layered Sample.formatted Sample.zeroTimeout
      (Sample.overriding "JSON")
    exact ⟨_, hload, rfl, rfl, (hlayered _ hload).jitter⟩
  · obtain ⟨-, -, hfault, -⟩ := settings_layered Sample.formatted Sample.zeroTimeout
      (Sample.overriding "xml")
    refine hfault _ (.format Sample.zeroed_ofFile (Sample.overriding_timeout _) ⟨_, rfl, rfl⟩
      fun format hnamed => ?_)
    cases format with
    | text => exact absurd (show Text.asciiLower "xml" = "text" from hnamed) (by decide +kernel)
    | json => exact absurd (show Text.asciiLower "xml" = "json" from hnamed) (by decide +kernel)
  · obtain ⟨-, -, hfault, -⟩ := settings_layered Sample.formatted Sample.zeroTimeout Sample.garbled
    exact hfault _ (.invalid Sample.zeroed_ofFile (.unset (Sample.garbled_says_nothing _))
      (.unset (Sample.garbled_says_nothing _)) rfl)

end Teardown
