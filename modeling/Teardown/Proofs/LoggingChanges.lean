/-
# Changes of logging, sent and read back

A change of logging is sent as two setups, and what is in force is read from any number of them.
The two sides fit each other: if the remote side lists the kinds of a change as they were sent,
the two sets that are read are those of the change, however the kinds are arranged in the answer
(`Updater.readSetups_of_lists`).  This needs that no kind is without a name, since an answer with
such a kind is refused as a whole (`Updater.readSetups_nameless`).

`logging_reads_back` says so for all sequences of moves, and which changes there are: the kinds to
enable have to be among all kinds, and what is left of these is to be disabled.

* §1  changes: refused with all unknown kinds, or a partition of all kinds.
* §2  setups.  What they list (`Lists`) forgets how they are grouped, in which order they come and
      how often a kind is listed, and the sets that are read depend on nothing else.
* §3  the question itself, which is asked once and whose reply may come in every way.
* §4  both sides together.

An answer may list one kind as enabled and as disabled.  Then it is in both sets, and no change
has such sets.
-/
import Teardown.Proofs.Conclusions
import Teardown.Update

namespace Teardown

/-! ## 1. Changes -/

namespace LoggingChange

variable {all enabled : NameSet} {change : LoggingChange}

/-- **A change that enables unknown kinds** is refused, and the refusal names them in their order. -/
theorem of_unknown (h : ¬ ∀ kind ∈ enabled, kind ∈ all) :
    ∃ unknown : List String, unknown.Pairwise (· < ·) ∧
      (∀ kind, kind ∈ unknown ↔ kind ∈ enabled ∧ ¬ kind ∈ all) ∧
      of all enabled =
        .error (.precondition ("unsupported log types: " ++ ", ".intercalate unknown)) :=
  ⟨(enabled.diff all).toList, (enabled.diff all).increasing, fun _ => NameSet.mem_diff,
    if_neg fun hempty => h (isEmpty_diff.1 hempty)⟩

/-- Any other change splits all kinds into those that it enables and those that it disables. -/
theorem mem_all_iff (h : of all enabled = .ok change) {kind : String} :
    kind ∈ all ↔ kind ∈ change.enabled ∨ kind ∈ change.disabled := by
  obtain ⟨hknown, rfl⟩ := of_eq_ok_iff.1 h
  rw [mem_disabled h]
  constructor
  · intro hkind
    by_cases henabled : kind ∈ enabled
    · exact .inl henabled
    · exact .inr ⟨hkind, henabled⟩
  · rintro (henabled | ⟨hkind, -⟩)
    · exact hknown kind henabled
    · exact hkind

/-- No kind is both enabled and disabled. -/
theorem not_mem_both (h : of all enabled = .ok change) {kind : String} :
    ¬ (kind ∈ change.enabled ∧ kind ∈ change.disabled) := by
  rintro ⟨henabled, hdisabled⟩
  obtain ⟨-, hnot⟩ := (mem_disabled h).1 hdisabled
  rw [(of_eq_ok_iff.1 h).2] at henabled
  exact hnot henabled

end LoggingChange

/-! ## 2. Setups -/

/-- `Lists setups state kind`: some setup lists the kind as enabled, or as disabled. -/
def Lists (setups : List LogSetup) (state : Bool) (kind : String) : Prop :=
  ∃ setup ∈ setups, setup.enabled = state ∧ kind ∈ setup.types

namespace Updater

variable {u : Updater} {setups : List LogSetup} {change : LoggingChange}

theorem mem_typesOf {state : Bool} {kind : String} :
    kind ∈ typesOf setups state ↔ Lists setups state kind := by
  rw [typesOf, NameSet.mem_ofList, List.mem_flatMap]
  refine exists_congr fun setup => ?_
  rw [List.mem_filter, decide_eq_true_iff, and_assoc]

theorem lists_enabled_iff {kind : String} :
    Lists change.setups true kind ↔ kind ∈ change.enabled := by
  simp [Lists, LoggingChange.setups, NameSet.mem_iff]

theorem lists_disabled_iff {kind : String} :
    Lists change.setups false kind ↔ kind ∈ change.disabled := by
  simp [Lists, LoggingChange.setups, NameSet.mem_iff]

/-- An answer with a kind that has no name is refused. -/
theorem readSetups_nameless (h : ∃ setup ∈ setups, "" ∈ setup.types) :
    u.readSetups setups = .error u.namelessType := by
  have hany : (setups.any fun setup => setup.types.contains "") = true := by simpa using h
  rw [readSetups, if_pos hany]

/-- **What is read back**: if the same kinds are listed in the same states as by a change, the two sets are
those of the change. -/
theorem readSetups_of_lists {all enabled : NameSet} (hchange : LoggingChange.of all enabled = .ok change)
    (hnamed : ¬ "" ∈ all) (h : ∀ state kind, Lists setups state kind ↔ Lists change.setups state kind) :
    u.readSetups setups = .ok (change.enabled, change.disabled) := by
  have hnameless : ¬ ∃ setup ∈ setups, "" ∈ setup.types := by
    rintro ⟨setup, hsetup, htypes⟩
    have hlisted := (h setup.enabled "").1 ⟨setup, hsetup, rfl, htypes⟩
    refine hnamed ((LoggingChange.mem_all_iff hchange).2 ?_)
    cases hstate : setup.enabled with
    | true => exact .inl (lists_enabled_iff.1 (hstate ▸ hlisted))
    | false => exact .inr (lists_disabled_iff.1 (hstate ▸ hlisted))
  have hnone : ¬ (setups.any fun setup => setup.types.contains "") = true := by simpa using hnameless
  have henabled : typesOf setups true = change.enabled :=
    NameSet.ext_mem fun kind => mem_typesOf.trans ((h true kind).trans lists_enabled_iff)
  have hdisabled : typesOf setups false = change.disabled :=
    NameSet.ext_mem fun kind => mem_typesOf.trans ((h false kind).trans lists_disabled_iff)
  rw [readSetups, if_neg hnone, henabled, hdisabled]

/-! ## 3. The question -/

def reader (u : Updater) :
    Except Fault (List LogSetup) → UpdateAction (NameSet × NameSet)
  | .ok setups => .ofExcept (u.readSetups setups)
  | .error cause => .fail cause

def readReply (u : Updater) : Outcome (List LogSetup) → Outcome (NameSet × NameSet)
  | .ok setups => .ofExcept (u.readSetups setups)
  | .fault cause => .fault cause
  | .panic text => .panic text

theorem currentLogging_eq (u : Updater) :
    u.currentLogging = .ask (.describeLogging u.cluster) u.reader := by
  refine congrArg (Activity.ask (ClusterRequest.describeLogging u.cluster)) (funext fun answer => ?_)
  cases answer <;> rfl

theorem closes_reader (u : Updater) :
    @Activity.Closes ClusterRequest ClusterRequest.Answer _ (.describeLogging u.cluster) u.reader
      u.readReply := by
  intro c reply
  cases reply <;> exact ⟨[], by simp, rfl⟩

section Question

variable {c : Conditions} {s : Situation (Thread ClusterRequest ClusterRequest.Answer (NameSet × NameSet))}
  {past : List (Entry ClusterRequest ClusterRequest.Answer)} {moment : Moment}

/-- **The question is asked once**, and what is read of the reply is what comes out. -/
theorem lastAsked (h : u.currentLogging.Reaches c s past) :
    @Situation.LastAsked ClusterRequest ClusterRequest.Answer _ (.describeLogging u.cluster) u.reader
      u.readReply s past := by
  rw [u.currentLogging_eq] at h
  exact h.lastAsked u.closes_reader

theorem outcome_of_answered (h : u.currentLogging.Reaches c s past)
    (hreplied : repliesOf past = [⟨moment, [], .replied (.describeLogging u.cluster) (.ok setups)⟩]) :
    s.state.outcome? = some (.ofExcept (u.readSetups setups)) := by
  cases lastAsked h with
  | asking _ _ hnone =>
    rw [hnone] at hreplied
    exact absurd hreplied (by simp)
  | answered moment' reply hstate _ hreplies =>
    rw [hreplies] at hreplied
    obtain ⟨-, rfl⟩ : moment' = moment ∧ reply = .ok setups := by simpa using hreplied
    rw [hstate]
    rfl

end Question

end Updater

/-! ## 4. Sent and read back -/

/-- **Changes of logging.**  A change that enables kinds which are not among all kinds is refused, and the
refusal names them in their order.  Any other change has the kinds that are asked for on one side and the rest
on the other.  If no kind is without a name, and the answer to the question which kinds are enabled lists them
as the change does, then the two sets of the change are what comes out of the question, and the change can be
made again of the one that is enabled.

The question is asked once, whatever the moves are.  As long as it is not answered any reply may come; and if an
answer lists a kind without a name, what comes out is a fault of the service. -/
theorem logging_reads_back (u : Updater) (all enabled : NameSet) :
    ((¬ ∀ kind ∈ enabled, kind ∈ all) → ∃ unknown : List String, unknown.Pairwise (· < ·) ∧
      (∀ kind, kind ∈ unknown ↔ kind ∈ enabled ∧ ¬ kind ∈ all) ∧
      LoggingChange.of all enabled =
        .error (.precondition ("unsupported log types: " ++ ", ".intercalate unknown))) ∧
    ((∀ kind ∈ enabled, kind ∈ all) → ∃ change, LoggingChange.of all enabled = .ok change ∧
      change.enabled = enabled ∧
      (∀ kind, ¬ (kind ∈ change.enabled ∧ kind ∈ change.disabled)) ∧
      (∀ kind, kind ∈ all ↔ kind ∈ change.enabled ∨ kind ∈ change.disabled) ∧
      (¬ "" ∈ all → ∀ setups : List LogSetup,
        (∀ state kind, Lists setups state kind ↔ Lists change.setups state kind) →
        ∀ c s past moment, u.currentLogging.Reaches c s past →
          repliesOf past = [⟨moment, [], .replied (.describeLogging u.cluster) (.ok setups)⟩] →
          ∃ read, s.state.outcome? = some (.ok read) ∧ read = (change.enabled, change.disabled) ∧
            LoggingChange.of all read.1 = .ok change)) ∧
    ∀ c s past, u.currentLogging.Reaches c s past →
      requestsOf past = [.describeLogging u.cluster] ∧
      (repliesOf past = [] ∨ ∃ (moment : Moment) (reply : Outcome (List LogSetup)),
        repliesOf past = [⟨moment, [], .replied (.describeLogging u.cluster) reply⟩]) ∧
      (repliesOf past = [] → s.dropped = false → ∀ answer factor,
        (s.after? (Thread.process ClusterRequest ClusterRequest.Answer (NameSet × NameSet))
          (.resume [] (.reply answer) factor)).isSome = true) ∧
      ∀ (moment : Moment) (setups : List LogSetup),
        repliesOf past = [⟨moment, [], .replied (.describeLogging u.cluster) (.ok setups)⟩] →
        (∃ setup ∈ setups, "" ∈ setup.types) →
        ∃ message, s.state.outcome? = some (.fault (.stackApi u.cluster message)) := by
  refine ⟨LoggingChange.of_unknown, fun hknown => ?_, fun c s past hreaches => ?_⟩
  · have hchange : LoggingChange.of all enabled = .ok ⟨enabled, all.diff enabled⟩ :=
      LoggingChange.of_eq_ok_iff.2 ⟨hknown, rfl⟩
    refine ⟨_, hchange, rfl, fun kind => LoggingChange.not_mem_both hchange,
      fun kind => LoggingChange.mem_all_iff hchange, ?_⟩
    intro hnamed setups hlists c s past moment hreaches hreplied
    refine ⟨(enabled, all.diff enabled), ?_, rfl, hchange⟩
    rw [Updater.outcome_of_answered hreaches hreplied,
      Updater.readSetups_of_lists hchange hnamed hlists]
    rfl
  · have hnameless : ∀ (moment : Moment) (setups : List LogSetup),
        repliesOf past = [⟨moment, [], .replied (.describeLogging u.cluster) (.ok setups)⟩] →
        (∃ setup ∈ setups, "" ∈ setup.types) →
        ∃ message, s.state.outcome? = some (.fault (.stackApi u.cluster message)) := by
      intro moment setups hreplied hnameless
      refine ⟨"unexpected response from cluster API: empty log type", ?_⟩
      rw [Updater.outcome_of_answered hreaches hreplied, Updater.readSetups_nameless hnameless]
      rfl
    cases Updater.lastAsked hreaches with
    | asking hstate hrequests hnone =>
      refine ⟨hrequests, .inl hnone, fun _ hdropped answer factor => ?_, hnameless⟩
      simp [Situation.after?, hdropped, Thread.process, hstate, Thread.resume]
    | answered moment reply hstate hrequests hreplies =>
      refine ⟨hrequests, .inr ⟨moment, reply, hreplies⟩, fun hnone => ?_, hnameless⟩
      rw [hreplies] at hnone
      exact absurd hnone (by simp)

namespace Sample

/-- A cluster that is asked which kinds are enabled. -/
def asked : Updater := ⟨"demo", .standard⟩

def kinds : NameSet := .ofList ["api", "audit", "scheduler"]

def chosen : NameSet := .ofList ["audit", "api"]

/-- The kinds of that change in four setups, some of them more than once. -/
def scattered : List LogSetup :=
  [⟨true, ["audit"]⟩, ⟨false, ["scheduler", "scheduler"]⟩, ⟨true, ["api", "audit"]⟩, ⟨false, []⟩]

/-- Setups with a kind that has no name. -/
def nameless : List LogSetup := [⟨true, ["api"]⟩, ⟨false, [""]⟩]

/-- A question that is answered with some setups. -/
def answeredWith (setups : List LogSetup) : Option (List (Entry ClusterRequest ClusterRequest.Answer) ×
    Situation (Thread ClusterRequest ClusterRequest.Answer (NameSet × NameSet))) :=
  (asked.currentLogging.about ⟨⟨0⟩, false, 1⟩).2.follow
    (Thread.process ClusterRequest ClusterRequest.Answer (NameSet × NameSet))
    [.resume [] (.reply fun
      | .describeLogging _ => .ok setups
      | .updateLogging .. | .updateVersion .. | .describeUpdate .. => .panic none) 1]

/-- The kinds are those of the change. -/
theorem lists_scattered (state : Bool) (kind : String) :
    Lists scattered state kind ↔
      Lists (LoggingChange.setups ⟨chosen, kinds.diff chosen⟩) state kind := by
  have hchosen : chosen.toList = ["api", "audit"] := by decide
  have hrest : (kinds.diff chosen).toList = ["scheduler"] := by decide
  cases state <;> simp [Lists, scattered, LoggingChange.setups, hchosen, hrest]
  tauto

end Sample

/-- The kinds of a change come back from four setups; an answer with a kind without a name is a fault. -/
theorem logging_reads_back_scattered :
    (∃ entries s, Sample.answeredWith Sample.scattered = some (entries, s) ∧
      s.state.outcome? = some (.ok (Sample.chosen, Sample.kinds.diff Sample.chosen))) ∧
    ∃ entries s, Sample.answeredWith Sample.nameless = some (entries, s) ∧
      ∃ message, s.state.outcome? = some (.fault (.stackApi "demo" message)) := by
  obtain ⟨-, hchange, hquestion⟩ := logging_reads_back Sample.asked Sample.kinds Sample.chosen
  have hover : (Sample.answeredWith Sample.scattered).isSome = true := rfl
  have hover' : (Sample.answeredWith Sample.nameless).isSome = true := rfl
  refine ⟨⟨_, _, (Option.some_get hover).symm, ?_⟩, ⟨_, _, (Option.some_get hover').symm, ?_⟩⟩
  · obtain ⟨change, hmade, -, -, -, hread⟩ := hchange (by decide)
    obtain rfl := (LoggingChange.of_eq_ok_iff.1 hmade).2
    obtain ⟨read, houtcome, hsets, -⟩ := hread (by decide) Sample.scattered Sample.lists_scattered
      ⟨⟨0⟩, false, 1⟩ _ _ ⟨0⟩ ⟨_, _, (Option.some_get hover).symm, rfl⟩ rfl
    rw [houtcome, hsets]
  · obtain ⟨-, -, -, hfault⟩ :=
      hquestion ⟨⟨0⟩, false, 1⟩ _ _ ⟨_, _, (Option.some_get hover').symm, rfl⟩
    exact hfault ⟨0⟩ Sample.nameless rfl ⟨⟨false, [""]⟩, by simp [Sample.nameless], by simp⟩

end Teardown
