/-
# Updates of a cluster, from the request to the end

A change of logging that enables an unknown kind is refused before anything is requested.  Every
other update is a commission: it is requested once, and what is awaited is the update under the id
that was returned (`Updater.loggingUpdate`, `Updater.versionUpdate`).  To ask for a version
without waiting for it is the request alone.

Of what a poll may report, only the success ends such a wait well, and only the failure and the
cancellation of the update end it as failed (`Updater.shows_success_iff`,
`Updater.shows_failure_iff`).  A status that means neither leaves the wait open, whatever it is.

`cluster_updates` says so for all sequences of moves: whatever the remote side answers and when,
and whenever the work is cancelled.  The activities of the two updates are shown to be those of
the commissions (`updateLogging_eq`, `updateVersion_eq`), and everything else is what is known of
commissions in general.
-/
import Teardown.Proofs.Commissions
import Teardown.Update

namespace Teardown

/-! ## 1. What a poll reports -/

namespace Updater

section Polls

variable {u : Updater} {update : Update} {poll : Poll (u.updateGoal update)} {status : UpdateStatus}

/-- A poll was answered with an update of a given status. -/
def Reports (poll : Poll (u.updateGoal update)) (status : UpdateStatus) : Prop :=
  ∃ current : Update, poll.answer = .ok current ∧ current.status = status

theorem observed?_eq_some_iff :
    (u.updateGoal update).observed? poll = some status ↔ Reports poll status := by
  obtain ⟨moment, answer⟩ := poll
  cases answer with
  | error cause =>
    constructor
    · intro hnone
      exact absurd hnone (by simp [Goal.observed?])
    · rintro ⟨current, hcurrent, -⟩
      exact absurd hcurrent (by simp)
  | ok current =>
    constructor
    · exact fun hstatus => ⟨current, rfl, Option.some.inj hstatus⟩
    · rintro ⟨current', hcurrent, hstatus⟩
      obtain rfl := Except.ok.inj hcurrent
      exact congrArg some hstatus

theorem verdict_eq_success_iff :
    (u.updateGoal update).verdict status = .success ↔ status = .successful := by
  cases status <;> simp [Goal.verdict, updateGoal]

theorem verdict_eq_failure_iff :
    (u.updateGoal update).verdict status = .failure ↔ status = .failed ∨ status = .cancelled := by
  cases status <;> simp [Goal.verdict, updateGoal]

/-- **A poll shows the success** of an update if it reports that the update was successful. -/
theorem shows_success_iff :
    (∃ status, (u.updateGoal update).Shows .success poll status) ↔ Reports poll .successful := by
  constructor
  · rintro ⟨status, hstatus, hverdict⟩
    obtain rfl := verdict_eq_success_iff.1 hverdict
    exact observed?_eq_some_iff.1 hstatus
  · exact fun hreports => ⟨_, observed?_eq_some_iff.2 hreports, verdict_eq_success_iff.2 rfl⟩

/-- **It shows the failure** if it reports that the update failed or was cancelled. -/
theorem shows_failure_iff {word : String} :
    (∃ status, (u.updateGoal update).Shows .failure poll status ∧
        (u.updateGoal update).word status = word) ↔
      ∃ status, Reports poll status ∧ (status = .failed ∨ status = .cancelled) ∧
        status.word = word := by
  refine exists_congr fun status => ?_
  rw [Goal.Shows, observed?_eq_some_iff, verdict_eq_failure_iff, and_assoc]
  rfl

end Polls

/-! ## 2. Updates as commissions -/

variable (u : Updater)

def loggingUpdate (change : LoggingChange) :
    Commission ClusterRequest ClusterRequest.Answer UpdateStatus LoggingChange where
  request := .updateLogging u.cluster change.setups
  opening _ := []
  goal := fun update : Update => u.updateGoal update
  closing _ := [u.record ("Configured logging (" ++ change.describeEnabled ++ " & " ++
    change.describeDisabled ++ ")") []]
  value _ := change

def versionRecord (version : String) (update : Update) : Record :=
  u.record "Version update requested" [("version", .quoted version), ("update_id", .text update.id)]

def versionUpdate (version : String) :
    Commission ClusterRequest ClusterRequest.Answer UpdateStatus Unit where
  request := .updateVersion u.cluster version
  opening := fun update : Update => [u.versionRecord version update]
  goal := fun update : Update => u.updateGoal update
  closing _ := []
  value _ := ()

/-- A change of logging that enables known kinds is a commission. -/
theorem updateLogging_eq {all enabled : NameSet} (h : ∀ kind ∈ enabled, kind ∈ all) :
    u.updateLogging all enabled = (u.loggingUpdate ⟨enabled, all.diff enabled⟩).activity := by
  have hchange : LoggingChange.of all enabled = .ok ⟨enabled, all.diff enabled⟩ :=
    LoggingChange.of_eq_ok_iff.2 ⟨h, rfl⟩
  unfold updateLogging
  rw [hchange]
  refine congrArg (Activity.ask (ClusterRequest.updateLogging u.cluster _)) (funext fun answer => ?_)
  cases answer with
  | error cause => rfl
  | ok update =>
    change (Activity.await (u.updateWatch update)).bind _ = _
    rw [u.updateWatch_eq update]
    rfl

/-- A change of logging that enables an unknown kind is the refusal. -/
theorem updateLogging_eq_fail {all enabled : NameSet} (h : ¬ ∀ kind ∈ enabled, kind ∈ all) :
    u.updateLogging all enabled = .fail (LoggingChange.unsupported (enabled.diff all)) := by
  have hchange : LoggingChange.of all enabled =
      .error (LoggingChange.unsupported (enabled.diff all)) :=
    if_neg fun hempty => h (LoggingChange.isEmpty_diff.1 hempty)
  unfold updateLogging
  rw [hchange]
  rfl

/-- An update to a version is a commission. -/
theorem updateVersion_eq (version : String) :
    u.updateVersion version = (u.versionUpdate version).activity := by
  refine congrArg (Activity.ask (ClusterRequest.updateVersion u.cluster version))
    (funext fun answer => ?_)
  cases answer with
  | error cause => rfl
  | ok update =>
    change Activity.note (u.versionRecord version update) (Activity.await (u.updateWatch update)) =
      Activity.note (u.versionRecord version update)
        ((Activity.await (u.updateGoal update).watch).bind Activity.pure)
    rw [u.updateWatch_eq update, Activity.bind_pure_right]

/-- To ask for a version is a request with a conclusion. -/
theorem requestVersion_eq (version : String) :
    u.requestVersion version = .ask (.updateVersion u.cluster version)
      (Activity.concluding (fun update : Update => [u.versionRecord version update]) id) := by
  refine congrArg (Activity.ask (ClusterRequest.updateVersion u.cluster version))
    (funext fun answer => ?_)
  cases answer <;> rfl

end Updater

/-! ## 3. How updates come out -/

/-- **Updates of a cluster**, after any moves: the answers may be any and come at any time, and so may the
cancellation.  A change of logging that enables an unknown kind is refused without a request.  Otherwise it is
pursued as a commission, and the request names the kinds to enable and all others; so is an update to a version.
To ask for a version without waiting is that one request, and its reply, which may come in every way, is what
comes out.  An awaited update is asked for under its id, it succeeds by a poll that reports so, and it fails by a
poll that reports it failed or cancelled. -/
theorem cluster_updates (u : Updater) (c : Conditions) :
    (∀ all enabled s past, (u.updateLogging all enabled).Reaches c s past →
      ((¬ ∀ kind ∈ enabled, kind ∈ all) → requestsOf past = [] ∧
        s.state.outcome? = some (.fault (.precondition
          ("unsupported log types: " ++ ", ".intercalate (enabled.diff all).toList)))) ∧
      ((∀ kind ∈ enabled, kind ∈ all) →
        (u.loggingUpdate ⟨enabled, all.diff enabled⟩).request = .updateLogging u.cluster
          [⟨true, enabled.toList⟩, ⟨false, (all.diff enabled).toList⟩] ∧
        (u.loggingUpdate ⟨enabled, all.diff enabled⟩).Pursued c s past)) ∧
    (∀ version s past, (u.updateVersion version).Reaches c s past →
      (u.versionUpdate version).Pursued c s past) ∧
    (∀ version s past, (u.requestVersion version).Reaches c s past →
      requestsOf past = [.updateVersion u.cluster version] ∧
        ((repliesOf past = [] ∧ s.state.outcome? = none ∧
            (s.dropped = false → ∀ answer factor,
              (s.after? (Thread.process ClusterRequest ClusterRequest.Answer Update)
                (.resume [] (.reply answer) factor)).isSome = true)) ∨
          ∃ (moment : Moment) (reply : Outcome Update),
            repliesOf past = [⟨moment, [], .replied (.updateVersion u.cluster version) reply⟩] ∧
            s.state.outcome? = some reply)) ∧
    ∀ update : Update, (u.updateGoal update).request = .describeUpdate u.cluster update.id ∧
      (∀ poll, (∃ status, (u.updateGoal update).Shows .success poll status) ↔
        Updater.Reports poll .successful) ∧
      (∀ poll word, (∃ status, (u.updateGoal update).Shows .failure poll status ∧
          (u.updateGoal update).word status = word) ↔
        ∃ status, Updater.Reports poll status ∧ (status = .failed ∨ status = .cancelled) ∧
          status.word = word) ∧
      (∀ word, (u.updateGoal update).watch.failed word =
        .waitFailed u.cluster (u.updateGoal update).operation word) ∧
      ∃ context, (u.updateGoal update).watch.interrupted = .cancelled context := by
  refine ⟨fun all enabled s past hreaches => ⟨fun hunknown => ?_, fun hknown => ⟨rfl, ?_⟩⟩,
    fun version s past hreaches => ?_, fun version s past hreaches => ?_, fun update => ?_⟩
  · rw [u.updateLogging_eq_fail hunknown] at hreaches
    obtain ⟨hstate, hnone⟩ := hreaches.finished
    exact ⟨hnone, by rw [hstate]; rfl⟩
  · rw [u.updateLogging_eq hknown] at hreaches
    exact Commission.pursued hreaches
  · rw [u.updateVersion_eq version] at hreaches
    exact Commission.pursued hreaches
  · rw [u.requestVersion_eq version] at hreaches
    cases hreaches.inquired with
    | asking hstate hrequests hreplies =>
      refine ⟨hrequests, .inl ⟨hreplies, by rw [hstate]; rfl, fun hdropped answer factor => ?_⟩⟩
      simp [Situation.after?, hdropped, Thread.process, hstate, Thread.resume]
    | answered moment reply hstate hrequests hreplies =>
      refine ⟨hrequests, .inr ⟨moment, reply, hreplies, ?_⟩⟩
      rw [hstate]
      cases reply <;> rfl
  · exact ⟨rfl, fun poll => Updater.shows_success_iff, fun poll word => Updater.shows_failure_iff,
      fun word => rfl, _, rfl⟩

namespace Sample

/-- A cluster whose updates are asked for every five seconds, for a minute. -/
def updater : Updater := ⟨"demo", .fixed (.ofWhole 60) (.ofWhole 5)⟩

/-- Of three kinds of log, the auditing one is enabled. -/
def auditing : UpdateAction LoggingChange :=
  updater.updateLogging (.ofList ["api", "audit", "scheduler"]) (.ofList ["audit"])

/-- An update is accepted, and when it is asked for it has a given status. -/
def updateAnswer (status : UpdateStatus) : Cue ClusterRequest ClusterRequest.Answer :=
  .reply fun
    | .describeLogging _ => .ok ([] : List LogSetup)
    | .updateLogging .. => .ok (⟨"upd-1", "LoggingUpdate", .inProgress⟩ : Update)
    | .updateVersion .. => .ok (⟨"upd-2", "VersionUpdate", .inProgress⟩ : Update)
    | .describeUpdate _ id => .ok (⟨id, "Update", status⟩ : Update)

def auditingMoves : List (Move ClusterRequest ClusterRequest.Answer) :=
  [.resume [] (updateAnswer .inProgress) 1, .resume [] (updateAnswer .inProgress) 1,
   .pass (.ofWhole 5), .resume [] .wake 1, .resume [] (updateAnswer .successful) 1]

def auditingRun : Option (List (Entry ClusterRequest ClusterRequest.Answer) ×
    Situation (Thread ClusterRequest ClusterRequest.Answer LoggingChange)) :=
  (auditing.about ⟨⟨0⟩, false, 1⟩).2.follow
    (Thread.process ClusterRequest ClusterRequest.Answer LoggingChange) auditingMoves

/-- The status that a poll was answered with. -/
def reported (e : Entry ClusterRequest ClusterRequest.Answer) : Option UpdateStatus :=
  match e.event.occurrence with
  | .replied (.describeUpdate ..) (.ok (current : Update)) => some current.status
  | _ => none

theorem reports_of_reported {u : Updater} {update : Update} {poll : Poll (u.updateGoal update)}
    {status : UpdateStatus} (h : reported ((u.updateGoal update).entry poll) = some status) :
    Updater.Reports poll status := by
  obtain ⟨moment, answer⟩ := poll
  cases answer with
  | error cause => exact absurd (show (none : Option UpdateStatus) = some status from h) (by simp)
  | ok current => exact ⟨current, rfl, Option.some.inj h⟩

end Sample

/-- An update that was successful at the second poll is a success. -/
theorem cluster_updates_sample :
    ∃ (entries : List (Entry ClusterRequest ClusterRequest.Answer))
      (s : Situation (Thread ClusterRequest ClusterRequest.Answer LoggingChange)),
      Sample.auditingRun = some (entries, s) ∧
      requestsOf ((Sample.auditing.about ⟨⟨0⟩, false, 1⟩).1 ++ entries) =
        [.updateLogging "demo" [⟨true, ["audit"]⟩, ⟨false, ["api", "scheduler"]⟩],
          .describeUpdate "demo" "upd-1", .describeUpdate "demo" "upd-1"] ∧
      s.state.outcome? = some (.ok ⟨.ofList ["audit"], .ofList ["api", "scheduler"]⟩) := by
  have hseen : Sample.auditingRun.map (fun run =>
      (requestsOf ((Sample.auditing.about ⟨⟨0⟩, false, 1⟩).1 ++ run.1),
        (repliesOf ((Sample.auditing.about ⟨⟨0⟩, false, 1⟩).1 ++ run.1)).map Sample.reported)) =
      some ([.updateLogging "demo" [⟨true, ["audit"]⟩, ⟨false, ["api", "scheduler"]⟩],
          .describeUpdate "demo" "upd-1", .describeUpdate "demo" "upd-1"],
        [none, some .inProgress, some .successful]) := by decide +kernel
  obtain ⟨⟨entries, s⟩, hrun, hseen⟩ := Option.map_eq_some_iff.1 hseen
  obtain ⟨hrequests, hreported⟩ := Prod.mk.inj hseen
  refine ⟨entries, s, hrun, hrequests, ?_⟩
  obtain ⟨hlogging, -, -, hpolls⟩ := cluster_updates Sample.updater ⟨⟨0⟩, false, 1⟩
  obtain ⟨-, hpursued⟩ := (hlogging _ _ s _ ⟨_, entries, hrun, rfl⟩).2 (by decide +kernel)
  cases hpursued with
  | asking _ hreplies =>
    rw [Sample.auditing, hreplies] at hreported
    exact absurd hreported (by simp)
  | declined _ _ _ _ hreplies =>
    rw [Sample.auditing, hreplies] at hreported
    exact absurd hreported (by simp)
  | brokenOff _ _ polls broken text _ _ hreplies =>
    rw [Sample.auditing, hreplies, List.map_append] at hreported
    have hlast := congrArg List.getLast? hreported
    rw [List.map_singleton, List.getLast?_concat] at hlast
    exact absurd (show (some none : Option (Option UpdateStatus)) = some (some .successful) from hlast)
      (by simp)
  | granted moment update polls asked _ hreplies hawaited =>
    rw [Sample.auditing, hreplies, List.map_cons, List.map_map] at hreported
    have hmem : some .successful ∈ [some UpdateStatus.inProgress, some .successful] := by simp
    rw [← (List.cons.inj hreported).2] at hmem
    obtain ⟨poll, hpoll, hsuccessful⟩ := List.mem_map.1 hmem
    have hshows := ((hpolls update).2.1 poll).2 (Sample.reports_of_reported hsuccessful)
    exact hawaited.succeeded.2 ⟨poll, hpoll, hshows⟩

end Teardown
