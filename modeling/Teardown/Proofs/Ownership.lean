/-
# Lanes and their owners

A run takes its turns in lanes: the outermost one, and one for each part of every parallel group
that is under way.  A lane is owned by the lane that its group is in, and by nobody else: when a
lane is dropped, so are the lanes that it owns, one level after the other, each of them where it
stands.

That is all that is assumed of dropping (`LaneRun.Step`).  It takes some steps, as many as there
are lanes, but no time; a run is dropped at a moment at which nothing else happens in it.  Then
nothing outlives the run, however deep its groups are: `nothing_outlives_drop` shows that a run of
which the outermost lane is dropped has done before what it does undropped, and does nothing
after.  So it does no harm that `Situation.after?` drops a run as a whole.

* §1  which lanes a run has, and that ownership leads down from the outermost lane to each of them
      (`Swept.gone_of_mem_lanes`).
* §2  runs lane by lane.
* §3 to §6  before the drop, when it comes, and after it.  A run that is dropped stands still
     (`Still.step`), and the lanes without an owner can always be dropped, as often as there are
     any (`exists_swept`).

The remote side is not a part of the run.  A call that was in flight may still take effect there;
what does not happen is that anybody goes on with its answer.
-/
import Teardown.Proofs.Reach

namespace Teardown

open Run

/-! ## 1. Who owns which lane -/

namespace Run

/-- The node of a run at a place, as far as the node is under way. -/
def at? : Place → Run → Option Run
  | [], run => some run
  | i :: place, .sequence index current _ => if i = index then at? place current else none
  | i :: place, .parallel parts => parts[i]?.bind (at? place)
  | _ :: _, _ => none

/-- The lanes that the lane of a node owns because of the node, by their places: the lanes of a
parallel group.  A sequential group has its current part in its own lane. -/
def owned : Run → List Place
  | .sequence index current _ => current.owned.map (index :: ·)
  | .parallel parts => (List.range parts.length).map fun i => [i]
  | .waiting _ | .working .. | .closed _ => []

mutual

/-- All lanes inside a run, at any depth. -/
def lanes : Run → List Place
  | .sequence index current _ => current.lanes.map (index :: ·)
  | .parallel parts => lanesOf 0 parts
  | .waiting _ | .working .. | .closed _ => []

/-- The lanes of the parts from a given one on, and all lanes inside them. -/
def lanesOf (index : Nat) : List Run → List Place
  | [] => []
  | part :: parts => [index] :: part.lanes.map (index :: ·) ++ lanesOf (index + 1) parts

end

theorem mem_lanesOf {index : Nat} {parts : List Run} {lane : Place} :
    lane ∈ lanesOf index parts ↔ ∃ i part inner, parts[i]? = some part ∧
      lane = (index + i) :: inner ∧ (inner = [] ∨ inner ∈ part.lanes) := by
  induction parts generalizing index with
  | nil => simp [lanesOf]
  | cons part parts ih =>
    rw [lanesOf, List.cons_append, List.mem_cons, List.mem_append, List.mem_map, ih]
    constructor
    · rintro (rfl | ⟨inner, hinner, rfl⟩ | ⟨i, part', inner, hpart, rfl, hinner⟩)
      · exact ⟨0, part, [], rfl, rfl, .inl rfl⟩
      · exact ⟨0, part, inner, rfl, rfl, .inr hinner⟩
      · exact ⟨i + 1, part', inner, hpart, by simp; omega, hinner⟩
    · rintro ⟨i, part', inner, hpart, rfl, hinner⟩
      cases i with
      | zero =>
        obtain rfl := Option.some.inj hpart
        rcases hinner with rfl | hinner
        · exact .inl rfl
        · exact .inr (.inl ⟨inner, hinner, rfl⟩)
      | succ i => exact .inr (.inr ⟨i, part', inner, hpart, by simp; omega, hinner⟩)

theorem mem_lanes_parallel {parts : List Run} {lane : Place} :
    lane ∈ (Run.parallel parts).lanes ↔ ∃ i part inner, parts[i]? = some part ∧
      lane = i :: inner ∧ (inner = [] ∨ inner ∈ part.lanes) := by
  rw [lanes, mem_lanesOf]
  simp only [Nat.zero_add]

theorem mem_lanes_sequence {index : Nat} {current : Run} {rest : List (Plan Task)} {lane : Place} :
    lane ∈ (Run.sequence index current rest).lanes ↔
      ∃ inner ∈ current.lanes, lane = index :: inner := by
  rw [lanes, List.mem_map]
  exact exists_congr fun inner => and_congr_right fun _ => eq_comm

/-- A lane inside a run is not the lane that the run is in. -/
theorem ne_nil_of_mem_lanes {run : Run} {lane : Place} (h : lane ∈ run.lanes) : lane ≠ [] := by
  cases run with
  | waiting | working | closed => exact absurd h List.not_mem_nil
  | sequence index current rest =>
    obtain ⟨inner, -, rfl⟩ := mem_lanes_sequence.1 h
    exact List.cons_ne_nil _ _
  | parallel parts =>
    obtain ⟨i, part, inner, -, rfl, -⟩ := mem_lanes_parallel.1 h
    exact List.cons_ne_nil _ _

theorem mem_lanes_of_mem_owned (run : Run) {child : Place} (h : child ∈ run.owned) :
    child ∈ run.lanes := by
  match run with
  | .waiting _ | .working .. | .closed _ => exact absurd h List.not_mem_nil
  | .sequence index current rest =>
    obtain ⟨inner, hinner, rfl⟩ := List.mem_map.1 h
    exact mem_lanes_sequence.2 ⟨inner, mem_lanes_of_mem_owned current hinner, rfl⟩
  | .parallel parts =>
    obtain ⟨i, hi, rfl⟩ := List.mem_map.1 h
    have hpart := List.getElem?_eq_getElem (List.mem_range.1 hi)
    exact mem_lanes_parallel.2 ⟨i, _, [], hpart, rfl, .inl rfl⟩

theorem mem_lanes_of_owned {run node : Run} {lane child : Place} (hnode : run.at? lane = some node)
    (hchild : child ∈ node.owned) : lane ++ child ∈ run.lanes := by
  induction lane generalizing run with
  | nil =>
    obtain rfl := Option.some.inj hnode
    exact mem_lanes_of_mem_owned run hchild
  | cons i lane ih =>
    cases run with
    | waiting | working | closed => exact absurd hnode (by simp [at?])
    | sequence index current rest =>
      simp only [at?] at hnode
      split at hnode
      · rename_i hi
        exact mem_lanes_sequence.2 ⟨_, ih hnode, by rw [hi]; rfl⟩
      · exact absurd hnode (by simp)
    | parallel parts =>
      obtain ⟨part, hpart, hinner⟩ := Option.bind_eq_some_iff.1 hnode
      exact mem_lanes_parallel.2 ⟨i, part, _, hpart, rfl, .inr (ih hinner)⟩

/-- `Swept gone run`: with every lane that is gone, the lanes that it owns are gone too. -/
def Swept (gone : Place → Prop) (run : Run) : Prop :=
  ∀ lane node child, gone lane → run.at? lane = some node → child ∈ node.owned →
    gone (lane ++ child)

/-- **With the lane that a run is in, all lanes inside the run are gone**, level by level. -/
theorem Swept.gone_of_mem_lanes {gone : Place → Prop} {run : Run} (h : Swept gone run)
    (hroot : gone []) {lane : Place} (hlane : lane ∈ run.lanes) : gone lane := by
  induction lane generalizing run gone with
  | nil => exact absurd rfl (ne_nil_of_mem_lanes hlane)
  | cons i inner ih =>
    cases run with
    | waiting | working | closed => exact absurd hlane List.not_mem_nil
    | sequence index current rest =>
      obtain ⟨_, hinner, heq⟩ := mem_lanes_sequence.1 hlane
      obtain ⟨rfl, rfl⟩ := List.cons.inj heq
      -- The current part is in the lane of the group, and goes with it.
      have hpart : Swept (fun lane => lane = [] ∨ gone (i :: lane)) current := by
        rintro lane node child (rfl | hgone) hnode hchild
        · obtain rfl := Option.some.inj hnode
          exact .inr (h [] _ (i :: child) hroot rfl (List.mem_map_of_mem hchild))
        · exact .inr (h (i :: lane) node child hgone (by simpa [at?] using hnode) hchild)
      exact (ih hpart (.inl rfl) hinner).resolve_left (ne_nil_of_mem_lanes hinner)
    | parallel parts =>
      obtain ⟨j, part, _, hpart, heq, hinner⟩ := mem_lanes_parallel.1 hlane
      obtain ⟨rfl, rfl⟩ := List.cons.inj heq
      have hi : i < parts.length := (List.getElem?_eq_some_iff.1 hpart).1
      have hgone : gone [i] :=
        h [] _ [i] hroot rfl (List.mem_map.2 ⟨i, List.mem_range.2 hi, rfl⟩)
      rcases hinner with rfl | hinner
      · exact hgone
      · have hinnerSwept : Swept (fun lane => gone (i :: lane)) part :=
          fun lane node child hlane hnode =>
            h (i :: lane) node child hlane (Option.bind_eq_some_iff.2 ⟨part, hpart, hnode⟩)
        exact ih hinnerSwept hgone hinner

end Run

@[simp] theorem Plan.lane_nil {ℓ : Type} (plan : Plan ℓ) : plan.lane [] = [] := by
  cases plan <;> rfl

/-- **A turn is one of a lane of the run**, the outermost one or a lane inside. -/
theorem Traced.lane_of_turn {mayRefuse : Prop} {plan : Plan Task} {run : Run}
    {events : List RunEvent} (h : Traced mayRefuse plan run events) {c : Conditions}
    {cue : Cue Request Request.Answer} {place : Place} {turn : Turn}
    (hturn : resumeAt c cue place run = some turn) :
    plan.lane place = [] ∨ plan.lane place ∈ run.lanes := by
  induction h generalizing place turn with
  | waiting plan =>
    obtain ⟨rfl, -⟩ := resumeAt_waiting hturn
    exact .inl (Plan.lane_nil plan)
  | refused | finished =>
    rw [resumeAt_closed] at hturn
    exact absurd hturn (by simp)
  | @working task past thread htrace hunderWay =>
    obtain ⟨rfl, -⟩ := resumeAt_working hturn
    exact .inl rfl
  | @group mode nested plans parts run events own hlen hparts hplaces horder hstands ih =>
    cases hstands with
    | done | refused | stopped | settled =>
      rw [resumeAt_closed] at hturn
      exact absurd hturn (by simp)
    | underWay index current rest hcurrent =>
      obtain ⟨place', turn', rfl, hturn', -⟩ := resumeAt_sequence hturn
      have hpart : (List.replicate index passed ++ current :: rest.map .waiting)[index]? =
          some current := by simp
      obtain ⟨plan, hplan⟩ := exists_getElem?_of_length_eq hlen hpart
      have hinner := ih index plan current hplan hpart hturn'
      by_cases hnil : plan.lane place' = []
      · exact .inl (by simp [Plan.lane, hplan, hnil])
      · refine .inr (mem_lanes_sequence.2 ⟨_, hinner.resolve_left hnil, ?_⟩)
        simp [Plan.lane, hplan, hnil]
    | apart parts =>
      rcases resumeAt_parallel hturn with
        ⟨outcomes, rfl, -, -⟩ | ⟨i, place', part, turn', rfl, hpart, hturn', -⟩
      · exact .inl rfl
      · obtain ⟨plan, hplan⟩ := exists_getElem?_of_length_eq hlen hpart
        refine .inr (mem_lanes_parallel.2 ⟨i, part, _, hpart, ?_, ih i plan part hplan hpart hturn'⟩)
        simp [Plan.lane, hplan]

/-! ## 2. Runs, lane by lane -/

/-- A run with the lanes that are gone, and the moment at which its outermost lane was dropped.  The
situation is that of the run undropped. -/
structure LaneRun where
  run : Situation Run
  gone : List Place
  dropped : Option Moment

namespace LaneRun

def Swept (s : LaneRun) : Prop := Run.Swept (· ∈ s.gone) s.run.state

def drop (s : LaneRun) : LaneRun := { s with gone := [] :: s.gone, dropped := some s.run.now }

/-- `Step plan s happened s'`: the run of the plan changes, lane by lane.  A lane that is gone has no
turn, and nothing has one at the moment at which the run is dropped; before time passes, the lanes
without an owner are dropped. -/
inductive Step (plan : Plan Task) :
    LaneRun → List (Entry Request Request.Answer) → LaneRun → Prop
  | turn {s : LaneRun} {place : Place} {cue : Cue Request Request.Answer} {factor : Binary64}
      {happened : List (Entry Request Request.Answer)} {next : Situation Run} :
      plan.lane place ∉ s.gone → s.dropped ≠ some s.run.now →
      s.run.after? Run.process (.resume place cue factor) = some (happened, next) →
      Step plan s happened { s with run := next }
  | cancel (s : LaneRun) :
      Step plan s [⟨s.run.now, [], .cancelled⟩] { s with run := { s.run with cancelled := true } }
  | pass {s : LaneRun} (length : Duration) : s.Swept →
      (s.dropped = none → s.run.mayPass Run.process length = true) →
      Step plan s [] { s with run := { s.run with now := s.run.now + length } }
  | drop {s : LaneRun} : s.dropped = none → Step plan s [] s.drop
  | dropOwned {s : LaneRun} {lane : Place} {node : Run} {child : Place} : lane ∈ s.gone →
      s.run.state.at? lane = some node → child ∈ node.owned →
      Step plan s [] { s with gone := (lane ++ child) :: s.gone }

/-- `Steps plan s happened s'`: the same for several changes, with all that happens in them. -/
inductive Steps (plan : Plan Task) :
    LaneRun → List (Entry Request Request.Answer) → LaneRun → Prop
  | none (s : LaneRun) : Steps plan s [] s
  | more {s s' s'' : LaneRun} {past now : List (Entry Request Request.Answer)} :
      Steps plan s past s' → Step plan s' now s'' → Steps plan s (past ++ now) s''

def whole (run : Situation Run) : LaneRun := ⟨run, [], none⟩

variable {plan : Plan Task} {s s' s'' : LaneRun} {past now : List (Entry Request Request.Answer)}

theorem Steps.trans (h : Steps plan s past s') (h' : Steps plan s' now s'') :
    Steps plan s (past ++ now) s'' := by
  induction h' with
  | none => rwa [List.append_nil]
  | more _ hstep ih =>
    rw [← List.append_assoc]
    exact ih.more hstep

theorem Step.steps (h : Step plan s now s') : Steps plan s now s' := (Steps.none s).more h

theorem swept_whole (run : Situation Run) : (whole run).Swept :=
  fun _ _ _ hgone => absurd hgone List.not_mem_nil

/-! ## 3. Before a run is dropped -/

/-- A run that is not dropped does lane by lane what it does. -/
theorem steps_of_follow {t t' : Situation Run} {moves : List (Move Request Request.Answer)}
    (hdrop : Move.drop ∉ moves) (h : t.follow Run.process moves = some (now, t')) :
    Steps plan (whole t) now (whole t') := by
  have hstart : Steps plan (whole t) [] (whole t) := .none _
  refine Situation.follow_induction (fun t' past => Steps plan (whole t) past (whole t')) ?_ []
    hstart h
  intro move hmove t' t'' past now hpast hafter
  refine hpast.more ?_
  rcases Situation.after?_cases hafter with
    ⟨place, cue, factor, events, state, rfl, -, -, -, -⟩ | ⟨-, rfl, rfl⟩ |
      ⟨length, rfl, rfl, rfl⟩ | ⟨rfl, -, -⟩
  · exact Step.turn (s := whole t') List.not_mem_nil (by simp [whole]) hafter
  · exact Step.cancel (whole t')
  · refine Step.pass (s := whole t') length (swept_whole t') fun _ => ?_
    cases hmay : t'.mayPass Run.process length with
    | true => exact hmay
    | false => exact absurd hafter (by simp [Situation.after?, hmay])
  · exact absurd hmove hdrop

/-! ## 4. When it is dropped -/

/-- `Still t s later`: the run was dropped at the situation `t`, and stands still since. -/
structure Still (t : Situation Run) (s : LaneRun) (later : List (Entry Request Request.Answer)) :
    Prop where
  state : s.run.state = t.state
  dropped : s.dropped = some t.now
  root : [] ∈ s.gone
  swept : s.run.now = t.now ∨ s.Swept
  outside : ∀ entry ∈ later, entry.event = ⟨[], .cancelled⟩
  follow : ∃ moves, ({ t with dropped := true } : Situation Run).follow Run.process moves =
    some (later, { s.run with dropped := true })

variable {t : Situation Run} {later : List (Entry Request Request.Answer)}

theorem still_drop (s : LaneRun) : Still s.run s.drop [] where
  state := rfl
  dropped := rfl
  root := List.mem_cons_self
  swept := .inl rfl
  outside := fun _ h => absurd h List.not_mem_nil
  follow := ⟨[], rfl⟩

/-- **A dropped run changes no more.**  Nothing of it has a turn: at the moment itself nothing
happens, and later all lanes are gone. -/
theorem Still.step (h : Still t s later) {mayRefuse : Prop} {events : List RunEvent}
    (htraced : Traced mayRefuse plan t.state events) (hstep : Step plan s now s') :
    Still t s' (later ++ now) := by
  obtain ⟨moves, hfollow⟩ := h.follow
  cases hstep with
  | @turn place cue factor _ next hlane hmoment hafter =>
    rcases h.swept with hnow | hswept
    · exact absurd (hnow ▸ h.dropped) hmoment
    · rcases Situation.after?_cases hafter with
        ⟨_, _, _, events, state, hmove, -, hturn, -, -⟩ | ⟨hmove, -, -⟩ | ⟨_, hmove, -, -⟩ |
          ⟨hmove, -, -⟩
      · obtain ⟨rfl, rfl, rfl⟩ := Move.resume.inj hmove
        obtain ⟨turn, hresume, -⟩ := Option.map_eq_some_iff.1 hturn
        rw [← h.state] at htraced
        refine absurd ?_ hlane
        rcases htraced.lane_of_turn hresume with hroot | hinner
        · exact hroot ▸ h.root
        · exact hswept.gone_of_mem_lanes h.root hinner
      all_goals exact absurd hmove (by simp)
  | cancel =>
    refine ⟨h.state, h.dropped, h.root, h.swept, fun entry hentry => ?_, moves ++ [.cancel], ?_⟩
    · rcases List.mem_append.1 hentry with hentry | hentry
      · exact h.outside entry hentry
      · obtain rfl := List.mem_singleton.1 hentry
        rfl
    · exact Situation.follow_append.2
        ⟨_, _, [⟨s.run.now, [], .cancelled⟩], hfollow, rfl, rfl⟩
  | pass length hswept hmay =>
    refine ⟨h.state, h.dropped, h.root, .inr hswept, ?_, moves ++ [.pass length], ?_⟩
    · rw [List.append_nil]
      exact h.outside
    · exact Situation.follow_append.2 ⟨_, _, _, hfollow, rfl, rfl⟩
  | drop hnone => exact absurd (hnone.symm.trans h.dropped) (by simp)
  | @dropOwned lane node child hgone hnode hchild =>
    refine ⟨h.state, h.dropped, List.mem_cons_of_mem _ h.root, h.swept.imp_right fun hswept => ?_,
      ?_, moves, ?_⟩
    · -- The lane that is dropped is already among those that are gone.
      have hmem := hswept lane node child hgone hnode hchild
      intro lane' node' child' hgone' hnode' hchild'
      have hold : lane' ∈ s.gone := by
        rcases List.mem_cons.1 hgone' with rfl | hold
        · exact hmem
        · exact hold
      exact List.mem_cons_of_mem _ (hswept lane' node' child' hold hnode' hchild')
    · rw [List.append_nil]
      exact h.outside
    · rw [List.append_nil]
      exact hfollow

/-! ## 5. All lanes go -/

def left (s : LaneRun) : List Place := s.run.state.lanes.filter (· ∉ s.gone)

/-- One lane less is left when a lane is dropped with its owner. -/
theorem length_left_lt {lane child : Place} {node : Run} (hnode : s.run.state.at? lane = some node)
    (hchild : child ∈ node.owned) (hleft : lane ++ child ∉ s.gone) :
    ({ s with gone := (lane ++ child) :: s.gone } : LaneRun).left.length < s.left.length := by
  have hmem : lane ++ child ∈ s.left :=
    List.mem_filter.2 ⟨mem_lanes_of_owned hnode hchild, by simpa using hleft⟩
  have hfilter : ({ s with gone := (lane ++ child) :: s.gone } : LaneRun).left =
      s.left.filter (· ≠ lane ++ child) := by
    simp [left, List.filter_filter, not_or]
  rw [hfilter]
  exact List.length_filter_lt_length_iff_exists.2 ⟨_, hmem, by simp⟩

/-- **The lanes without an owner can always be dropped**, without time and without anything else. -/
theorem exists_swept (plan : Plan Task) (s : LaneRun) :
    ∃ s', Steps plan s [] s' ∧ s'.run = s.run ∧ s'.Swept ∧ ∀ lane ∈ s.gone, lane ∈ s'.gone := by
  by_cases hswept : s.Swept
  · exact ⟨s, .none s, rfl, hswept, fun _ h => h⟩
  · obtain ⟨lane, node, child, hgone, hnode, hchild, hleft⟩ :
        ∃ lane node child, lane ∈ s.gone ∧ s.run.state.at? lane = some node ∧ child ∈ node.owned ∧
          lane ++ child ∉ s.gone := by
      simpa [Swept, Run.Swept] using hswept
    have hless := length_left_lt hnode hchild hleft
    obtain ⟨s', hsteps, hrun, hswept', hkept⟩ :=
      exists_swept plan { s with gone := (lane ++ child) :: s.gone }
    exact ⟨s', (Step.dropOwned hgone hnode hchild).steps.trans hsteps, hrun, hswept',
      fun lane hlane => hkept lane (List.mem_cons_of_mem _ hlane)⟩
termination_by s.left.length

/-! ## 6. Whole runs -/

/-- `Course start past s`: what can have become of a run, lane by lane. -/
inductive Course (start : Situation Run) : List (Entry Request Request.Answer) → LaneRun → Prop
  | undropped {moves : List (Move Request Request.Answer)} {past : List (Entry Request Request.Answer)}
      {t : Situation Run} : .drop ∉ moves → start.follow Run.process moves = some (past, t) →
      Course start past (whole t)
  | dropped {moves : List (Move Request Request.Answer)}
      {past later : List (Entry Request Request.Answer)} {t : Situation Run} {s : LaneRun} :
      .drop ∉ moves → start.follow Run.process moves = some (past, t) → Still t s later →
      Course start (past ++ later) s

/-- A run that is not dropped goes on by one move. -/
theorem Course.undropped_more {start t t' : Situation Run}
    {moves : List (Move Request Request.Answer)} {move : Move Request Request.Answer}
    (hdrop : .drop ∉ moves) (hfollow : start.follow Run.process moves = some (past, t))
    (hmove : move ≠ .drop) (hafter : t.after? Run.process move = some (now, t')) :
    Course start (past ++ now) (whole t') := by
  have hone : t.follow Run.process [move] = some (now, t') :=
    Situation.follow_cons.2 ⟨now, t', [], hafter, rfl, (List.append_nil now).symm⟩
  have hdrop' : .drop ∉ moves ++ [move] := by
    intro hmem
    rcases List.mem_append.1 hmem with hmem | hmem
    · exact hdrop hmem
    · exact hmove (List.mem_singleton.1 hmem).symm
  exact .undropped hdrop' (Situation.follow_append.2 ⟨past, t, now, hfollow, hone, rfl⟩)

/-- **Every change** leads to what can have become of the run. -/
theorem Course.step {moment : Moment} {cancelled : Bool}
    (h : Course (Run.about plan moment cancelled) past s) (hstep : Step plan s now s') :
    Course (Run.about plan moment cancelled) (past ++ now) s' := by
  cases h with
  | dropped hdrop hfollow hstill =>
    rw [List.append_assoc]
    exact .dropped hdrop hfollow (hstill.step (traced_follow hfollow) hstep)
  | @undropped moves _ t hdrop hfollow =>
    cases hstep with
    | turn _ _ hafter => exact undropped_more hdrop hfollow (by simp) hafter
    | cancel =>
      have hafter : t.after? Run.process .cancel = some (_, _) := rfl
      exact undropped_more hdrop hfollow (by simp) hafter
    | pass length _ hmay =>
      have hafter : t.after? Run.process (.pass length) = some ([], _) := if_pos (hmay rfl)
      exact undropped_more hdrop hfollow (by simp) hafter
    | drop => exact .dropped hdrop hfollow (still_drop (whole t))
    | dropOwned hgone => exact absurd hgone List.not_mem_nil

theorem Steps.course {moment : Moment} {cancelled : Bool}
    (h : Steps plan (whole (Run.about plan moment cancelled)) past s) :
    Course (Run.about plan moment cancelled) past s := by
  induction h with
  | none =>
    have hnone : Move.drop ∉ ([] : List (Move Request Request.Answer)) := List.not_mem_nil
    exact .undropped hnone rfl
  | more _ hstep ih => exact ih.step hstep

end LaneRun

/-- **Nothing outlives a run that is dropped.**  A run can be dropped at any moment.  What has happened
then is what has happened in the undropped run, and of all that happens later nothing belongs to the
run: at no depth does a task begin or go on or ask for anything, whatever lanes have been dropped so
far.  All lanes can indeed be dropped, without time, and it is as if the run had been dropped as a
whole. -/
theorem nothing_outlives_drop (plan : Plan Task) (start : Moment) (cancelled : Bool) :
    (∀ moves before t, Move.drop ∉ moves →
      (Run.about plan start cancelled).follow Run.process moves = some (before, t) →
      LaneRun.Steps plan (.whole (Run.about plan start cancelled)) before (LaneRun.whole t).drop) ∧
    ∀ past s moment, LaneRun.Steps plan (.whole (Run.about plan start cancelled)) past s →
      s.dropped = some moment →
      ∃ moves before t later, Move.drop ∉ moves ∧
        (Run.about plan start cancelled).follow Run.process moves = some (before, t) ∧
        t.now = moment ∧ past = before ++ later ∧
        (∀ entry ∈ later, entry.event = ⟨[], .cancelled⟩) ∧ s.run.state = t.state ∧
        (∃ more, (Run.about plan start cancelled).follow Run.process (moves ++ .drop :: more) =
          some (past, { s.run with dropped := true })) ∧
        ∃ s', LaneRun.Steps plan s [] s' ∧ s'.run = s.run ∧ [] ∈ s'.gone ∧
          ∀ lane ∈ s.run.state.lanes, lane ∈ s'.gone := by
  refine ⟨fun moves before t hdrop hfollow => ?_, fun past s moment hsteps hdropped => ?_⟩
  · have hwhole : LaneRun.Steps plan _ before (LaneRun.whole t) :=
      LaneRun.steps_of_follow hdrop hfollow
    rw [← List.append_nil before]
    exact hwhole.more (.drop rfl)
  · cases hsteps.course with
    | undropped => exact absurd hdropped (by simp [LaneRun.whole])
    | @dropped moves before later t _ hdrop hfollow hstill =>
      obtain ⟨more, hmore⟩ := hstill.follow
      obtain ⟨s', hsweep, hrun, hswept, hkept⟩ := LaneRun.exists_swept plan s
      have hroot := hkept [] hstill.root
      refine ⟨moves, before, t, later, hdrop, hfollow, ?_, rfl, hstill.outside, hstill.state,
        ⟨more, ?_⟩, s', hsweep, hrun, hroot, fun lane hlane => ?_⟩
      · exact Option.some.inj (hstill.dropped.symm.trans hdropped)
      · exact Situation.follow_append.2 ⟨before, t, later, hfollow,
          Situation.follow_cons.2 ⟨[], { t with dropped := true }, later, rfl, hmore, rfl⟩, rfl⟩
      · rw [← hrun] at hlane
        exact hswept.gone_of_mem_lanes hroot hlane

namespace Sample

def nest : Plan Task :=
  .group .parallel false
    [.group .parallel true
      [.leaf ⟨"errand", .supplied 1 none⟩, .leaf ⟨"errand", .supplied 2 none⟩]]

/-- One of the errands is under way, and the other one has not begun. -/
def nestMoves : List (Move Request Request.Answer) :=
  [.resume [] .start 1, .resume [0] .start 1, .resume [0, 1] .start 1]

def nestRun : Option (List (Entry Request Request.Answer) × Situation Run) :=
  (Run.about nest ⟨0⟩ false).follow Run.process nestMoves

end Sample

/-- The errand that is under way goes with the group, and so will the one that has not begun. -/
theorem nothing_outlives_drop_sample :
    ∃ past s, LaneRun.Steps Sample.nest (.whole (Run.about Sample.nest ⟨0⟩ false)) past s ∧
      s.dropped = some ⟨0⟩ ∧ s.gone = [[0, 1], [0], []] ∧
      ∃ s', LaneRun.Steps Sample.nest s [] s' ∧ s'.run = s.run ∧ [0, 0] ∈ s'.gone := by
  have hover : Sample.nestRun.isSome = true := rfl
  have hrun : (Run.about Sample.nest ⟨0⟩ false).follow Run.process Sample.nestMoves =
      some (Sample.nestRun.get hover) := (Option.some_get hover).symm
  have hdrop : Move.drop ∉ Sample.nestMoves := by simp [Sample.nestMoves]
  obtain ⟨hbefore, hafter⟩ := nothing_outlives_drop Sample.nest ⟨0⟩ false
  have houtermost := hbefore _ _ _ hdrop hrun
  have hgroup := houtermost.more (.dropOwned List.mem_cons_self rfl List.mem_cons_self)
  have herrand := hgroup.more
    (.dropOwned List.mem_cons_self rfl (List.mem_cons_of_mem _ List.mem_cons_self))
  obtain ⟨_, _, _, _, -, -, -, -, -, -, -, s', hsweep, hsame, -, hall⟩ := hafter _ _ _ herrand rfl
  have hlanes : (Sample.nestRun.get hover).2.state.lanes = [[0], [0, 0], [0, 1]] := rfl
  have hother : [0, 0] ∈ (Sample.nestRun.get hover).2.state.lanes := by simp [hlanes]
  exact ⟨_, _, herrand, rfl, rfl, s', hsweep, hsame, hall [0, 0] hother⟩

end Teardown
