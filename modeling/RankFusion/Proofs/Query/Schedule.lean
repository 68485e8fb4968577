import Mathlib.Logic.Relation
import RankFusion.Query.Run

/-!
This module contains the run of a query as a transition system. The steps of the caller and of the
two sub-searches may come in any order; what a sub-search comes to does not depend on when it ends.
An invariant that every step preserves tells what the caller may be left with.
-/

namespace RankFusion

inductive Task where
  /-- It was not asked for. -/
  | absent
  /-- It has not ended. It may not have begun, and it may have been told to stop. -/
  | pending (begun stopped : Bool)
  | ended (outcome : Except Failure Batch)
  | cancelled

namespace Task

def isPending : Task → Bool
  | pending _ _ => true
  | _ => false

/--
The sub-search once it was told to stop. One that has ended takes no notice.
-/
def stop : Task → Task
  | pending begun _ => pending begun true
  | t => t

def work : Task → Nat
  | pending false _ => 2
  | pending true _ => 1
  | _ => 0

theorem work_stop (t : Task) : t.stop.work = t.work := by
  cases t with
  | pending begun _ => cases begun <;> rfl
  | _ => rfl

end Task

inductive Stage where
  /-- Nothing was asked for yet. -/
  | ready
  /-- Both sub-searches at the same time. The first failure wakes the caller. -/
  | gathering (first : Option Failure)
  /-- The end of what was told to stop, after a failure. -/
  | draining (fault : Failure)
  /-- One sub-search after the other. -/
  | awaiting (side : Side)
  | left (outcome : Except Interruption Batch)

namespace Stage

/--
The stage after a sub-search has ended. Only the first failure is noted.
-/
def note (outcome : Except Failure Batch) : Stage → Stage
  | gathering none =>
    match outcome with
    | .ok _ => gathering none
    | .error f => gathering (some f)
  | st => st

def work : Stage → Nat
  | ready => 8
  | gathering _ => 3
  | draining _ => 2
  | awaiting .fts => 5
  | awaiting .vector => 3
  | left _ => 0

theorem work_note (outcome : Except Failure Batch) (st : Stage)
    : (st.note outcome).work = st.work := by
  unfold note
  split
  . split <;> rfl
  . rfl

end Stage

structure Snapshot where
  tasks : Side → Task
  stage : Stage
  issued : List Side

namespace Snapshot

def initial : Snapshot := ⟨fun _ => .absent, .ready, []⟩

def set (s : Snapshot) (side : Side) (t : Task) : Snapshot :=
  { s with tasks := fun x => if x = side then t else s.tasks x }

def issue (s : Snapshot) (side : Side) : Snapshot :=
  { s.set side (.pending true false) with issued := s.issued ++ [side] }

@[simp]
theorem tasks_set_self (s : Snapshot) (side : Side) (t : Task) : (s.set side t).tasks side = t :=
  if_pos rfl

theorem tasks_set_of_ne (s : Snapshot) {side x : Side} (t : Task) (h : x ≠ side)
    : (s.set side t).tasks x = s.tasks x :=
  if_neg h

def work (s : Snapshot) : Nat := s.stage.work + (s.tasks .vector).work + (s.tasks .fts).work

theorem tasks_issue_self (s : Snapshot) (side : Side)
    : (s.issue side).tasks side = .pending true false :=
  if_pos rfl

theorem tasks_issue_of_ne (s : Snapshot) {side x : Side} (h : x ≠ side)
    : (s.issue side).tasks x = s.tasks x :=
  if_neg h

end Snapshot

namespace HybridQuery

/--
The failure with which a query does not begin: it is without a strategy, or breaks a rule.
-/
def refusal? (q : HybridQuery) : Option Failure :=
  match q.reranker.name with
  | .error f => some f
  | .ok _ =>
    match q.config.validate with
    | .error f => some f
    | .ok () => none

def conclude (q : HybridQuery) (vector fts : Batch) : Except Interruption Batch :=
  (q.afterSubSearches {} (.ok (vector, fts))).outcome

variable (q : HybridQuery) (answer : Side → Except Failure Batch)

inductive Step : Snapshot → Snapshot → Prop where
  | refuse {s f} (hstage : s.stage = .ready) (hrefusal : q.refusal? = some f)
    : Step s { s with stage := .left (.error (.failed f)) }
  /-- Both sub-searches are asked for, and none has begun. -/
  | fork {s} (hstage : s.stage = .ready) (hrefusal : q.refusal? = none)
    (hmode : q.concurrent.isTruthy = true)
    : Step s { s with tasks := fun _ => .pending false false, stage := .gathering none }
  /-- The text side alone is asked for. -/
  | call {s} (hstage : s.stage = .ready) (hrefusal : q.refusal? = none)
    (hmode : q.concurrent.isTruthy = false)
    : Step s { s.issue .fts with stage := .awaiting .fts }
  | start {s side} (htask : s.tasks side = .pending false false)
    : Step s (s.issue side)
  /-- A sub-search ends by itself, even if it was told to stop. -/
  | finish {s side stopped} (htask : s.tasks side = .pending true stopped)
    : Step s { s.set side (.ended (answer side)) with stage := s.stage.note (answer side) }
  | cancel {s side begun} (htask : s.tasks side = .pending begun true)
    : Step s (s.set side .cancelled)
  /-- The caller is woken by a failure, and tells both sub-searches to stop. -/
  | wake {s f} (hstage : s.stage = .gathering (some f))
    : Step s { s with tasks := fun side => (s.tasks side).stop, stage := .draining f }
  | drain {s f} (hstage : s.stage = .draining f)
    (htasks : ∀ side, (s.tasks side).isPending = false)
    : Step s { s with stage := .left (.error (.failed f)) }
  | gather {s v t} (hstage : s.stage = .gathering none)
    (hvector : s.tasks .vector = .ended (.ok v)) (hfts : s.tasks .fts = .ended (.ok t))
    : Step s { s with stage := .left (q.conclude v t) }
  /-- The text side returned, and the vector side is asked for. -/
  | next {s t} (hstage : s.stage = .awaiting .fts) (hfts : s.tasks .fts = .ended (.ok t))
    : Step s { s.issue .vector with stage := .awaiting .vector }
  | fail {s side f} (hstage : s.stage = .awaiting side)
    (htask : s.tasks side = .ended (.error f))
    : Step s { s with stage := .left (.error (.failed f)) }
  | pass {s v t} (hstage : s.stage = .awaiting .vector)
    (hvector : s.tasks .vector = .ended (.ok v)) (hfts : s.tasks .fts = .ended (.ok t))
    : Step s { s with stage := .left (q.conclude v t) }

inductive Reachable : Snapshot → Prop where
  | initial : Reachable .initial
  | step {s s' : Snapshot} : Reachable s → Step q answer s s' → Reachable s'

variable {q : HybridQuery} {answer : Side → Except Failure Batch} {s s' : Snapshot}

structure AtReady (s : Snapshot) : Prop where
  tasks : ∀ side, s.tasks side = .absent
  issued : s.issued = []

/--
Both sub-searches were asked for and none was told to stop. A failure that has come is noted.
-/
structure AtGathering (q : HybridQuery) (s : Snapshot) (first : Option Failure) : Prop where
  refusal : q.refusal? = none
  mode : q.concurrent.isTruthy = true
  tasks : ∀ side, (∃ begun, s.tasks side = .pending begun false) ∨ ∃ o, s.tasks side = .ended o
  unnoted : first = none → ∀ side f, s.tasks side ≠ .ended (.error f)
  noted : ∀ f, first = some f → ∃ side, s.tasks side = .ended (.error f)

/--
One of the answers is the failure, and all that has not ended was told to stop.
-/
structure AtDraining (q : HybridQuery) (answer : Side → Except Failure Batch) (s : Snapshot)
    (fault : Failure) : Prop where
  refusal : q.refusal? = none
  mode : q.concurrent.isTruthy = true
  failed : ∃ side, answer side = .error fault
  asked : ∀ side, s.tasks side ≠ .absent
  tasks : ∀ side begun, s.tasks side ≠ .pending begun false

structure AtAwaitingFts (q : HybridQuery) (s : Snapshot) : Prop where
  refusal : q.refusal? = none
  mode : q.concurrent.isTruthy = false
  fts : s.tasks .fts = .pending true false ∨ ∃ o, s.tasks .fts = .ended o
  vector : s.tasks .vector = .absent
  issued : s.issued = [.fts]

structure AtAwaitingVector (q : HybridQuery) (s : Snapshot) : Prop where
  refusal : q.refusal? = none
  mode : q.concurrent.isTruthy = false
  fts : ∃ t, s.tasks .fts = .ended (.ok t)
  vector : s.tasks .vector = .pending true false ∨ ∃ o, s.tasks .vector = .ended o

/--
The ways in which a run ends. Nothing is pending in any of them.
-/
inductive Ends (q : HybridQuery) (answer : Side → Except Failure Batch) (s : Snapshot) :
    Except Interruption Batch → Prop where
  | refused {f} (hrefusal : q.refusal? = some f) (hissued : s.issued = [])
    : Ends q answer s (.error (.failed f))
  | concluded {v t} (hrefusal : q.refusal? = none) (hvector : s.tasks .vector = .ended (.ok v))
    (hfts : s.tasks .fts = .ended (.ok t))
    : Ends q answer s (q.conclude v t)
  | stopped {side f} (hrefusal : q.refusal? = none) (hmode : q.concurrent.isTruthy = true)
    (hanswer : answer side = .error f) (hasked : ∀ x, s.tasks x ≠ .absent)
    : Ends q answer s (.error (.failed f))
  | ftsFailed {f} (hrefusal : q.refusal? = none) (hmode : q.concurrent.isTruthy = false)
    (hfts : s.tasks .fts = .ended (.error f)) (hissued : s.issued = [.fts])
    : Ends q answer s (.error (.failed f))
  | vectorFailed {t f} (hrefusal : q.refusal? = none) (hmode : q.concurrent.isTruthy = false)
    (hfts : s.tasks .fts = .ended (.ok t)) (hvector : s.tasks .vector = .ended (.error f))
    : Ends q answer s (.error (.failed f))

def Valid (q : HybridQuery) (answer : Side → Except Failure Batch) (s : Snapshot) : Prop :=
  match s.stage with
  | .ready => AtReady s
  | .gathering first => AtGathering q s first
  | .draining f => AtDraining q answer s f
  | .awaiting .fts => AtAwaitingFts q s
  | .awaiting .vector => AtAwaitingVector q s
  | .left o => (∀ side, (s.tasks side).isPending = false) ∧ Ends q answer s o

def Honest (answer : Side → Except Failure Batch) (s : Snapshot) : Prop :=
  ∀ side o, s.tasks side = .ended o → o = answer side

theorem honest_set (h : Honest answer s) {side : Side} {t : Task}
    (ht : ∀ o, t = .ended o → o = answer side)
    : Honest answer (s.set side t) := by
  intro x o hx
  by_cases hside : x = side
  . subst hside
    rw [Snapshot.tasks_set_self] at hx
    exact ht o hx
  . rw [Snapshot.tasks_set_of_ne s t hside] at hx
    exact h x o hx

theorem honest_step (h : Honest answer s) (hstep : Step q answer s s') : Honest answer s' := by
  cases hstep with
  | refuse | drain | gather | fail | pass => exact h
  | fork =>
    intro x o hx
    cases hx
  | call => exact honest_set h (by simp)
  | start => exact honest_set h (by simp)
  | next => exact honest_set h (by simp)
  | cancel => exact honest_set h (by simp)
  | finish =>
    apply honest_set h
    rintro o ho
    cases ho
    rfl
  | wake =>
    intro x o hx
    apply h x o
    cases ht : s.tasks x with
    | pending begun stopped =>
      simp only [ht, Task.stop] at hx
      cases hx
    | absent =>
      simp only [ht, Task.stop] at hx
      cases hx
    | cancelled =>
      simp only [ht, Task.stop] at hx
      cases hx
    | ended o' =>
      simp only [ht, Task.stop] at hx
      exact hx

theorem not_pending_of_ended {side : Side} (h : ∃ o, s.tasks side = .ended o) {begun stopped : Bool}
    : s.tasks side ≠ .pending begun stopped := by
  obtain ⟨o, ho⟩ := h
  rw [ho]
  exact Task.noConfusion

theorem AtGathering.start {first : Option Failure} (h : AtGathering q s first) {side : Side}
    (htask : s.tasks side = .pending false false)
    : AtGathering q (s.issue side) first := by
  -- What has ended is not what begins.
  have hended : ∀ x o, (s.issue side).tasks x = .ended o ↔ s.tasks x = .ended o := by
    intro x o
    by_cases hx : x = side
    . rw [hx, Snapshot.tasks_issue_self, htask]
      exact iff_of_false Task.noConfusion Task.noConfusion
    . rw [Snapshot.tasks_issue_of_ne s hx]
  refine ⟨h.refusal, h.mode, ?_, ?_, ?_⟩
  . intro x
    by_cases hx : x = side
    . exact .inl ⟨true, by rw [hx, Snapshot.tasks_issue_self]⟩
    . rw [Snapshot.tasks_issue_of_ne s hx]
      exact h.tasks x
  . intro hfirst x f
    rw [ne_eq, hended]
    exact h.unnoted hfirst x f
  . intro f hfirst
    obtain ⟨x, hx⟩ := h.noted f hfirst
    exact ⟨x, (hended x _).2 hx⟩

theorem AtGathering.finish {first : Option Failure} (h : AtGathering q s first) {side : Side}
    {stopped : Bool} (htask : s.tasks side = .pending true stopped)
    : Valid q answer
        { s.set side (.ended (answer side)) with
          stage := (Stage.gathering first).note (answer side) } := by
  have htasks : ∀ x, (∃ begun, (s.set side (.ended (answer side))).tasks x = .pending begun false)
      ∨ ∃ o, (s.set side (.ended (answer side))).tasks x = .ended o := by
    intro x
    by_cases hx : x = side
    . exact .inr ⟨answer side, by rw [hx, Snapshot.tasks_set_self]⟩
    . rw [Snapshot.tasks_set_of_ne s _ hx]
      exact h.tasks x
  cases first with
  | some g =>
    refine ⟨h.refusal, h.mode, htasks, fun h => (by cases h), ?_⟩
    rintro _ ⟨⟩
    obtain ⟨x, hx⟩ := h.noted g rfl
    refine ⟨x, ?_⟩
    have hne : x ≠ side := by
      rintro rfl
      exact not_pending_of_ended ⟨_, hx⟩ htask
    rw [← hx]
    exact Snapshot.tasks_set_of_ne s _ hne
  | none =>
    cases hanswer : answer side with
    | error f =>
      rw [hanswer] at htasks
      refine ⟨h.refusal, h.mode, htasks, fun h => (by cases h), ?_⟩
      rintro _ ⟨⟩
      exact ⟨side, Snapshot.tasks_set_self s side _⟩
    | ok b =>
      rw [hanswer] at htasks
      refine ⟨h.refusal, h.mode, htasks, ?_, fun f hf => (by cases hf)⟩
      intro _ x f hxf
      by_cases hx : x = side
      . rw [hx] at hxf
        have := (Snapshot.tasks_set_self s side (.ended (.ok b))).symm.trans hxf
        cases this
      . have := (Snapshot.tasks_set_of_ne s (.ended (.ok b)) hx).symm.trans hxf
        exact h.unnoted rfl x f this

theorem AtDraining.set {f : Failure} (h : AtDraining q answer s f) (side : Side) {t : Task}
    (hasked : t ≠ .absent) (ht : ∀ begun, t ≠ .pending begun false)
    : AtDraining q answer (s.set side t) f := by
  refine ⟨h.refusal, h.mode, h.failed, ?_, ?_⟩
  . intro x
    by_cases hx : x = side
    . rw [hx, Snapshot.tasks_set_self]
      exact hasked
    . rw [Snapshot.tasks_set_of_ne s t hx]
      exact h.asked x
  . intro x begun
    by_cases hx : x = side
    . rw [hx, Snapshot.tasks_set_self]
      exact ht begun
    . rw [Snapshot.tasks_set_of_ne s t hx]
      exact h.tasks x begun

section Pending

variable {side : Side} {begun stopped : Bool}

theorem AtGathering.eq_of_pending {first : Option Failure} (h : AtGathering q s first)
    (htask : s.tasks side = .pending begun stopped)
    : stopped = false := by
  cases h.tasks side with
  | inl hpending =>
    obtain ⟨_, hpending⟩ := hpending
    rw [htask] at hpending
    cases hpending
    rfl
  | inr hended => exact absurd htask (not_pending_of_ended hended)

theorem AtAwaitingFts.eq_of_pending (h : AtAwaitingFts q s)
    (htask : s.tasks side = .pending begun stopped)
    : side = .fts ∧ begun = true ∧ stopped = false := by
  cases side with
  | vector => cases h.vector.symm.trans htask
  | fts =>
    cases h.fts with
    | inl hpending =>
      cases hpending.symm.trans htask
      exact ⟨rfl, rfl, rfl⟩
    | inr hended => exact absurd htask (not_pending_of_ended hended)

theorem AtAwaitingVector.eq_of_pending (h : AtAwaitingVector q s)
    (htask : s.tasks side = .pending begun stopped)
    : side = .vector ∧ begun = true ∧ stopped = false := by
  cases side with
  | fts =>
    obtain ⟨t, hfts⟩ := h.fts
    cases hfts.symm.trans htask
  | vector =>
    cases h.vector with
    | inl hpending =>
      cases hpending.symm.trans htask
      exact ⟨rfl, rfl, rfl⟩
    | inr hended => exact absurd htask (not_pending_of_ended hended)

theorem valid_start (h : Valid q answer s) (htask : s.tasks side = .pending false false)
    : Valid q answer (s.issue side) := by
  unfold Valid at h ⊢
  have hstage : (s.issue side).stage = s.stage := rfl
  rw [hstage]
  split at h
  . cases (h.tasks side).symm.trans htask
  . exact h.start htask
  . exact absurd htask (h.tasks side false)
  . cases (h.eq_of_pending htask).2.1
  . cases (h.eq_of_pending htask).2.1
  . cases (congrArg Task.isPending htask).symm.trans (h.1 side)

theorem valid_finish (h : Valid q answer s) (htask : s.tasks side = .pending true stopped)
    : Valid q answer
        { s.set side (.ended (answer side)) with stage := s.stage.note (answer side) } := by
  unfold Valid at h
  split at h
  . cases (h.tasks side).symm.trans htask
  . next first hstage =>
    rw [hstage]
    exact h.finish htask
  . next f hstage =>
    rw [hstage]
    have hset := h.set side (t := .ended (answer side)) Task.noConfusion
      fun _ hended => (by cases hended)
    exact ⟨hset.refusal, hset.mode, hset.failed, hset.asked, hset.tasks⟩
  . next hstage =>
    obtain ⟨rfl, _, _⟩ := h.eq_of_pending htask
    rw [hstage]
    exact ⟨h.refusal, h.mode, .inr ⟨_, rfl⟩, h.vector, h.issued⟩
  . next hstage =>
    obtain ⟨rfl, _, _⟩ := h.eq_of_pending htask
    rw [hstage]
    exact ⟨h.refusal, h.mode, h.fts, .inr ⟨_, rfl⟩⟩
  . cases (congrArg Task.isPending htask).symm.trans (h.1 side)

theorem valid_cancel (h : Valid q answer s) (htask : s.tasks side = .pending begun true)
    : Valid q answer (s.set side .cancelled) := by
  unfold Valid at h ⊢
  have hstage : (s.set side .cancelled).stage = s.stage := rfl
  rw [hstage]
  split at h
  . cases (h.tasks side).symm.trans htask
  . cases h.eq_of_pending htask
  . exact h.set side Task.noConfusion fun _ hended => (by cases hended)
  . cases (h.eq_of_pending htask).2.2
  . cases (h.eq_of_pending htask).2.2
  . cases (congrArg Task.isPending htask).symm.trans (h.1 side)

end Pending

theorem pending_stop {t : Task} {begun : Bool} : t.stop ≠ .pending begun false := by
  cases t <;> simp [Task.stop]

theorem isPending_of_ended {side : Side} {o : Except Failure Batch}
    (h : s.tasks side = .ended o)
    : (s.tasks side).isPending = false := by
  rw [h]
  rfl

theorem valid_step (hhonest : Honest answer s) (h : Valid q answer s)
    (hstep : Step q answer s s')
    : Valid q answer s' := by
  cases hstep with
  | start htask => exact valid_start h htask
  | finish htask => exact valid_finish h htask
  | cancel htask => exact valid_cancel h htask
  | refuse hstage hrefusal =>
    unfold Valid at h
    rw [hstage] at h
    refine ⟨?_, .refused hrefusal h.issued⟩
    intro side
    dsimp only
    rw [h.tasks side]
    rfl
  | fork hstage hrefusal hmode =>
    exact ⟨hrefusal, hmode, fun _ => .inl ⟨false, rfl⟩, fun _ _ _ => Task.noConfusion,
      fun _ hfirst => (by cases hfirst)⟩
  | call hstage hrefusal hmode =>
    unfold Valid at h
    rw [hstage] at h
    refine ⟨hrefusal, hmode, .inl rfl, h.tasks .vector, ?_⟩
    change s.issued ++ [.fts] = [.fts]
    rw [h.issued]
    rfl
  | @wake f hstage =>
    unfold Valid at h
    rw [hstage] at h
    -- The noted failure is that of a side that has ended, so it is one of the answers.
    obtain ⟨side, hside⟩ := h.noted f rfl
    refine ⟨h.refusal, h.mode, ⟨side, (hhonest side _ hside).symm⟩, ?_, fun _ _ => pending_stop⟩
    intro x
    obtain ⟨begun, hx⟩ | ⟨o, hx⟩ := h.tasks x
    . simp [hx, Task.stop]
    . simp [hx, Task.stop]
  | drain hstage htasks =>
    unfold Valid at h
    rw [hstage] at h
    obtain ⟨side, hside⟩ := h.failed
    exact ⟨htasks, .stopped h.refusal h.mode hside h.asked⟩
  | gather hstage hvector hfts =>
    unfold Valid at h
    rw [hstage] at h
    refine ⟨?_, .concluded h.refusal hvector hfts⟩
    intro side
    cases side with
    | vector => exact isPending_of_ended hvector
    | fts => exact isPending_of_ended hfts
  | @next t hstage hfts =>
    unfold Valid at h
    rw [hstage] at h
    exact ⟨h.refusal, h.mode, ⟨t, hfts⟩, .inl rfl⟩
  | @fail side f hstage htask =>
    unfold Valid at h
    rw [hstage] at h
    cases side with
    | fts =>
      refine ⟨?_, .ftsFailed h.refusal h.mode htask h.issued⟩
      intro side
      cases side with
      | vector => exact congrArg Task.isPending h.vector
      | fts => exact isPending_of_ended htask
    | vector =>
      obtain ⟨t, hfts⟩ := h.fts
      refine ⟨?_, .vectorFailed h.refusal h.mode hfts htask⟩
      intro side
      cases side with
      | vector => exact isPending_of_ended htask
      | fts => exact isPending_of_ended hfts
  | pass hstage hvector hfts =>
    unfold Valid at h
    rw [hstage] at h
    refine ⟨?_, .concluded h.refusal hvector hfts⟩
    intro side
    cases side with
    | vector => exact isPending_of_ended hvector
    | fts => exact isPending_of_ended hfts

theorem reachable_valid (h : Reachable q answer s) : Honest answer s ∧ Valid q answer s := by
  induction h with
  | initial =>
    refine ⟨?_, fun _ => rfl, rfl⟩
    intro side o ho
    cases ho
  | step _ hstep ih => exact ⟨honest_step ih.1 hstep, valid_step ih.1 ih.2 hstep⟩

theorem ends_of_reachable (h : Reachable q answer s) {o : Except Interruption Batch}
    (hleft : s.stage = .left o)
    : Honest answer s ∧ (∀ side, (s.tasks side).isPending = false) ∧ Ends q answer s o := by
  obtain ⟨hhonest, hvalid⟩ := reachable_valid h
  unfold Valid at hvalid
  rw [hleft] at hvalid
  exact ⟨hhonest, hvalid⟩

theorem work_lt_of_replace {side : Side} {t : Task} {st : Stage} {issued : List Side}
    (h : t.work + st.work < (s.tasks side).work + s.stage.work)
    : (⟨(s.set side t).tasks, st, issued⟩ : Snapshot).work < s.work := by
  unfold Snapshot.work Snapshot.set
  cases side with
  | vector =>
    simp only [if_true, reduceCtorEq, if_false]
    omega
  | fts =>
    simp only [if_true, reduceCtorEq, if_false]
    omega

theorem work_lt_of_left {o : Except Interruption Batch} (h : 0 < s.stage.work)
    : ({ s with stage := .left o } : Snapshot).work < s.work := by
  unfold Snapshot.work
  have hleft : (Stage.left o).work = 0 := rfl
  dsimp only
  rw [hleft]
  omega

theorem work_lt (h : Step q answer s s') : s'.work < s.work := by
  cases h with
  | refuse hstage _ =>
    apply work_lt_of_left
    rw [hstage]
    exact Nat.zero_lt_succ _
  | fork hstage _ _ =>
    unfold Snapshot.work
    rw [hstage]
    simp only [Stage.work, Task.work]
    omega
  | call hstage _ _ =>
    apply work_lt_of_replace
    rw [hstage]
    simp only [Stage.work, Task.work]
    omega
  | @start side htask =>
    apply work_lt_of_replace
    change 1 + s.stage.work < (s.tasks side).work + s.stage.work
    rw [htask]
    simp only [Task.work]
    omega
  | finish htask =>
    apply work_lt_of_replace
    rw [htask, Stage.work_note]
    simp only [Task.work]
    omega
  | @cancel side begun htask =>
    apply work_lt_of_replace
    rw [htask]
    cases begun with
    | false =>
      simp only [Task.work]
      omega
    | true =>
      simp only [Task.work]
      omega
  | wake hstage =>
    unfold Snapshot.work
    rw [hstage]
    simp only [Stage.work, Task.work_stop]
    omega
  | drain hstage _ =>
    apply work_lt_of_left
    rw [hstage]
    exact Nat.zero_lt_succ _
  | gather hstage _ _ =>
    apply work_lt_of_left
    rw [hstage]
    exact Nat.zero_lt_succ _
  | next hstage _ =>
    apply work_lt_of_replace
    rw [hstage]
    simp only [Stage.work, Task.work]
    omega
  | @fail side f hstage _ =>
    apply work_lt_of_left
    rw [hstage]
    cases side with
    | vector => exact Nat.zero_lt_succ _
    | fts => exact Nat.zero_lt_succ _
  | pass hstage _ _ =>
    apply work_lt_of_left
    rw [hstage]
    exact Nat.zero_lt_succ _

theorem exists_step (h : Valid q answer s) (hstays : ∀ o, s.stage ≠ .left o)
    : ∃ s', Step q answer s s' := by
  unfold Valid at h
  split at h
  . next hstage =>
    cases hrefusal : q.refusal? with
    | some f => exact ⟨_, .refuse hstage hrefusal⟩
    | none =>
      cases hmode : q.concurrent.isTruthy with
      | true => exact ⟨_, .fork hstage hrefusal hmode⟩
      | false => exact ⟨_, .call hstage hrefusal hmode⟩
  . next first hstage =>
    cases first with
    | some f => exact ⟨_, .wake hstage⟩
    | none =>
      -- Either a sub-search can go on, or both have returned.
      have hside : ∀ side, (∃ s', Step q answer s s') ∨ ∃ b, s.tasks side = .ended (.ok b) := by
        intro side
        cases h.tasks side with
        | inl hpending =>
          obtain ⟨begun, hpending⟩ := hpending
          cases begun with
          | false => exact .inl ⟨_, .start hpending⟩
          | true => exact .inl ⟨_, .finish hpending⟩
        | inr hended =>
          obtain ⟨o, ho⟩ := hended
          cases o with
          | ok b => exact .inr ⟨b, ho⟩
          | error f => exact absurd ho (h.unnoted rfl side f)
      obtain hstep | ⟨v, hv⟩ := hside .vector
      . exact hstep
      . obtain hstep | ⟨t, ht⟩ := hside .fts
        . exact hstep
        . exact ⟨_, .gather hstage hv ht⟩
  . next f hstage =>
    by_cases hdone : ∀ side, (s.tasks side).isPending = false
    . exact ⟨_, .drain hstage hdone⟩
    . rw [Classical.not_forall] at hdone
      obtain ⟨side, hside⟩ := hdone
      cases ht : s.tasks side with
      | pending begun stopped =>
        cases stopped with
        | false => exact absurd ht (h.tasks side begun)
        | true => exact ⟨_, .cancel ht⟩
      | absent => exact absurd (congrArg Task.isPending ht) hside
      | ended o => exact absurd (congrArg Task.isPending ht) hside
      | cancelled => exact absurd (congrArg Task.isPending ht) hside
  . next hstage =>
    cases h.fts with
    | inl hpending => exact ⟨_, .finish hpending⟩
    | inr hended =>
      obtain ⟨o, ho⟩ := hended
      cases o with
      | ok t => exact ⟨_, .next hstage ho⟩
      | error f => exact ⟨_, .fail hstage ho⟩
  . next hstage =>
    cases h.vector with
    | inl hpending => exact ⟨_, .finish hpending⟩
    | inr hended =>
      obtain ⟨o, ho⟩ := hended
      obtain ⟨t, ht⟩ := h.fts
      cases o with
      | ok v => exact ⟨_, .pass hstage ho ht⟩
      | error f => exact ⟨_, .fail hstage ho⟩
  . next o hstage => exact absurd hstage (hstays o)

theorem exists_left (h : Reachable q answer s)
    : ∃ s' o, Relation.ReflTransGen (Step q answer) s s' ∧ s'.stage = .left o := by
  -- The induction is on the steps that may still come.
  generalize hwork : s.work = n
  induction n using Nat.strongRecOn generalizing s with
  | _ n ih =>
    by_cases hleft : ∃ o, s.stage = .left o
    . obtain ⟨o, ho⟩ := hleft
      exact ⟨s, o, .refl, ho⟩
    . obtain ⟨s', hstep⟩ := exists_step (reachable_valid h).2 fun o ho => hleft ⟨o, ho⟩
      have hlt := work_lt hstep
      obtain ⟨s'', o, hsteps, ho⟩ := ih s'.work (by omega) (h.step hstep) rfl
      exact ⟨s'', o, .head hstep hsteps, ho⟩

end HybridQuery

end RankFusion
