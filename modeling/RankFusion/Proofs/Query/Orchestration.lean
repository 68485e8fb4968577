import RankFusion.Proofs.Query.Schedule

/-!
This module contains the ends of a run, whatever the order of its steps, and that the runs of a
query on an engine are among those runs.
-/

namespace RankFusion

def Task.progress? : Task → Option Progress
  | .ended (.ok _) => some .completed
  | .ended (.error _) => some .failed
  | .cancelled => some .cancelled
  | _ => none

def Executor.fixed (answer : Side → Except Failure Batch) (delay : Side → Nat) : Executor Unit :=
  fun request s => ({ outcome := answer request.side, delay := delay request.side }, s)

namespace Joint

variable {vector fts : Reply}

theorem filter_endsBefore_none (replies : List (Side × Reply))
    : (replies.filter fun r => r.2.endsBefore none 0) = replies :=
  List.filter_eq_self.2 fun _ _ => rfl

theorem outcome_together
    : (together none vector fts).outcome =
        match firstFailure? (inOrder vector fts) with
        | some (_, f) => .error (.failed f)
        | none => both vector fts := by
  unfold together
  dsimp only
  rw [filter_endsBefore_none]
  cases firstFailure? (inOrder vector fts) with
  | some stop => rfl
  | none => rfl

theorem events_together
    : (together none vector fts).events =
        (inOrder vector fts).map fun r => (r.1,
          match firstFailure? (inOrder vector fts) with
          | some (t, _) => if r.2.delay ≤ t then r.2.progress else .cancelled
          | none => r.2.progress) := by
  unfold together
  dsimp only
  rw [filter_endsBefore_none]
  cases firstFailure? (inOrder vector fts) with
  | some stop =>
    simp only [decide_eq_true_eq]
  | none => rfl

theorem firstFailure?_pair (x y : Side) (a b : Reply)
    : firstFailure? [(x, a), (y, b)] =
        match a.outcome, b.outcome with
        | .error f, _ => some (a.delay, f)
        | .ok _, .error f => some (b.delay, f)
        | .ok _, .ok _ => none := by
  unfold firstFailure? Reply.failure?
  cases ha : a.outcome with
  | error f => simp [List.findSome?, ha]
  | ok v =>
    cases hb : b.outcome with
    | error f => simp [List.findSome?, ha, hb]
    | ok t => simp [List.findSome?, ha, hb]

theorem exists_inOrder (reply : Side → Reply)
    : ∃ x y, y ≠ x
        ∧ (reply x).delay ≤ (reply y).delay
        ∧ inOrder (reply .vector) (reply .fts) = [(x, reply x), (y, reply y)] := by
  unfold inOrder
  split
  . next hlt => exact ⟨.fts, .vector, by decide, Nat.le_of_lt hlt, rfl⟩
  . next hle => exact ⟨.vector, .fts, by decide, Nat.le_of_not_lt hle, rfl⟩

theorem outcome_together_of_lt {reply : Side → Reply} {x y : Side} {f : Failure} (hne : y ≠ x)
    (hlt : (reply x).delay < (reply y).delay) (hx : (reply x).outcome = .error f)
    : (together none (reply .vector) (reply .fts)).outcome = .error (.failed f) := by
  have horder : inOrder (reply .vector) (reply .fts) = [(x, reply x), (y, reply y)] := by
    unfold inOrder
    cases x with
    | vector =>
      cases y with
      | vector => exact absurd rfl hne
      | fts => rw [if_neg (Nat.lt_asymm hlt)]
    | fts =>
      cases y with
      | vector => rw [if_pos hlt]
      | fts => exact absurd rfl hne
  rw [outcome_together, horder, firstFailure?_pair, hx]

theorem together_returned {reply : Side → Reply} {v t : Batch}
    (hv : (reply .vector).outcome = .ok v) (ht : (reply .fts).outcome = .ok t)
    : (together none (reply .vector) (reply .fts)).outcome = .ok (v, t)
        ∧ (together none (reply .vector) (reply .fts)).events.Perm
            [(.vector, .completed), (.fts, .completed)] := by
  have hok : ∀ side, ∃ b, (reply side).outcome = .ok b := by
    intro side
    cases side with
    | vector => exact ⟨v, hv⟩
    | fts => exact ⟨t, ht⟩
  obtain ⟨x, y, hne, _, horder⟩ := exists_inOrder reply
  obtain ⟨a, ha⟩ := hok x
  obtain ⟨b, hb⟩ := hok y
  rw [outcome_together, events_together, horder, firstFailure?_pair, ha, hb]
  refine ⟨?_, ?_⟩
  . unfold both
    rw [hv, ht]
  . unfold Reply.progress
    simp only [List.map_cons, List.map_nil, ha, hb]
    cases x <;> cases y <;> simp at hne ⊢
    exact List.Perm.swap _ _ _

theorem together_stopped {reply : Side → Reply} {side : Side} {g : Failure}
    (hfailed : (reply side).outcome = .error g)
    : ∃ x y f p, y ≠ x
        ∧ (reply x).outcome = .error f
        ∧ (p = (reply y).progress ∨ p = .cancelled)
        ∧ (together none (reply .vector) (reply .fts)).outcome = .error (.failed f)
        ∧ (together none (reply .vector) (reply .fts)).events.Perm [(x, .failed), (y, p)] := by
  obtain ⟨x, y, hne, hle, horder⟩ := exists_inOrder reply
  rw [outcome_together, events_together, horder, firstFailure?_pair]
  cases hx : (reply x).outcome with
  | error f =>
    refine ⟨x, y, f, if (reply y).delay ≤ (reply x).delay then (reply y).progress else .cancelled,
      hne, hx, ?_, rfl, ?_⟩
    . split
      . exact .inl rfl
      . exact .inr rfl
    . have hprogress : (reply x).progress = .failed := by
        unfold Reply.progress
        rw [hx]
      simp only [List.map_cons, List.map_nil, Nat.le_refl, if_true, hprogress]
      exact .refl _
  | ok a =>
    cases hy : (reply y).outcome with
    | error f =>
      -- The failure comes second, so the side before it has ended.
      refine ⟨y, x, f, (reply x).progress, hne.symm, hy, .inl rfl, rfl, ?_⟩
      have hprogress : (reply y).progress = .failed := by
        unfold Reply.progress
        rw [hy]
      simp only [List.map_cons, List.map_nil, Nat.le_refl, if_true, hprogress, if_pos hle]
      exact .swap _ _ _
    | ok b =>
      cases x <;> cases y <;> cases side <;> simp_all

end Joint

theorem SubSearches.run_returned {σ : Type} {ex : Executor σ} (Inv : σ → Prop)
    {vector fts : SubSearch} {v t : Batch} (concurrent : Bool)
    (hvector : ∀ s, Inv s → (ex vector s).1.outcome = .ok v ∧ Inv (ex vector s).2)
    (hfts : ∀ s, Inv s → (ex fts s).1.outcome = .ok t ∧ Inv (ex fts s).2) {s : σ} (hs : Inv s)
    : (run concurrent ex none vector fts s).joint.outcome = .ok (v, t) := by
  unfold run
  cases concurrent with
  | true =>
    obtain ⟨hv, hs⟩ := hvector s hs
    let reply : Side → Reply := fun side =>
      if side = .vector then (ex vector s).1 else (ex fts (ex vector s).2).1
    have hreply : (reply .vector).outcome = .ok v := hv
    exact (Joint.together_returned hreply (hfts _ hs).1).1
  | false =>
    obtain ⟨ht, hs⟩ := hfts s hs
    unfold inTurn Joint.alone
    dsimp only [Reply.endsBefore]
    simp only [Bool.false_eq_true, if_false, if_true, ht, (hvector _ hs).1]
    rfl

namespace HybridQuery

variable {q : HybridQuery}

section Runs

variable (answer : Side → Except Failure Batch)

theorem exists_refused {f : Failure} (hrefusal : q.refusal? = some f)
    : ∃ r, Reachable q answer r
        ∧ r.stage = .left (.error (.failed f))
        ∧ r.issued = []
        ∧ ∀ side, r.tasks side = .absent :=
  ⟨_, .step .initial (.refuse rfl hrefusal), rfl, rfl, fun _ => rfl⟩

theorem exists_forked (hrefusal : q.refusal? = none) (hmode : q.concurrent.isTruthy = true)
    : ∃ r, Reachable q answer r
        ∧ r.stage = .gathering none
        ∧ r.issued = [.vector, .fts]
        ∧ ∀ side, r.tasks side = .pending true false := by
  have hfork := Reachable.step .initial (@Step.fork q answer _ rfl hrefusal hmode)
  have hvector := hfork.step (@Step.start q answer _ .vector rfl)
  have hfts := hvector.step (@Step.start q answer _ .fts rfl)
  refine ⟨_, hfts, rfl, rfl, ?_⟩
  intro side
  cases side with
  | vector => rfl
  | fts => rfl

theorem exists_gathered {v t : Batch} (hrefusal : q.refusal? = none)
    (hmode : q.concurrent.isTruthy = true) (hv : answer .vector = .ok v)
    (ht : answer .fts = .ok t)
    : ∃ r, Reachable q answer r
        ∧ r.stage = .left (q.conclude v t)
        ∧ r.issued = [.vector, .fts]
        ∧ ∀ side, r.tasks side = .ended (answer side) := by
  obtain ⟨r, hr, hstage, hissued, htasks⟩ := exists_forked answer hrefusal hmode
  have hvector := hr.step (@Step.finish q answer r .vector false (htasks .vector))
  have hfts := hvector.step (@Step.finish q answer _ .fts false (htasks .fts))
  have hgather := hfts.step (@Step.gather q answer _ v t ?_ ?_ ?_)
  . refine ⟨_, hgather, rfl, hissued, ?_⟩
    intro side
    cases side with
    | vector => rfl
    | fts => rfl
  . change (r.stage.note (answer .vector)).note (answer .fts) = _
    rw [hstage, hv, ht]
    rfl
  . exact congrArg Task.ended hv
  . exact congrArg Task.ended ht

theorem eq_or_eq_of_ne {x y : Side} (hne : y ≠ x) (side : Side) : side = x ∨ side = y := by
  cases x <;> cases y <;> cases side <;> simp at hne ⊢

theorem exists_left_of_draining {s : Snapshot} {x y : Side} {f : Failure} {t : Task}
    (hs : Reachable q answer s) (hstage : s.stage = .draining f) (hne : y ≠ x)
    (hx : s.tasks x = .ended (.error f)) (hy : s.tasks y = t) (ht : t.isPending = false)
    : ∃ r, Reachable q answer r
        ∧ r.stage = .left (.error (.failed f))
        ∧ r.issued = s.issued
        ∧ r.tasks x = .ended (.error f)
        ∧ r.tasks y = t := by
  refine ⟨_, hs.step (@Step.drain q answer s f hstage ?_), rfl, rfl, hx, hy⟩
  intro side
  obtain rfl | rfl := eq_or_eq_of_ne hne side
  . rw [hx]
    rfl
  . rw [hy]
    exact ht

theorem exists_stopped {x y : Side} {f : Failure} {t : Task} (hrefusal : q.refusal? = none)
    (hmode : q.concurrent.isTruthy = true) (hne : y ≠ x) (hx : answer x = .error f)
    (ht : t = .ended (answer y) ∨ t = .cancelled)
    : ∃ r, Reachable q answer r
        ∧ r.stage = .left (.error (.failed f))
        ∧ r.issued = [.vector, .fts]
        ∧ r.tasks x = .ended (.error f)
        ∧ r.tasks y = t := by
  obtain ⟨r, hr, hstage, hissued, htasks⟩ := exists_forked answer hrefusal hmode
  have hfinish := hr.step (@Step.finish q answer r x false (htasks x))
  have hnoted : r.stage.note (answer x) = .gathering (some f) := by
    rw [hstage, hx]
    rfl
  have hwake := hfinish.step (@Step.wake q answer _ f hnoted)
  have hxEnded : ((r.set x (.ended (answer x))).tasks x).stop = .ended (.error f) := by
    rw [Snapshot.tasks_set_self, hx]
    rfl
  -- The other side has begun and is told to stop: it ends all the same, or it is cancelled.
  have hyStopped : ((r.set x (.ended (answer x))).tasks y).stop = .pending true true := by
    rw [Snapshot.tasks_set_of_ne r _ hne, htasks y]
    rfl
  obtain rfl | rfl := ht
  . have hy := hwake.step (@Step.finish q answer _ y true hyStopped)
    obtain ⟨r', hr', hleft, hissued', hx', hy'⟩ :=
      exists_left_of_draining answer hy rfl hne
        ((Snapshot.tasks_set_of_ne _ _ hne.symm).trans hxEnded) (Snapshot.tasks_set_self _ _ _) rfl
    exact ⟨r', hr', hleft, hissued'.trans hissued, hx', hy'⟩
  . have hy := hwake.step (@Step.cancel q answer _ y true hyStopped)
    obtain ⟨r', hr', hleft, hissued', hx', hy'⟩ :=
      exists_left_of_draining answer hy rfl hne
        ((Snapshot.tasks_set_of_ne _ _ hne.symm).trans hxEnded) (Snapshot.tasks_set_self _ _ _) rfl
    exact ⟨r', hr', hleft, hissued'.trans hissued, hx', hy'⟩

theorem exists_called (hrefusal : q.refusal? = none) (hmode : q.concurrent.isTruthy = false)
    : ∃ r, Reachable q answer r
        ∧ r.stage = .awaiting .fts
        ∧ r.issued = [.fts]
        ∧ r.tasks .vector = .absent
        ∧ r.tasks .fts = .ended (answer .fts) := by
  have hcall := Reachable.step .initial (@Step.call q answer _ rfl hrefusal hmode)
  have hfts := hcall.step (@Step.finish q answer _ .fts false rfl)
  exact ⟨_, hfts, rfl, rfl, rfl, rfl⟩

theorem exists_ftsFailed {f : Failure} (hrefusal : q.refusal? = none)
    (hmode : q.concurrent.isTruthy = false) (hf : answer .fts = .error f)
    : ∃ r, Reachable q answer r
        ∧ r.stage = .left (.error (.failed f))
        ∧ r.issued = [.fts]
        ∧ r.tasks .vector = .absent
        ∧ r.tasks .fts = .ended (answer .fts) := by
  obtain ⟨r, hr, hstage, hissued, hvector, hfts⟩ := exists_called answer hrefusal hmode
  have hfail := hr.step (@Step.fail q answer r .fts f hstage (hf ▸ hfts))
  exact ⟨_, hfail, rfl, hissued, hvector, hfts⟩

theorem exists_next {t : Batch} (hrefusal : q.refusal? = none)
    (hmode : q.concurrent.isTruthy = false) (ht : answer .fts = .ok t)
    : ∃ r, Reachable q answer r
        ∧ r.stage = .awaiting .vector
        ∧ r.issued = [.fts, .vector]
        ∧ ∀ side, r.tasks side = .ended (answer side) := by
  obtain ⟨r, hr, hstage, hissued, hvector, hfts⟩ := exists_called answer hrefusal hmode
  have hnext := hr.step (@Step.next q answer r t hstage (ht ▸ hfts))
  have hfinish := hnext.step (@Step.finish q answer _ .vector false rfl)
  refine ⟨_, hfinish, rfl, ?_, ?_⟩
  . change r.issued ++ [.vector] = _
    rw [hissued]
    rfl
  . intro side
    cases side with
    | vector => rfl
    | fts => exact hfts

theorem exists_vectorFailed {t : Batch} {f : Failure} (hrefusal : q.refusal? = none)
    (hmode : q.concurrent.isTruthy = false) (ht : answer .fts = .ok t)
    (hf : answer .vector = .error f)
    : ∃ r, Reachable q answer r
        ∧ r.stage = .left (.error (.failed f))
        ∧ r.issued = [.fts, .vector]
        ∧ ∀ side, r.tasks side = .ended (answer side) := by
  obtain ⟨r, hr, hstage, hissued, htasks⟩ := exists_next answer hrefusal hmode ht
  have hfail := hr.step (@Step.fail q answer r .vector f hstage (hf ▸ htasks .vector))
  exact ⟨_, hfail, rfl, hissued, htasks⟩

theorem exists_passed {v t : Batch} (hrefusal : q.refusal? = none)
    (hmode : q.concurrent.isTruthy = false) (ht : answer .fts = .ok t)
    (hv : answer .vector = .ok v)
    : ∃ r, Reachable q answer r
        ∧ r.stage = .left (q.conclude v t)
        ∧ r.issued = [.fts, .vector]
        ∧ ∀ side, r.tasks side = .ended (answer side) := by
  obtain ⟨r, hr, hstage, hissued, htasks⟩ := exists_next answer hrefusal hmode ht
  have hpass := hr.step
    (@Step.pass q answer r v t hstage (hv ▸ htasks .vector) (ht ▸ htasks .fts))
  exact ⟨_, hpass, rfl, hissued, htasks⟩

end Runs

section Execution

structure Shows (q : HybridQuery) (timeout : Value) (r : Snapshot)
    (outcome : Except Interruption Batch) (requests : List SubSearch)
    (events : List (Side × Progress)) : Prop where
  stage : r.stage = .left outcome
  requests : requests = r.issued.map fun side => q.request side timeout
  events : ∀ side p, (side, p) ∈ events ↔ (r.tasks side).progress? = some p

theorem outcome_finish (m : Metrics) (fused : Batch)
    : (q.finish m fused).outcome = (q.present fused).mapError .failed := by
  unfold finish
  cases q.present fused with
  | error f => rfl
  | ok b => rfl

theorem outcome_fuse (m : Metrics) (v t : Batch)
    : (q.fuse m v t).outcome = (q.reranker.rerank v t q.query >>= q.present).mapError .failed := by
  unfold fuse
  cases q.reranker.rerank v t q.query with
  | error f => rfl
  | ok fused => exact outcome_finish _ fused

theorem outcome_afterSubSearches_eq (m : Metrics) (found : Except Interruption (Batch × Batch))
    : (q.afterSubSearches m found).outcome =
        match found with
        | .error i => .error i
        | .ok (v, t) => (q.reranker.rerank v t q.query >>= q.present).mapError .failed := by
  unfold afterSubSearches
  cases found with
  | error i => rfl
  | ok pair => exact outcome_fuse _ pair.1 pair.2

theorem outcome_afterSubSearches (m m' : Metrics) (found : Except Interruption (Batch × Batch))
    : (q.afterSubSearches m found).outcome = (q.afterSubSearches m' found).outcome := by
  rw [outcome_afterSubSearches_eq, outcome_afterSubSearches_eq]

theorem progress_of_outcome {reply : Reply} {o : Except Failure Batch} (h : reply.outcome = o)
    : (Task.ended o).progress? = some reply.progress := by
  unfold Reply.progress
  rw [h]
  cases o with
  | ok b => rfl
  | error f => rfl

theorem events_of_perm {events : List (Side × Progress)} {r : Snapshot} {x y : Side}
    {a b : Progress} (hne : y ≠ x) (hperm : events.Perm [(x, a), (y, b)])
    (hx : (r.tasks x).progress? = some a) (hy : (r.tasks y).progress? = some b)
    : ∀ side p, (side, p) ∈ events ↔ (r.tasks side).progress? = some p := by
  intro side p
  rw [hperm.mem_iff]
  obtain rfl | rfl := eq_or_eq_of_ne hne side
  . rw [hx, Option.some.injEq, eq_comm]
    simp [hne.symm]
  . rw [hy, Option.some.injEq, eq_comm]
    simp [hne]

theorem shows_together {reply : Side → Reply} {timeout : Value} (m : Metrics)
    {answer : Side → Except Failure Batch} (hrefusal : q.refusal? = none)
    (hmode : q.concurrent.isTruthy = true) (hreply : ∀ side, (reply side).outcome = answer side)
    : ∃ r, Reachable q answer r
        ∧ Shows q timeout r
            (q.afterSubSearches m
              (Joint.together none (reply .vector) (reply .fts)).outcome).outcome
            [q.request .vector timeout, q.request .fts timeout]
            (Joint.together none (reply .vector) (reply .fts)).events := by
  by_cases hfailed : ∃ side g, (reply side).outcome = .error g
  . obtain ⟨side, g, hg⟩ := hfailed
    obtain ⟨x, y, f, p, hne, hx, hp, houtcome, hevents⟩ := Joint.together_stopped hg
    have ht : ∃ t : Task, (t = .ended (answer y) ∨ t = .cancelled) ∧ t.progress? = some p := by
      cases hp with
      | inl hended => exact ⟨_, .inl rfl, by rw [progress_of_outcome (hreply y), hended]⟩
      | inr hcancelled => exact ⟨_, .inr rfl, by rw [hcancelled]; rfl⟩
    obtain ⟨t, ht, hprogress⟩ := ht
    obtain ⟨r, hr, hleft, hissued, hrx, hry⟩ :=
      exists_stopped answer hrefusal hmode hne ((hreply x).symm.trans hx) ht
    refine ⟨r, hr, ?_, ?_, ?_⟩
    . rw [hleft, houtcome]
      rfl
    . rw [hissued]
      rfl
    . apply events_of_perm hne hevents
      . rw [hrx]
        rfl
      . rw [hry]
        exact hprogress
  . have hok : ∀ side, ∃ b, (reply side).outcome = .ok b := by
      intro side
      cases ho : (reply side).outcome with
      | ok b => exact ⟨b, rfl⟩
      | error g => exact absurd ⟨side, g, ho⟩ hfailed
    obtain ⟨v, hv⟩ := hok .vector
    obtain ⟨t, ht⟩ := hok .fts
    obtain ⟨houtcome, hevents⟩ := Joint.together_returned hv ht
    obtain ⟨r, hr, hleft, hissued, htasks⟩ := exists_gathered answer hrefusal hmode
      ((hreply .vector).symm.trans hv) ((hreply .fts).symm.trans ht)
    refine ⟨r, hr, ?_, ?_, ?_⟩
    . rw [hleft, houtcome]
      exact congrArg Stage.left (outcome_afterSubSearches _ _ _)
    . rw [hissued]
      rfl
    . apply events_of_perm (by decide) hevents
      . rw [htasks, ← hreply, hv]
        rfl
      . rw [htasks, ← hreply, ht]
        rfl

theorem shows_inTurn {timeout : Value} {σ : Type} {ex : Executor σ} (m : Metrics)
    {answer : Side → Except Failure Batch} (hrefusal : q.refusal? = none)
    (hmode : q.concurrent.isTruthy = false)
    (hex : ∀ side s, (ex (q.request side timeout) s).1.outcome = answer side) (s : σ)
    : let found := SubSearches.inTurn ex none (q.request .vector timeout)
        (q.request .fts timeout) s
      ∃ r, Reachable q answer r
        ∧ Shows q timeout r (q.afterSubSearches m found.joint.outcome).outcome found.requests
            found.joint.events := by
  have hfts := hex .fts s
  have hvector := hex .vector (ex (q.request .fts timeout) s).2
  unfold SubSearches.inTurn Joint.alone
  dsimp only [Reply.endsBefore]
  generalize ex (q.request .fts timeout) s = f at hfts hvector ⊢
  generalize ex (q.request .vector timeout) f.2 = v at hvector ⊢
  have hfProgress := progress_of_outcome hfts
  have hvProgress := progress_of_outcome hvector
  cases hf : f.1.outcome with
  | error g =>
    obtain ⟨r, hr, hleft, hissued, hrv, hrf⟩ :=
      exists_ftsFailed answer hrefusal hmode (hfts.symm.trans hf)
    refine ⟨r, hr, hleft, ?_, ?_⟩
    . rw [hissued]
      rfl
    . intro side p
      change (side, p) ∈ [(Side.fts, f.1.progress)] ↔ _
      cases side with
      | vector =>
        rw [hrv]
        simp [Task.progress?]
      | fts =>
        rw [hrf, hfProgress]
        simp [eq_comm]
  | ok t =>
    have hboth : ∀ r : Snapshot, (∀ side, r.tasks side = .ended (answer side)) → ∀ side p,
        (side, p) ∈ [(Side.fts, f.1.progress), (Side.vector, v.1.progress)]
          ↔ (r.tasks side).progress? = some p := by
      intro r htasks
      apply events_of_perm (by decide) (.refl _)
      . rw [htasks]
        exact hfProgress
      . rw [htasks]
        exact hvProgress
    cases hv : v.1.outcome with
    | error g =>
      obtain ⟨r, hr, hleft, hissued, htasks⟩ :=
        exists_vectorFailed answer hrefusal hmode (hfts.symm.trans hf) (hvector.symm.trans hv)
      refine ⟨r, hr, hleft, ?_, hboth r htasks⟩
      rw [hissued]
      rfl
    | ok b =>
      obtain ⟨r, hr, hleft, hissued, htasks⟩ :=
        exists_passed answer hrefusal hmode (hfts.symm.trans hf) (hvector.symm.trans hv)
      refine ⟨r, hr, ?_, ?_, hboth r htasks⟩
      . rw [hleft]
        exact congrArg Stage.left (outcome_afterSubSearches _ _ _)
      . rw [hissued]
        rfl

section Execute

variable {σ τ : Type} (ex : Executor σ) (observer : Observer τ) (timeout : Value)
  (giveUp : Option Nat)

theorem execute_of_refusal {f : Failure} (hrefusal : q.refusal? = some f) (s : σ) (t : τ)
    : let x := (q.execute ex observer timeout giveUp s t).1
      x.outcome = .error (.failed f) ∧ x.requests = [] ∧ x.events = [] := by
  unfold refusal? at hrefusal
  unfold execute
  cases hname : q.reranker.name with
  | error g =>
    rw [hname] at hrefusal
    cases hrefusal
    exact ⟨rfl, rfl, rfl⟩
  | ok name =>
    rw [hname] at hrefusal
    dsimp only at hrefusal
    unfold attempt
    cases hvalidate : q.config.validate with
    | error g =>
      rw [hvalidate] at hrefusal
      cases hrefusal
      exact ⟨rfl, rfl, rfl⟩
    | ok _ =>
      rw [hvalidate] at hrefusal
      cases hrefusal

theorem execute_of_not_refusal (hrefusal : q.refusal? = none) (s : σ) (t : τ)
    : let x := (q.execute ex observer timeout giveUp s t).1
      let found := SubSearches.run q.concurrent.isTruthy ex giveUp
        (q.request .vector (q.effectiveTimeout timeout))
        (q.request .fts (q.effectiveTimeout timeout)) s
      (∃ m, x.outcome = (q.afterSubSearches m found.joint.outcome).outcome)
        ∧ x.requests = found.requests
        ∧ x.events = found.joint.events := by
  unfold refusal? at hrefusal
  unfold execute
  cases hname : q.reranker.name with
  | error g =>
    rw [hname] at hrefusal
    cases hrefusal
  | ok name =>
    rw [hname] at hrefusal
    dsimp only at hrefusal
    unfold attempt
    cases hvalidate : q.config.validate with
    | error g =>
      rw [hvalidate] at hrefusal
      cases hrefusal
    | ok _ => exact ⟨⟨_, rfl⟩, rfl, rfl⟩

theorem outcome_of_fused {r : Reranker} (hrefusal : q.refusal? = none)
    (hstrategy : q.reranker = .strategy r) {s : σ} {v f fused : Batch}
    (hfound : (SubSearches.run q.concurrent.isTruthy ex giveUp
      (q.request .vector (q.effectiveTimeout timeout))
      (q.request .fts (q.effectiveTimeout timeout)) s).joint.outcome = .ok (v, f))
    (hfused : r.rerank v f = .ok fused) (t : τ)
    : (q.execute ex observer timeout giveUp s t).1.outcome =
        (q.present fused).mapError .failed := by
  obtain ⟨⟨m, houtcome⟩, _⟩ := execute_of_not_refusal ex observer timeout giveUp hrefusal s t
  rw [houtcome, outcome_afterSubSearches_eq, hfound, hstrategy]
  change (r.rerank v f >>= q.present).mapError Interruption.failed = _
  rw [hfused]
  rfl

theorem exists_shows {answer : Side → Except Failure Batch}
    (hex : ∀ side s,
      (ex (q.request side (q.effectiveTimeout timeout)) s).1.outcome = answer side)
    (s : σ) (t : τ)
    : let x := (q.execute ex observer timeout none s t).1
      ∃ r, Reachable q answer r
        ∧ Shows q (q.effectiveTimeout timeout) r x.outcome x.requests x.events := by
  intro x
  cases hrefusal : q.refusal? with
  | some f =>
    obtain ⟨r, hr, hleft, hissued, htasks⟩ := exists_refused answer hrefusal
    obtain ⟨houtcome, hrequests, hevents⟩ :=
      execute_of_refusal ex observer timeout none hrefusal s t
    refine ⟨r, hr, ?_, ?_, ?_⟩
    . rw [houtcome, hleft]
    . rw [hrequests, hissued]
      rfl
    . intro side p
      rw [hevents, htasks]
      simp [Task.progress?]
  | none =>
    obtain ⟨⟨m, houtcome⟩, hrequests, hevents⟩ :=
      execute_of_not_refusal ex observer timeout none hrefusal s t
    rw [houtcome, hrequests, hevents]
    unfold SubSearches.run
    cases hmode : q.concurrent.isTruthy with
    | false => exact shows_inTurn m hrefusal hmode hex s
    | true =>
      -- Both are taken up at once, the vector side first.
      have hfirst := hex .vector s
      have hsecond := hex .fts (ex (q.request .vector (q.effectiveTimeout timeout)) s).2
      unfold SubSearches.together
      dsimp only [if_true]
      generalize ex (q.request .vector (q.effectiveTimeout timeout)) s = v at hfirst hsecond ⊢
      generalize ex (q.request .fts (q.effectiveTimeout timeout)) v.2 = f at hsecond ⊢
      let reply : Side → Reply := fun side => if side = .vector then v.1 else f.1
      have hreply : ∀ side, (reply side).outcome = answer side := by
        intro side
        cases side with
        | vector => exact hfirst
        | fts => exact hsecond
      exact shows_together m hrefusal hmode hreply

end Execute

end Execution

section Outcomes

variable {answer : Side → Except Failure Batch} {r r' : Snapshot}
  {o o' : Except Interruption Batch}

theorem left_of_refusal {f : Failure} (hr : Reachable q answer r) (hleft : r.stage = .left o)
    (hrefusal : q.refusal? = some f)
    : o = .error (.failed f) ∧ r.issued = [] := by
  obtain ⟨_, _, hends⟩ := ends_of_reachable hr hleft
  cases hends with
  | refused hrefusal' hissued =>
    rw [hrefusal] at hrefusal'
    cases hrefusal'
    exact ⟨rfl, hissued⟩
  | concluded hnone | stopped hnone | ftsFailed hnone | vectorFailed hnone =>
    rw [hrefusal] at hnone
    cases hnone

theorem left_cases (hr : Reachable q answer r) (hleft : r.stage = .left o)
    (hrefusal : q.refusal? = none)
    : (∃ v t, answer .vector = .ok v ∧ answer .fts = .ok t ∧ o = q.conclude v t)
        ∨ ∃ side f, answer side = .error f
            ∧ o = .error (.failed f)
            ∧ (q.concurrent.isTruthy = false →
                (side = .fts ∧ r.issued = [.fts]) ∨ ∃ t, answer .fts = .ok t) := by
  obtain ⟨hhonest, _, hends⟩ := ends_of_reachable hr hleft
  cases hends with
  | refused hsome =>
    rw [hrefusal] at hsome
    cases hsome
  | @concluded v t _ hvector hfts =>
    exact .inl ⟨v, t, (hhonest _ _ hvector).symm, (hhonest _ _ hfts).symm, rfl⟩
  | @stopped side f _ htrue hanswer _ =>
    refine .inr ⟨side, f, hanswer, rfl, ?_⟩
    intro hfalse
    rw [htrue] at hfalse
    cases hfalse
  | @ftsFailed f _ _ hfts hissued =>
    exact .inr ⟨.fts, f, (hhonest _ _ hfts).symm, rfl, fun _ => .inl ⟨rfl, hissued⟩⟩
  | @vectorFailed t f _ _ hfts hvector =>
    exact .inr ⟨.vector, f, (hhonest _ _ hvector).symm, rfl,
      fun _ => .inr ⟨t, (hhonest _ _ hfts).symm⟩⟩

theorem left_of_returned {v t : Batch} (hr : Reachable q answer r) (hleft : r.stage = .left o)
    (hrefusal : q.refusal? = none) (hv : answer .vector = .ok v) (ht : answer .fts = .ok t)
    : o = q.conclude v t := by
  obtain ⟨v', t', hv', ht', rfl⟩ | ⟨side, f, hf, _⟩ := left_cases hr hleft hrefusal
  . cases hv.symm.trans hv'
    cases ht.symm.trans ht'
    rfl
  . cases side with
    | vector => cases hv.symm.trans hf
    | fts => cases ht.symm.trans hf

theorem left_of_failed {side : Side} {f : Failure} (hr : Reachable q answer r)
    (hleft : r.stage = .left o) (hrefusal : q.refusal? = none) (hf : answer side = .error f)
    : ∃ x g, answer x = .error g ∧ o = .error (.failed g) := by
  obtain ⟨v, t, hv, ht, _⟩ | ⟨x, g, hg, ho, _⟩ := left_cases hr hleft hrefusal
  . cases side with
    | vector => cases hf.symm.trans hv
    | fts => cases hf.symm.trans ht
  . exact ⟨x, g, hg, ho⟩

theorem left_of_ftsFailed {f : Failure} (hr : Reachable q answer r) (hleft : r.stage = .left o)
    (hrefusal : q.refusal? = none) (hmode : q.concurrent.isTruthy = false)
    (hf : answer .fts = .error f)
    : o = .error (.failed f) ∧ r.issued = [.fts] := by
  obtain ⟨_, _, _, ht, _⟩ | ⟨x, g, hg, ho, hfirst⟩ := left_cases hr hleft hrefusal
  . cases hf.symm.trans ht
  . obtain ⟨rfl, hissued⟩ | ⟨t, ht⟩ := hfirst hmode
    . cases hf.symm.trans hg
      exact ⟨ho, hissued⟩
    . cases hf.symm.trans ht

theorem outcome_fixed (hrefusal : q.refusal? = none) (hmode : q.concurrent.isTruthy = true)
    {x y : Side} {f : Failure} (hne : y ≠ x) (hx : answer x = .error f) (timeout : Value)
    : (q.execute (Executor.fixed answer fun side => if side = x then 0 else 1)
        (Observer.silent : Observer Unit) timeout none () ()).1.outcome = .error (.failed f) := by
  obtain ⟨⟨m, houtcome⟩, _⟩ := execute_of_not_refusal
    (Executor.fixed answer fun side => if side = x then 0 else 1) (Observer.silent : Observer Unit)
    timeout none hrefusal () ()
  rw [houtcome, hmode]
  let reply : Side → Reply := fun side =>
    { outcome := answer side, delay := if side = x then 0 else 1 }
  have hlt : (reply x).delay < (reply y).delay := by
    simp only [reply, if_true, if_neg hne]
    omega
  have hjoint := Joint.outcome_together_of_lt hne hlt hx
  change (q.afterSubSearches m (Joint.together none (reply .vector) (reply .fts)).outcome).outcome
    = _
  rw [hjoint]
  rfl

theorem exists_execute (timeout : Value) (hr : Reachable q answer r) (hleft : r.stage = .left o)
    : ∃ delay, (q.execute (Executor.fixed answer delay) (Observer.silent : Observer Unit) timeout
        none () ()).1.outcome = o := by
  have hfixed : ∀ delay side s,
      (Executor.fixed answer delay (q.request side (q.effectiveTimeout timeout)) s).1.outcome
        = answer side := by
    intro delay side s
    cases side with
    | vector => rfl
    | fts => rfl
  obtain ⟨r', hr', hshows⟩ := exists_shows (Executor.fixed answer fun _ => 0)
    (Observer.silent : Observer Unit) timeout (hfixed _) () ()
  cases hrefusal : q.refusal? with
  | some f =>
    refine ⟨fun _ => 0, ?_⟩
    rw [(left_of_refusal hr hleft hrefusal).1, (left_of_refusal hr' hshows.stage hrefusal).1]
  | none =>
    by_cases hfailed : ∃ side f, answer side = .error f
    . obtain ⟨side, f, hf⟩ := hfailed
      obtain ⟨x, g, hg, rfl⟩ := left_of_failed hr hleft hrefusal hf
      cases hmode : q.concurrent.isTruthy with
      | true =>
        -- The side whose failure was the first to come is the fast one.
        obtain ⟨y, hne⟩ : ∃ y, y ≠ x := by
          cases x with
          | vector => exact ⟨.fts, by decide⟩
          | fts => exact ⟨.vector, by decide⟩
        exact ⟨_, outcome_fixed hrefusal hmode hne hg timeout⟩
      | false =>
        refine ⟨fun _ => 0, ?_⟩
        cases hfts : answer .fts with
        | error e =>
          rw [(left_of_ftsFailed hr hleft hrefusal hmode hfts).1]
          exact (left_of_ftsFailed hr' hshows.stage hrefusal hmode hfts).1
        | ok t =>
          obtain ⟨x', g', hg', ho'⟩ := left_of_failed hr' hshows.stage hrefusal hf
          have hx : x = .vector := by
            cases x with
            | vector => rfl
            | fts => cases hfts.symm.trans hg
          have hx' : x' = .vector := by
            cases x' with
            | vector => rfl
            | fts => cases hfts.symm.trans hg'
          rw [hx] at hg
          rw [hx', hg] at hg'
          cases hg'
          exact ho'
    . refine ⟨fun _ => 0, ?_⟩
      have hok : ∀ side, ∃ b, answer side = .ok b := by
        intro side
        cases ho : answer side with
        | ok b => exact ⟨b, rfl⟩
        | error g => exact absurd ⟨side, g, ho⟩ hfailed
      obtain ⟨v, hv⟩ := hok .vector
      obtain ⟨t, ht⟩ := hok .fts
      rw [left_of_returned hr hleft hrefusal hv ht]
      exact left_of_returned hr' hshows.stage hrefusal hv ht

def failingAnswer : Side → Except Failure Batch
  | .vector => .error (.data .rowPosition)
  | .fts => .ok ⟨[], none, by decide⟩

end Outcomes

end HybridQuery

end RankFusion
