import RankFusion.Proofs.Query.Orchestration

/-!
This module contains what a run reports of itself. Whatever its end, an observer is told once, and
has no part in the run. The report says that the query succeeded exactly if the caller has got a
batch, unless the caller gave up: a run that was given up reports a success that is not complete.
-/

namespace RankFusion

namespace RunState

/--
Whether the metrics of a run in progress agree with what it has come to. A failure is not noted in
them yet.
-/
structure InStep (r : RunState) : Prop where
  status : r.metrics.status = .success
  complete : r.metrics.stage = .complete ↔ ∃ b, r.outcome = .ok b
  cancelled : r.outcome = .error .cancelled → r.metrics.stage = .subSearching

variable {r : RunState}

theorem inStep_of_failed {m : Metrics} {f : Failure} (hstatus : m.status = .success)
    (hstage : m.stage ≠ .complete)
    : InStep ⟨m, .error (.failed f)⟩ := by
  refine ⟨hstatus, ?_, nofun⟩
  apply iff_of_false hstage
  rintro ⟨b, hb⟩
  cases hb

theorem stage_close : r.close.1.stage = r.metrics.stage := by
  unfold close
  split <;> rfl

theorem status_close_iff (h : r.InStep)
    : r.close.1.status = .success ↔ (∃ b, r.outcome = .ok b) ∨ r.outcome = .error .cancelled := by
  unfold close
  cases r.outcome with
  | ok b => simp [h.status]
  | error i =>
    cases i with
    | failed f => simp
    | cancelled => simp [h.status]

end RunState

namespace HybridQuery

variable {q : HybridQuery} {m : Metrics}

theorem inStep_finish (h : m.status = .success) (fused : Batch) : (q.finish m fused).InStep := by
  unfold finish
  cases q.present fused with
  | error f => exact RunState.inStep_of_failed h nofun
  | ok b => exact ⟨h, iff_of_true rfl ⟨b, rfl⟩, nofun⟩

theorem inStep_fuse (h : m.status = .success) (v t : Batch) : (q.fuse m v t).InStep := by
  unfold fuse
  dsimp only
  cases q.reranker.rerank v t q.query with
  | error f => exact RunState.inStep_of_failed h nofun
  | ok fused =>
    apply inStep_finish
    exact h

theorem inStep_afterSubSearches (h : m.status = .success)
    (found : Except Interruption (Batch × Batch))
    : (q.afterSubSearches m found).InStep := by
  unfold afterSubSearches
  cases found with
  | ok pair => exact inStep_fuse h pair.1 pair.2
  | error i =>
    cases i with
    | failed f => exact RunState.inStep_of_failed h nofun
    | cancelled =>
      refine ⟨h, ?_, fun _ => rfl⟩
      apply iff_of_false nofun
      rintro ⟨b, hb⟩
      cases hb

section Attempt

variable {σ τ : Type} (ex : Executor σ) (timeout : Value) (giveUp : Option Nat) (s : σ)

theorem inStep_attempt (hstatus : m.status = .success) (hstage : m.stage = .configured)
    : (q.attempt m ex timeout giveUp s).state.InStep := by
  unfold attempt
  cases q.config.validate with
  | error f =>
    apply RunState.inStep_of_failed hstatus
    rw [hstage]
    nofun
  | ok _ =>
    apply inStep_afterSubSearches
    exact hstatus

theorem execute_of_name {strategy : String} (h : q.reranker.name = .ok strategy)
    (observer : Observer τ) (t : τ)
    : let a := q.attempt (q.startMetrics strategy) ex (q.effectiveTimeout timeout) giveUp s
      let x := q.execute ex observer timeout giveUp s t
      x.1.outcome = a.state.outcome
        ∧ x.1.metrics = a.state.close.1
        ∧ x.1.requests = a.requests
        ∧ x.1.events = a.events
        ∧ x.2 = (a.engine, (observer a.state.close.1 t).1) := by
  unfold execute
  rw [h]
  exact ⟨rfl, rfl, rfl, rfl, rfl⟩

/--
What a run reports, whatever its end, and whatever the engine and the observer do. Only a run that
the caller gave up is reported as a success without a batch.
-/
theorem report_execute {strategy : String} (h : q.reranker.name = .ok strategy)
    (observer : Observer τ) (t : τ)
    : let x := q.execute ex observer timeout giveUp s t
      let returned := ∃ b, x.1.outcome = .ok b
      -- the observer is told once, of the metrics of the run
      x.2.2 = (observer x.1.metrics t).1
        ∧ (∀ ms, (q.execute ex .collecting timeout giveUp s ms).2.2 = ms ++ [x.1.metrics])
        -- the report and the end of the run
        ∧ (x.1.metrics.stage = .complete ↔ returned)
        ∧ (x.1.metrics.status = .success ↔ returned ∨ x.1.outcome = .error .cancelled)
        ∧ (x.1.outcome = .error .cancelled → x.1.metrics.stage = .subSearching)
        -- another observer, which may fail, changes nothing
        ∧ ∀ {τ' : Type} (observer' : Observer τ') (t' : τ'),
            let x' := q.execute ex observer' timeout giveUp s t'
            x'.1.outcome = x.1.outcome
              ∧ x'.1.metrics = x.1.metrics
              ∧ x'.1.requests = x.1.requests
              ∧ x'.1.events = x.1.events
              ∧ x'.2.1 = x.2.1 := by
  intro x returned
  let a := q.attempt (q.startMetrics strategy) ex (q.effectiveTimeout timeout) giveUp s
  obtain ⟨houtcome, hmetrics, hrequests, hevents, hafter⟩ :=
    execute_of_name ex timeout giveUp s h observer t
  have hstep : a.state.InStep := inStep_attempt ex _ giveUp s rfl rfl
  refine ⟨?told, ?collected, ?complete, ?success, ?cancelled, ?observer⟩
  case told =>
    change (q.execute ex observer timeout giveUp s t).2.2 = _
    rw [hafter, hmetrics]
  case collected =>
    intro ms
    obtain ⟨_, _, _, _, hcollected⟩ := execute_of_name ex timeout giveUp s h .collecting ms
    change _ = ms ++ [(q.execute ex observer timeout giveUp s t).1.metrics]
    rw [hcollected, hmetrics]
    rfl
  case complete =>
    simp only [x, returned, houtcome, hmetrics, RunState.stage_close]
    exact hstep.complete
  case success =>
    simp only [x, returned, houtcome, hmetrics]
    exact RunState.status_close_iff hstep
  case cancelled =>
    simp only [x, houtcome, hmetrics, RunState.stage_close]
    exact hstep.cancelled
  case observer =>
    intro τ' observer' t'
    obtain ⟨houtcome', hmetrics', hrequests', hevents', hafter'⟩ :=
      execute_of_name ex timeout giveUp s h observer' t'
    refine ⟨houtcome'.trans houtcome.symm, hmetrics'.trans hmetrics.symm,
      hrequests'.trans hrequests.symm, hevents'.trans hevents.symm, ?_⟩
    change (q.execute ex observer' timeout giveUp s t').2.1 =
      (q.execute ex observer timeout giveUp s t).2.1
    rw [hafter', hafter]

theorem report_execute_failing
    : let q : HybridQuery := { query := "q", vector := [.one] }
      let ex := Executor.fixed failingAnswer fun _ => 0
      let x := q.execute ex .collecting .null none () []
      q.reranker.name = .ok "rrf"
        ∧ x.1.outcome = .error (.failed (.data .rowPosition))
        ∧ x.2.2 = [x.1.metrics]
        ∧ x.1.metrics.stage ≠ .complete
        ∧ x.1.metrics.status ≠ .success := by
  intro q ex x
  have hname : q.reranker.name = .ok "rrf" := rfl
  have houtcome : x.1.outcome = .error (.failed (.data .rowPosition)) := by rfl
  have hnone : ¬ ∃ b, x.1.outcome = .ok b := by
    rintro ⟨b, hb⟩
    rw [houtcome] at hb
    cases hb
  obtain ⟨_, hcollected, hcomplete, hsuccess, _⟩ :=
    report_execute ex .null none () hname .collecting []
  refine ⟨hname, houtcome, hcollected [], fun h => hnone (hcomplete.1 h), ?_⟩
  intro h
  obtain hreturned | hcancelled := hsuccess.1 h
  . exact hnone hreturned
  . have hended := houtcome.symm.trans hcancelled
    cases hended

/--
A run that is given up is reported as a success, and a run without a strategy is not reported at
all. Neither returns a batch.
-/
theorem success_of_cancelled
    : (let q : HybridQuery := { query := "q", vector := [.one] }
        let x :=
          q.execute (Executor.fixed failingAnswer fun _ => 5) .collecting .null (some 1) () []
        x.1.outcome = .error .cancelled
          ∧ x.2.2.map (·.status) = [.success]
          ∧ x.2.2.map (·.stage) = [.subSearching])
      ∧ ∃ (q : HybridQuery) (f : Failure),
        create (.text "q") (.list [.real .one]) (.other (.text "rrf")) {} (.bool true) .null .null
            = .ok q
          ∧ let x :=
              q.execute (Executor.fixed failingAnswer fun _ => 0) .collecting .null none () []
            x.1.outcome = .error (.failed f) ∧ x.2.2 = [] :=
  ⟨⟨rfl, rfl, rfl⟩, _, .operand (.missingAttribute "str" "name"), rfl, rfl, rfl⟩

end Attempt

end HybridQuery

end RankFusion
