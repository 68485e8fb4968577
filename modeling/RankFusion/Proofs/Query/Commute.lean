import RankFusion.Proofs.Request.Fluent

/-!
This module contains that builder calls commute. From the default configuration, calls that write
different settings lead to the same query in every order: a call that comes earlier finds settings
that are the usual ones still, and these break no rule.
-/

namespace RankFusion

def BuilderCall.setting? (call : BuilderCall) : Option Setting := call.write?.map (·.1)

namespace HybridQuery

variable {q q' built base : HybridQuery} {call : BuilderCall} {calls calls' : List BuilderCall}
  {s : Setting} {v w : Value}

def addVectors (q : HybridQuery) (vs : List Value) : Except Failure Value :=
  vs.foldlM (fun w v => (q.withVectors w).extendVectors v) q.config.vector.additionalVectors

/--
What calls lead to that write different settings, each of which keeps what was written to it. The
order of the calls shows in the vectors only.
-/
structure Leads (q : HybridQuery) (calls : List BuilderCall) (built : HybridQuery) : Prop where
  core : q.SameCore built
  valid : built.config.Valid
  told : ∀ call ∈ calls, ∀ s, call.setting? = some s →
    call.write? = some ⟨s, .ok (built.setting s)⟩
  untold : ∀ s, s ∉ calls.filterMap BuilderCall.setting? → built.setting s = q.setting s
  vectors : q.addVectors (calls.filterMap BuilderCall.added?)
    = .ok built.config.vector.additionalVectors

section Steps

theorem chain_cons
    : q.chain (call :: calls) = .ok built
        ↔
      ∃ q', q.applied call = .ok q' ∧ q'.chain calls = .ok built := by
  unfold chain
  rw [List.foldlM_cons, Except.bind_eq_ok_iff]

theorem applied_eq_ok_iff : q.applied call = .ok q' ↔ q.apply call = (q', none) := by
  unfold applied
  obtain ⟨changed, _ | f⟩ := q.apply call
  . simp
  . simp

theorem applied_write_iff (hvalid : q.config.Valid) {x : Except Failure s.Kind}
    (hwrite : call.write? = some ⟨s, x⟩)
    : q.applied call = .ok q'
        ↔
      ∃ y, x = .ok y ∧ (q.setTo s y).config.Valid ∧ q.setTo s y = q' := by
  cases x with
  | error f =>
    rw [applied_eq_ok_iff, apply_of_write hwrite]
    simp [write]
  | ok y =>
    rw [applied_of_write hwrite]
    cases hcheck : s.check (q.setTo s y) with
    | ok _ => simp [Except.map, (Setting.check_setTo_iff hvalid).1 hcheck]
    | error f =>
      have hbroken : ¬ (q.setTo s y).config.Valid := by
        intro hkept
        rw [(Setting.check_setTo_iff hvalid).2 hkept] at hcheck
        cases hcheck
      simp [Except.map, hbroken]

theorem applied_addQueryVector_iff
    : q.applied (.addQueryVector v) = .ok q'
        ↔
      ∃ w, q.extendVectors v = .ok w ∧ q.withVectors w = q' := by
  rw [applied_eq_ok_iff]
  change q.change ((q.extendVectors v).map q.withVectors) = _ ↔ _
  cases q.extendVectors v with
  | ok w => simp [change, Except.map]
  | error f => simp [change, Except.map]

theorem setting?_of_write {x : Except Failure s.Kind} (h : call.write? = some ⟨s, x⟩)
    : call.setting? = some s := by
  unfold BuilderCall.setting?
  rw [h]
  rfl

theorem extendVectors_congr (hvector : q'.vector = q.vector)
    (hvectors : q'.config.vector.additionalVectors = q.config.vector.additionalVectors)
    : q'.extendVectors v = q.extendVectors v := by
  unfold extendVectors
  rw [hvector, hvectors]

theorem addVectors_setTo {y : s.Kind} (vs : List Value)
    : (q.setTo s y).addVectors vs = q.addVectors vs := by
  unfold addVectors
  rw [additionalVectors_setTo]
  congr 1
  funext w v
  exact extendVectors_congr sameCore_setTo.vector rfl

theorem addVectors_cons
    : q.addVectors ((.addQueryVector v :: calls).filterMap BuilderCall.added?) = (do
        let w ← q.extendVectors v
        (q.withVectors w).addVectors (calls.filterMap BuilderCall.added?)) := rfl

end Steps

theorem SameCore.symm (h : q.SameCore q') : q'.SameCore q :=
  ⟨h.query.symm, h.vector.symm, h.concurrent.symm, h.timeout.symm⟩

namespace Leads

theorem cons_write {y : s.Kind} (hwrite : call.write? = some ⟨s, .ok y⟩)
    (hnew : s ∉ calls.filterMap BuilderCall.setting?) (h : (q.setTo s y).Leads calls built)
    : q.Leads (call :: calls) built := by
  have hsetting := setting?_of_write hwrite
  have hkept : built.setting s = y := by
    rw [h.untold s hnew, setting_setTo_self]
  refine ⟨sameCore_setTo.trans h.core, h.valid, ?_, ?_, ?_⟩
  . rw [List.forall_mem_cons]
    refine ⟨?_, h.told⟩
    intro s' hs'
    cases hsetting.symm.trans hs'
    rw [hwrite, hkept]
  . intro s' hs'
    rw [List.filterMap_cons_some hsetting, List.mem_cons, not_or] at hs'
    rw [h.untold s' hs'.2, setting_setTo_of_ne hs'.1]
  . rw [List.filterMap_cons_none (BuilderCall.added?_of_write hwrite)]
    exact (addVectors_setTo _).symm.trans h.vectors

theorem of_cons_write {x : Except Failure s.Kind} (hwrite : call.write? = some ⟨s, x⟩)
    (h : q.Leads (call :: calls) built)
    : x = .ok (built.setting s) ∧ (q.setTo s (built.setting s)).Leads calls built := by
  have hsetting := setting?_of_write hwrite
  have htold := List.forall_mem_cons.1 h.told
  constructor
  . have hsame := hwrite.symm.trans (htold.1 s hsetting)
    simpa using hsame
  . refine ⟨?_, h.valid, htold.2, ?_, ?_⟩
    . exact sameCore_setTo.symm.trans h.core
    . intro s' hs'
      by_cases heq : s' = s
      . subst heq
        exact setting_setTo_self.symm
      . rw [setting_setTo_of_ne heq]
        apply h.untold
        rw [List.filterMap_cons_some hsetting, List.mem_cons, not_or]
        exact ⟨heq, hs'⟩
    . have hvectors := h.vectors
      rw [List.filterMap_cons_none (BuilderCall.added?_of_write hwrite)] at hvectors
      rw [addVectors_setTo]
      exact hvectors

theorem cons_addQueryVector_iff
    : q.Leads (.addQueryVector v :: calls) built
        ↔
      ∃ w, q.extendVectors v = .ok w ∧ (q.withVectors w).Leads calls built := by
  constructor
  . intro h
    have hvectors := h.vectors
    rw [addVectors_cons] at hvectors
    obtain ⟨w, hw, hvectors⟩ := Except.bind_eq_ok_iff.1 hvectors
    refine ⟨w, hw, (sameCore_withVectors w).symm.trans h.core, h.valid,
      (List.forall_mem_cons.1 h.told).2, ?_, hvectors⟩
    intro s hs
    rw [setting_withVectors]
    exact h.untold s hs
  . rintro ⟨w, hw, h⟩
    refine ⟨(sameCore_withVectors w).trans h.core, h.valid,
      List.forall_mem_cons.2 ⟨nofun, h.told⟩, ?_, ?_⟩
    . intro s hs
      rw [← setting_withVectors w]
      exact h.untold s hs
    . rw [addVectors_cons, hw]
      exact h.vectors

end Leads

theorem Leads.perm (hperm : calls.Perm calls')
    (hadded : calls.filterMap BuilderCall.added? = calls'.filterMap BuilderCall.added?)
    (h : q.Leads calls built)
    : q.Leads calls' built where
  core := h.core
  valid := h.valid
  told := fun call hcall => h.told call (hperm.mem_iff.2 hcall)
  untold := fun s hs => h.untold s fun hmem => hs ((hperm.filterMap _).mem_iff.1 hmem)
  vectors := by
    rw [← hadded]
    exact h.vectors

theorem leads_nil (hvalid : q.config.Valid) : q.Leads [] q :=
  ⟨.refl q, hvalid, nofun, fun _ _ => rfl, rfl⟩

theorem eq_of_leads_nil (h : q.Leads [] built) : q = built := by
  refine (eq_of_setting h.core (fun s => h.untold s List.not_mem_nil) ?_).symm
  exact (Except.ok.inj h.vectors).symm

theorem eq_addQueryVector_of_write (h : call.write? = none) : ∃ v, call = .addQueryVector v := by
  cases call with
  | addQueryVector v => exact ⟨v, rfl⟩
  | _ => cases h

theorem leads_of_chain (hvalid : q.config.Valid)
    (honce : (calls.filterMap BuilderCall.setting?).Nodup) (h : q.chain calls = .ok built)
    : q.Leads calls built := by
  induction calls generalizing q with
  | nil =>
    cases h
    exact leads_nil hvalid
  | cons call calls ih =>
    obtain ⟨q', hfirst, hrest⟩ := chain_cons.1 h
    cases hwrite : call.write? with
    | some sx =>
      obtain ⟨s, x⟩ := sx
      rw [List.filterMap_cons_some (setting?_of_write hwrite), List.nodup_cons] at honce
      obtain ⟨y, rfl, hkept, rfl⟩ := (applied_write_iff hvalid hwrite).1 hfirst
      exact .cons_write hwrite honce.1 (ih hkept honce.2 hrest)
    | none =>
      obtain ⟨v, rfl⟩ := eq_addQueryVector_of_write hwrite
      obtain ⟨w, hw, rfl⟩ := applied_addQueryVector_iff.1 hfirst
      exact Leads.cons_addQueryVector_iff.2 ⟨w, hw, ih (valid_withVectors hvalid) honce hrest⟩

theorem valid_of_between {base target q : HybridQuery} (hbase : base.config = {})
    (h : ∀ s, q.setting s = base.setting s ∨ q.setting s = target.setting s)
    (htarget : target.config.Valid)
    : q.config.Valid := by
  unfold setting at h
  rw [hbase] at h
  have hcounts := htarget.vector.counts
  simp only [VectorTuning.counts, List.forall_mem_cons] at hcounts
  obtain ⟨hnprobes, hrefine, hef, hminimum, hmaximum, _⟩ := hcounts
  refine ⟨⟨?metric, ?counts, ?probes, ?range⟩, ?limit, ?offset, ?subSearchLimit⟩
  case metric =>
    intro v hv
    obtain husual | hled := h .distanceMetric
    . cases hv.symm.trans husual
    . exact htarget.vector.metric v (hled.symm.trans hv)
  case counts =>
    simp only [VectorTuning.counts, List.forall_mem_cons]
    exact ⟨hnprobes.of_null_or (h .nprobes), hrefine.of_null_or (h .refineFactor),
      hef.of_null_or (h .ef), hminimum.of_null_or (h .minimumNprobes),
      hmaximum.of_null_or (h .maximumNprobes), List.forall_mem_nil _⟩
  case probes => exact htarget.vector.probes.of_null_or (h .minimumNprobes) (h .maximumNprobes)
  case range =>
    obtain hnull | hrange := h .distanceRange
    . exact .inl hnull
    . dsimp only at hrange
      rw [hrange]
      exact htarget.vector.range
  case limit => exact htarget.limit.of_null_or (h .limit)
  case offset => exact htarget.offset.of_null_or (h .offset)
  case subSearchLimit => exact htarget.subSearchLimit.of_null_or (h .subSearchLimit)

theorem chain_of_leads (hbase : base.config = {})
    (hbetween : ∀ s, q.setting s = base.setting s ∨ q.setting s = built.setting s)
    (h : q.Leads calls built)
    : q.chain calls = .ok built := by
  induction calls generalizing q with
  | nil =>
    rw [← eq_of_leads_nil h]
    rfl
  | cons call calls ih =>
    rw [chain_cons]
    cases hwrite : call.write? with
    | some sx =>
      obtain ⟨s, x⟩ := sx
      obtain ⟨rfl, hrest⟩ := h.of_cons_write hwrite
      have honward : ∀ s', (q.setTo s (built.setting s)).setting s' = base.setting s'
          ∨ (q.setTo s (built.setting s)).setting s' = built.setting s' := by
        intro s'
        by_cases heq : s' = s
        . subst heq
          exact .inr setting_setTo_self
        . rw [setting_setTo_of_ne heq]
          exact hbetween s'
      exact ⟨_, (applied_write_iff (valid_of_between hbase hbetween h.valid) hwrite).2
        ⟨_, rfl, valid_of_between hbase honward h.valid, rfl⟩, ih honward hrest⟩
    | none =>
      obtain ⟨v, rfl⟩ := eq_addQueryVector_of_write hwrite
      obtain ⟨w, hw, hrest⟩ := Leads.cons_addQueryVector_iff.1 h
      refine ⟨_, applied_addQueryVector_iff.2 ⟨w, hw, rfl⟩, ih ?_ hrest⟩
      intro s
      rw [setting_withVectors]
      exact hbetween s

/--
From the default configuration, calls that write different settings succeed in every order if they
do in one, and lead to the same query: the same configuration, strategy and use of row identifiers,
and so the same sub-searches. The vectors that are added keep their order.
-/
theorem chain_perm (hconfig : q.config = {})
    (honce : (calls.filterMap BuilderCall.setting?).Nodup) (hperm : calls.Perm calls')
    (hadded : calls.filterMap BuilderCall.added? = calls'.filterMap BuilderCall.added?)
    : q.chain calls = .ok built ↔ q.chain calls' = .ok built := by
  have hvalid : q.config.Valid := by
    rw [hconfig]
    exact QueryConfig.validate_eq_ok_iff.1 rfl
  constructor
  . intro h
    exact chain_of_leads hconfig (fun _ => .inl rfl)
      ((leads_of_chain hvalid honce h).perm hperm hadded)
  . intro h
    have honce' := ((hperm.filterMap BuilderCall.setting?).nodup_iff).1 honce
    exact chain_of_leads hconfig (fun _ => .inl rfl)
      ((leads_of_chain hvalid honce' h).perm hperm.symm hadded.symm)

/-- The lower bound of adaptive probing is told before the upper one, or after it. -/
theorem chain_perm_probes
    : let q : HybridQuery := { query := "q", vector := [.one] }
      let later : List BuilderCall :=
        [.addQueryVector (.list [.int 1]), .maximumNprobes (.int 2),
          .addQueryVector (.list [.int 0])]
      let calls : List BuilderCall := .minimumNprobes (.int 1) :: later
      let calls' : List BuilderCall := later ++ [.minimumNprobes (.int 1)]
      q.config = {}
        ∧ (calls.filterMap BuilderCall.setting?).Nodup
        ∧ calls.Perm calls'
        ∧ calls.filterMap BuilderCall.added? = calls'.filterMap BuilderCall.added?
        ∧ ∃ built, q.chain calls = .ok built ∧ q.chain calls' = .ok built := by
  intro q later calls calls'
  have honce : (calls.filterMap BuilderCall.setting?).Nodup := by decide
  have hperm : calls.Perm calls' :=
    @List.perm_append_comm BuilderCall [.minimumNprobes (.int 1)] later
  refine ⟨rfl, honce, hperm, rfl, _, rfl, ?_⟩
  exact (chain_perm rfl honce hperm rfl).1 rfl

end HybridQuery

end RankFusion
