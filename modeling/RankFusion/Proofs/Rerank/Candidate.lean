import RankFusion.Proofs.Rerank.Parameter

/-!
This module contains what is made of a method and doubles for its parameters: the strategy with
exactly these parameters if they obey the rules, and otherwise a failure that names a rule they
break.
-/

namespace RankFusion.Reranker

section Refused

variable {s t : Scalar}

theorem requireOrder_of_false {c : Comparison} (h : c.onReal s.exact t.exact = false)
    (fault : ParameterFault)
    : requireOrder c s.toValue t.toValue fault = .error (Failure.parameter fault).worded := by
  unfold requireOrder
  rw [Scalar.compare_toValue, h]
  rfl

theorem requireUnit_of_not_inUnit (h : ¬ s.exact.InUnit) (fault : ParameterFault)
    : requireUnit s.toValue fault = .error (Failure.parameter fault).worded := by
  unfold requireUnit
  rw [Except.bind_eq_error_iff]
  cases hzero : Comparison.le.onReal Binary.zero s.exact with
  | false => exact .inl (@requireOrder_of_false (.int 0) s .le hzero fault)
  | true =>
    have hone : Comparison.le.onReal s.exact Binary.one = false := by
      rw [← Bool.not_eq_true]
      exact fun hone => h ⟨hzero, hone⟩
    exact .inr ⟨(), @requireOrder_toValue (.int 0) s .le hzero fault,
      @requireOrder_of_false s (.int 1) .le hone fault⟩

theorem ofConstant_of_not_pos {k : Scalar} (h : Binary.zero.lt k.exact = false)
    : ofConstant k.toValue = .error (Failure.parameter (.fusionConstant k.toValue)).worded :=
  Except.bind_eq_error_iff.2 (.inl (@requireOrder_of_false k (.int 0) .gt h _))

theorem ofWeights_of_not_inUnit {weight : Scalar} (h : ¬ weight.exact.InUnit) (fill : Value)
    : ofWeights weight.toValue fill = .error (Failure.parameter (.share weight.toValue)).worded :=
  Except.bind_eq_error_iff.2 (.inl (requireUnit_of_not_inUnit h _))

theorem ofWeights_of_negative {weight fill : Scalar} (hweight : weight.exact.InUnit)
    (h : Binary.zero.le fill.exact = false)
    : ofWeights weight.toValue fill.toValue
        = .error (Failure.parameter (.negative "fill" fill.toValue)).worded := by
  refine Except.bind_eq_error_iff.2 (.inr ⟨(), requireUnit_toValue hweight _, ?_⟩)
  exact Except.bind_eq_error_iff.2 (.inl (@requireOrder_of_false fill (.int 0) .ge h _))

theorem ofRankWeights_of_not_inUnit_left {weightVector : Scalar}
    (h : ¬ weightVector.exact.InUnit) (weightFts : Value)
    : ofRankWeights weightVector.toValue weightFts
        = .error (Failure.parameter (.rankWeight "weight_vector" weightVector.toValue)).worded :=
  Except.bind_eq_error_iff.2 (.inl (requireUnit_of_not_inUnit h _))

theorem ofRankWeights_of_not_inUnit_right {weightVector weightFts : Scalar}
    (hvector : weightVector.exact.InUnit) (h : ¬ weightFts.exact.InUnit)
    : ofRankWeights weightVector.toValue weightFts.toValue
        = .error (Failure.parameter (.rankWeight "weight_fts" weightFts.toValue)).worded := by
  refine Except.bind_eq_error_iff.2 (.inr ⟨(), requireUnit_toValue hvector _, ?_⟩)
  exact Except.bind_eq_error_iff.2 (.inl (requireUnit_of_not_inUnit h _))

theorem ofRankWeights_of_sum {weightVector weightFts total : Scalar} {x : Binary}
    (hvector : weightVector.exact.InUnit) (hfts : weightFts.exact.InUnit)
    (htotal : weightVector.add weightFts = .ok total) (hx : total.toReal = .ok x)
    (hsum : sumsToOne x = false)
    : ofRankWeights weightVector.toValue weightFts.toValue
        = .error (Failure.parameter (.weightSum total.toValue)).worded := by
  unfold ofRankWeights
  rw [requireScalar_toValue, requireScalar_toValue]
  refine Except.bind_eq_error_iff.2 (.inr ⟨(), requireUnit_toValue hvector _, ?_⟩)
  refine Except.bind_eq_error_iff.2 (.inr ⟨(), requireUnit_toValue hfts _, ?_⟩)
  refine Except.bind_eq_error_iff.2 (.inr ⟨weightVector, rfl, ?_⟩)
  refine Except.bind_eq_error_iff.2 (.inr ⟨weightFts, rfl, ?_⟩)
  refine Except.bind_eq_error_iff.2 (.inr ⟨total, htotal, ?_⟩)
  refine Except.bind_eq_error_iff.2 (.inr ⟨x, hx, ?_⟩)
  rw [hsum]
  rfl

theorem create_name_error (m : RerankMethod) (params : List (String × Value))
    {fault : ParameterFault} (hmethod : Value.lookup? methodParameter params = none)
    (h : ofNamed m params = .error (Failure.parameter fault).worded)
    (hprintable : ∀ v ∈ fault.shown, v.isPrintable = true)
    : create (.text m.name) params = .error (.parameter fault) := by
  have hnamed : method? (.text m.name) = some m := RerankMethod.ofName?_name m
  unfold create
  rw [hmethod, hnamed]
  dsimp only
  rw [h, @Failure.worded_of_printable (.parameter fault) hprintable]
  rfl

end Refused

inductive Candidate where
  | rrf (k : Binary)
  | linear (weight fill : Binary)
  | mrr (weightVector weightFts : Binary)

namespace Candidate

def strategy : Candidate → Reranker
  | rrf k => .rrf (.real k)
  | linear weight fill => .linear (.real weight) (.real fill)
  | mrr weightVector weightFts => .mrr (.real weightVector) (.real weightFts)

def parameters (c : Candidate) : List (String × Value) :=
  c.strategy.parameters.map fun p => (p.1, p.2.toValue)

def create (c : Candidate) : Except Failure Reranker :=
  Reranker.create (.text c.strategy.name) c.parameters

def WeightsAgree : Candidate → Prop
  | mrr weightVector weightFts =>
    sumsToOne (Format.double.add weightVector weightFts) = true
  | _ => True

/--
Whether the parameters break a rule, with the fault that reports it.
-/
inductive Breaks : Candidate → ParameterFault → Prop where
  | constant {k : Binary} (h : Binary.zero.lt k = false) :
      Breaks (rrf k) (.fusionConstant (.real k))
  | weight {weight fill : Binary} (h : ¬ weight.InUnit) :
      Breaks (linear weight fill) (.share (.real weight))
  | fill {weight fill : Binary} (h : Binary.zero.le fill = false) :
      Breaks (linear weight fill) (.negative "fill" (.real fill))
  | weightVector {weightVector weightFts : Binary} (h : ¬ weightVector.InUnit) :
      Breaks (mrr weightVector weightFts) (.rankWeight "weight_vector" (.real weightVector))
  | weightFts {weightVector weightFts : Binary} (h : ¬ weightFts.InUnit) :
      Breaks (mrr weightVector weightFts) (.rankWeight "weight_fts" (.real weightFts))
  | sum {weightVector weightFts : Binary}
      (h : sumsToOne (Format.double.add weightVector weightFts) = false) :
      Breaks (mrr weightVector weightFts)
        (.weightSum (.real (Format.double.add weightVector weightFts)))

variable {c : Candidate}

theorem isPrintable_strategy (c : Candidate)
    : ∀ p ∈ c.strategy.parameters, p.2.toValue.isPrintable = true := by
  cases c with
  | rrf k => exact List.forall_mem_singleton.2 rfl
  | linear | mrr => exact List.forall_mem_cons.2 ⟨rfl, List.forall_mem_singleton.2 rfl⟩

theorem Breaks.isPrintable {fault : ParameterFault} (h : c.Breaks fault)
    : ∀ v ∈ fault.shown, v.isPrintable = true := by
  cases h with
  | _ => exact List.forall_mem_singleton.2 rfl

theorem not_breaks (hrange : c.strategy.InRange) (hagree : c.WeightsAgree)
    (fault : ParameterFault)
    : ¬ c.Breaks fault := by
  intro hbreaks
  cases hbreaks with
  | constant h => exact absurd (hrange.symm.trans h) nofun
  | weight h => exact h hrange.1
  | fill h => exact absurd (hrange.2.symm.trans h) nofun
  | weightVector h => exact h hrange.1
  | weightFts h => exact h hrange.2
  | sum h => exact absurd (hagree.symm.trans h) nofun

theorem eq_weightSum_of_breaks {fault : ParameterFault} (hrange : c.strategy.InRange)
    (h : c.Breaks fault)
    : ∃ weightVector weightFts, c = mrr weightVector weightFts
        ∧ fault = .weightSum (.real (Format.double.add weightVector weightFts)) := by
  cases h with
  | constant h => exact absurd (hrange.symm.trans h) nofun
  | weight h => exact absurd hrange.1 h
  | fill h => exact absurd (hrange.2.symm.trans h) nofun
  | weightVector h => exact absurd hrange.1 h
  | weightFts h => exact absurd hrange.2 h
  | sum h => exact ⟨_, _, rfl, rfl⟩

theorem create_cases (c : Candidate)
    : (c.strategy.InRange ∧ c.WeightsAgree ∧ c.create = .ok c.strategy)
        ∨ ∃ fault, c.Breaks fault ∧ c.create = .error (.parameter fault) := by
  have hprintable := isPrintable_strategy c
  cases c with
  | rrf k =>
    cases hpos : Binary.zero.lt k with
    | true =>
      exact .inl ⟨hpos, trivial,
        create_name .rrf _ rfl (@ofConstant_toValue (.real k) hpos) hprintable⟩
    | false =>
      have hbreaks := Breaks.constant hpos
      exact .inr ⟨_, hbreaks, create_name_error .rrf _ rfl
        (@ofConstant_of_not_pos (.real k) hpos) hbreaks.isPrintable⟩
  | linear weight fill =>
    by_cases hweight : weight.InUnit
    . cases hfill : Binary.zero.le fill with
      | true =>
        exact .inl ⟨⟨hweight, hfill⟩, trivial, create_name .linear _ rfl
          (@ofWeights_toValue (.real weight) (.real fill) hweight hfill) hprintable⟩
      | false =>
        have hbreaks := @Breaks.fill weight _ hfill
        exact .inr ⟨_, hbreaks, create_name_error .linear _ rfl
          (@ofWeights_of_negative (.real weight) (.real fill) hweight hfill) hbreaks.isPrintable⟩
    . have hbreaks := @Breaks.weight _ fill hweight
      exact .inr ⟨_, hbreaks, create_name_error .linear _ rfl
        (@ofWeights_of_not_inUnit (.real weight) hweight _) hbreaks.isPrintable⟩
  | mrr weightVector weightFts =>
    by_cases hvector : weightVector.InUnit
    . by_cases hfts : weightFts.InUnit
      . cases hsum : sumsToOne (Format.double.add weightVector weightFts) with
        | true =>
          exact .inl ⟨⟨hvector, hfts⟩, hsum, create_name .mrr _ rfl
            (@ofRankWeights_toValue (.real weightVector) (.real weightFts) _ _ hvector hfts rfl rfl
              hsum) hprintable⟩
        | false =>
          have hbreaks := Breaks.sum hsum
          exact .inr ⟨_, hbreaks, create_name_error .mrr _ rfl
            (@ofRankWeights_of_sum (.real weightVector) (.real weightFts) _ _ hvector hfts rfl rfl
              hsum) hbreaks.isPrintable⟩
      . have hbreaks := @Breaks.weightFts weightVector _ hfts
        exact .inr ⟨_, hbreaks, create_name_error .mrr _ rfl
          (@ofRankWeights_of_not_inUnit_right (.real weightVector) (.real weightFts) hvector hfts)
          hbreaks.isPrintable⟩
    . have hbreaks := @Breaks.weightVector _ weightFts hvector
      exact .inr ⟨_, hbreaks, create_name_error .mrr _ rfl
        (@ofRankWeights_of_not_inUnit_left (.real weightVector) hvector _) hbreaks.isPrintable⟩

theorem create_eq_ok_iff {r : Reranker}
    : c.create = .ok r ↔ c.strategy.InRange ∧ c.WeightsAgree ∧ r = c.strategy := by
  obtain ⟨hrange, hagree, hcreate⟩ | ⟨fault, hbreaks, hcreate⟩ := create_cases c
  . rw [hcreate, Except.ok.injEq]
    exact ⟨fun h => ⟨hrange, hagree, h.symm⟩, fun h => h.2.2.symm⟩
  . rw [hcreate]
    constructor
    . intro h
      cases h
    . rintro ⟨hrange, hagree, _⟩
      exact absurd hbreaks (not_breaks hrange hagree fault)

end Candidate

end RankFusion.Reranker
