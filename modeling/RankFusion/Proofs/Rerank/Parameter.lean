import RankFusion.Proofs.Except
import RankFusion.Proofs.Number.Arithmetic
import RankFusion.Proofs.Number.Scalar
import RankFusion.Proofs.Value.Printable
import RankFusion.Rerank.Reranker

/-!
This module contains what the rules for parameters give: a fusion constant is positive, and a rank
weight lies between zero and one, also once they are rounded to single precision. Numbers that obey
the rules make a strategy.
-/

namespace RankFusion

namespace Scalar

variable {s : Scalar} {x : Binary}

theorem eq_toValue_of_requireScalar {v : Value} (h : Reranker.requireScalar v = .ok s)
    : v = s.toValue := by
  unfold Reranker.requireScalar at h
  split at h
  . next hs =>
    cases h
    cases v with
    | bool b =>
      cases hs
      rfl
    | int n =>
      cases hs
      rfl
    | real x =>
      cases hs
      rfl
    | _ => cases hs
  . cases h

theorem onReal_of_requireOrder {c : Comparison} {t : Scalar} {fault : ParameterFault}
    (h : Reranker.requireOrder c s.toValue t.toValue fault = .ok ())
    : c.onReal s.exact t.exact = true := by
  unfold Reranker.requireOrder at h
  rw [compare_toValue] at h
  cases hc : c.onReal s.exact t.exact with
  | true => rfl
  | false =>
    rw [hc] at h
    exact absurd h Except.throw_ne_ok

theorem toReal_eq_ok (h : s.toReal = .ok x)
    : x = s.exact ∨ x = Format.double.convert s.exact := by
  cases s with
  | bool b =>
    cases h
    exact .inl rfl
  | real y =>
    cases h
    exact .inl rfl
  | int n =>
    right
    have hround : Format.double.ofInt n = Format.double.convert (int n).exact := by
      unfold Format.ofInt exact
      dsimp only
      split
      . next hzero =>
        rw [hzero]
        rfl
      . rw [Format.convert, ← Dyadic.toRat_intCast]
        rfl
    unfold toReal Value.realOfInt at h
    dsimp only at h
    split at h
    . cases h
    . cases h
      exact hround

theorem toSingle_eq_ok (h : s.toSingle = .ok x) : ∃ y, s.toReal = .ok y
    ∧ x = Format.single.convert y := by
  unfold toSingle at h
  cases hy : s.toReal with
  | error e =>
    rw [hy] at h
    cases h
  | ok y =>
    rw [hy] at h
    cases h
    exact ⟨y, rfl, rfl⟩

theorem unsigned_of_toSingle (hpos : Binary.zero.lt s.exact = true) (h : s.toSingle = .ok x)
    : x.Unsigned := by
  obtain ⟨y, hy, rfl⟩ := toSingle_eq_ok h
  apply Format.unsigned_convert
  have hexact := Binary.unsigned_of_zero_lt hpos
  obtain rfl | rfl := toReal_eq_ok hy
  . exact hexact
  . exact Format.unsigned_convert hexact

theorem inUnit_of_toSingle (hunit : s.exact.InUnit) (h : s.toSingle = .ok x) : x.InUnit := by
  obtain ⟨y, hy, rfl⟩ := toSingle_eq_ok h
  apply Format.inUnit_convert rfl
  obtain rfl | rfl := toReal_eq_ok hy
  . exact hunit
  . exact Format.inUnit_convert rfl hunit

end Scalar

theorem RerankMethod.ofName?_name (m : RerankMethod) : ofName? m.name = some m := by
  cases m <;> rfl

namespace Reranker

variable {r : Reranker}

theorem ofConstant_eq_ok {v : Value} (h : ofConstant v = .ok r)
    : ∃ k : Scalar, r = rrf k ∧ Binary.zero.lt k.exact = true := by
  unfold ofConstant at h
  obtain ⟨hpos, h⟩ := Except.bind_unit_eq_ok_iff.1 h
  obtain ⟨k, hk, h⟩ := Except.bind_eq_ok_iff.1 h
  rw [Except.pure_eq_ok_iff] at h
  rw [Scalar.eq_toValue_of_requireScalar hk] at hpos
  refine ⟨k, h.symm, ?_⟩
  exact Scalar.onReal_of_requireOrder (t := .int 0) hpos

theorem inUnit_of_requireUnit {s : Scalar} {fault : ParameterFault}
    (h : requireUnit s.toValue fault = .ok ())
    : s.exact.InUnit := by
  unfold requireUnit at h
  obtain ⟨hzero, hone⟩ := Except.bind_unit_eq_ok_iff.1 h
  exact ⟨Scalar.onReal_of_requireOrder (s := .int 0) hzero,
    Scalar.onReal_of_requireOrder (t := .int 1) hone⟩

theorem ofRankWeights_eq_ok {v w : Value} (h : ofRankWeights v w = .ok r)
    : ∃ weightVector weightFts : Scalar, r = mrr weightVector weightFts
        ∧ weightVector.exact.InUnit
        ∧ weightFts.exact.InUnit := by
  unfold ofRankWeights at h
  obtain ⟨hvector, h⟩ := Except.bind_unit_eq_ok_iff.1 h
  obtain ⟨hfts, h⟩ := Except.bind_unit_eq_ok_iff.1 h
  obtain ⟨weightVector, hv, h⟩ := Except.bind_eq_ok_iff.1 h
  obtain ⟨weightFts, hw, h⟩ := Except.bind_eq_ok_iff.1 h
  obtain ⟨total, _, h⟩ := Except.bind_eq_ok_iff.1 h
  obtain ⟨x, _, h⟩ := Except.bind_eq_ok_iff.1 h
  rw [Scalar.eq_toValue_of_requireScalar hv] at hvector
  rw [Scalar.eq_toValue_of_requireScalar hw] at hfts
  refine ⟨weightVector, weightFts, ?_, inUnit_of_requireUnit hvector, inUnit_of_requireUnit hfts⟩
  split at h
  . exact absurd h Except.throw_ne_ok
  . exact (Except.pure_eq_ok_iff.1 h).symm

theorem ofWeights_eq_ok {v w : Value} (h : ofWeights v w = .ok r)
    : ∃ weight fill : Scalar, r = linear weight fill
        ∧ weight.exact.InUnit
        ∧ Binary.zero.le fill.exact = true := by
  unfold ofWeights at h
  obtain ⟨hweight, h⟩ := Except.bind_unit_eq_ok_iff.1 h
  obtain ⟨hfill, h⟩ := Except.bind_unit_eq_ok_iff.1 h
  obtain ⟨weight, hv, h⟩ := Except.bind_eq_ok_iff.1 h
  obtain ⟨fill, hw, h⟩ := Except.bind_eq_ok_iff.1 h
  rw [Scalar.eq_toValue_of_requireScalar hv] at hweight
  rw [Scalar.eq_toValue_of_requireScalar hw] at hfill
  exact ⟨weight, fill, (Except.pure_eq_ok_iff.1 h).symm, inUnit_of_requireUnit hweight,
    Scalar.onReal_of_requireOrder (t := .int 0) hfill⟩

def InRange : Reranker → Prop
  | rrf k => Binary.zero.lt k.exact = true
  | linear weight fill => weight.exact.InUnit ∧ Binary.zero.le fill.exact = true
  | mrr weightVector weightFts => weightVector.exact.InUnit ∧ weightFts.exact.InUnit

theorem inRange_of_ofMethod {m : RerankMethod} {params : List (String × Value)}
    (h : ofMethod m params = .ok r)
    : r.method = m ∧ r.InRange := by
  cases m with
  | rrf =>
    obtain ⟨k, rfl, hpos⟩ := ofConstant_eq_ok h
    exact ⟨rfl, hpos⟩
  | linear =>
    obtain ⟨weight, fill, rfl, hunit, hnonneg⟩ := ofWeights_eq_ok h
    exact ⟨rfl, hunit, hnonneg⟩
  | mrr =>
    obtain ⟨weightVector, weightFts, rfl, hvector, hfts⟩ := ofRankWeights_eq_ok h
    exact ⟨rfl, hvector, hfts⟩

theorem inRange_of_create {method : Value} {params : List (String × Value)}
    (h : create method params = .ok r)
    : method? method = some r.method ∧ r.InRange := by
  unfold create at h
  split at h
  . cases h
  . split at h
    . cases h
    . next m hm =>
      obtain ⟨made, hmade, h⟩ := Except.bind_eq_ok_iff.1 h
      obtain ⟨_, h⟩ := Except.bind_unit_eq_ok_iff.1 h
      rw [Except.pure_eq_ok_iff] at h
      rw [h, Except.mapError_eq_ok_iff] at hmade
      unfold ofNamed at hmade
      obtain ⟨_, hmade⟩ := Except.bind_unit_eq_ok_iff.1 hmade
      obtain ⟨rfl, hrange⟩ := inRange_of_ofMethod hmade
      exact ⟨hm, hrange⟩

theorem requireScalar_toValue (s : Scalar) : requireScalar s.toValue = .ok s := by
  cases s <;> rfl

theorem requireOrder_toValue {s t : Scalar} {c : Comparison}
    (h : c.onReal s.exact t.exact = true) (fault : ParameterFault)
    : requireOrder c s.toValue t.toValue fault = .ok () := by
  unfold requireOrder
  rw [Scalar.compare_toValue, h]
  rfl

theorem requireUnit_toValue {s : Scalar} (h : s.exact.InUnit) (fault : ParameterFault)
    : requireUnit s.toValue fault = .ok () := by
  have hzero := @requireOrder_toValue (.int 0) s .le h.1 fault
  have hone := @requireOrder_toValue s (.int 1) .le h.2 fault
  unfold requireUnit
  exact Except.bind_unit_eq_ok_iff.2 ⟨hzero, hone⟩

theorem ofConstant_toValue {k : Scalar} (h : Binary.zero.lt k.exact = true)
    : ofConstant k.toValue = .ok (rrf k) := by
  have hpos := @requireOrder_toValue k (.int 0) .gt h (.fusionConstant k.toValue)
  unfold ofConstant
  rw [Except.bind_unit_eq_ok_iff]
  refine ⟨hpos, ?_⟩
  rw [requireScalar_toValue]
  rfl

theorem ofWeights_toValue {weight fill : Scalar} (hweight : weight.exact.InUnit)
    (hfill : Binary.zero.le fill.exact = true)
    : ofWeights weight.toValue fill.toValue = .ok (linear weight fill) := by
  have hnonneg := @requireOrder_toValue fill (.int 0) .ge hfill (.negative "fill" fill.toValue)
  unfold ofWeights
  rw [requireUnit_toValue hweight, requireScalar_toValue, requireScalar_toValue]
  refine Except.bind_unit_eq_ok_iff.2 ⟨rfl, ?_⟩
  exact Except.bind_unit_eq_ok_iff.2 ⟨hnonneg, rfl⟩

theorem ofRankWeights_toValue {weightVector weightFts total : Scalar} {x : Binary}
    (hvector : weightVector.exact.InUnit) (hfts : weightFts.exact.InUnit)
    (htotal : weightVector.add weightFts = .ok total) (hx : total.toReal = .ok x)
    (hsum : sumsToOne x = true)
    : ofRankWeights weightVector.toValue weightFts.toValue = .ok (mrr weightVector weightFts) := by
  unfold ofRankWeights
  rw [requireUnit_toValue hvector, requireUnit_toValue hfts, requireScalar_toValue,
    requireScalar_toValue]
  refine Except.bind_unit_eq_ok_iff.2 ⟨rfl, ?_⟩
  refine Except.bind_unit_eq_ok_iff.2 ⟨rfl, ?_⟩
  refine Except.bind_eq_ok_iff.2 ⟨weightVector, rfl, ?_⟩
  refine Except.bind_eq_ok_iff.2 ⟨weightFts, rfl, ?_⟩
  refine Except.bind_eq_ok_iff.2 ⟨total, htotal, ?_⟩
  refine Except.bind_eq_ok_iff.2 ⟨x, hx, ?_⟩
  rw [hsum]
  rfl

theorem create_name (m : RerankMethod) (params : List (String × Value))
    (hmethod : Value.lookup? methodParameter params = none) (h : ofNamed m params = .ok r)
    (hprintable : ∀ p ∈ r.parameters, p.2.toValue.isPrintable = true)
    : create (.text m.name) params = .ok r := by
  have hnamed : method? (.text m.name) = some m := RerankMethod.ofName?_name m
  have hlog : Value.requirePrintable (r.config.map (·.2)) = .ok () := by
    rw [Value.requirePrintable_eq_ok_iff]
    unfold config
    rw [List.map_cons, List.map_map, List.forall_mem_cons, List.forall_mem_map]
    exact ⟨rfl, hprintable⟩
  unfold create
  rw [hmethod, hnamed]
  dsimp only
  rw [h]
  exact Except.bind_eq_ok_iff.2 ⟨r, rfl, Except.bind_unit_eq_ok_iff.2 ⟨hlog, rfl⟩⟩

theorem create_rrf {k : Scalar} (h : Binary.zero.lt k.exact = true)
    (hprintable : k.toValue.isPrintable = true)
    : create (.text "rrf") [("k", k.toValue)] = .ok (rrf k) := by
  apply create_name .rrf _ rfl
  . exact ofConstant_toValue h
  . exact List.forall_mem_singleton.2 hprintable

def usual : RerankMethod → Reranker
  | .rrf => rrf (.real defaultConstant)
  | .linear => linear (.real defaultWeight) (.real .one)
  | .mrr => mrr (.real defaultRankWeight) (.real defaultRankWeight)

theorem create_usual {method : Value} {m : RerankMethod} (h : method? method = some m)
    : create method [] = .ok (usual m) := by
  unfold create
  rw [h]
  cases m <;> rfl

end Reranker

end RankFusion
