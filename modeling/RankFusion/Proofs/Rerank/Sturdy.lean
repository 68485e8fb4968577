import RankFusion.Proofs.Rerank.Acceptance
import RankFusion.Proofs.Rerank.Finite

/-!
This module contains the parameters that single precision bears: with them, and with no others,
every fusion that the usual parameters allow returns, and every relevance is a number. Two rows, one
of them found by both searches, tell these parameters from the others.
-/

namespace RankFusion

namespace Batch

def Moderate (b : Batch) (name : String) : Prop :=
  ∀ c ∈ b.columns, c.field.name = name → ∀ v ∈ c.values, v.Moderate

theorem moderate_of_scored {b : Batch} {name : String} {ids : Ranking} {values : List Value}
    (hb : b.Moderate name) (h : b.scored name = .ok (ids, values))
    : ∀ v ∈ values, v.Moderate := by
  unfold scored at h
  split at h
  . cases h
    exact nofun
  . obtain ⟨_, _, h⟩ := Except.bind_eq_ok_iff.1 h
    obtain ⟨values', hvalues, h⟩ := Except.bind_eq_ok_iff.1 h
    cases h
    unfold numbers at hvalues
    obtain ⟨c, hc, hvalues⟩ := Except.bind_eq_ok_iff.1 hvalues
    obtain ⟨_, column, hmem, hname, rfl⟩ := cells_eq_ok_iff.1 hc
    split at hvalues
    . cases hvalues
      exact hb column hmem hname
    . cases hvalues

end Batch

namespace Reranker

variable {r : Reranker} {vector fts result : Batch}

def Sturdy : Reranker → Prop
  | rrf k => ∃ x, k.toSingle = .ok x ∧ Relevance.leastConstant.lt x = true
  | linear _ fill => ∃ x, fill.toSingle = .ok x ∧ x.isFinite = true
  | mrr _ _ => True

theorem Sturdy.convertible (hrange : r.InRange) (h : r.Sturdy) : r.Convertible := by
  cases r with
  | rrf k =>
    obtain ⟨x, hx, _⟩ := h
    simp only [Convertible, parameters, List.forall_mem_singleton]
    exact ⟨x, hx⟩
  | linear weight fill =>
    obtain ⟨x, hx, _⟩ := h
    simp only [Convertible, parameters, List.forall_mem_cons]
    exact ⟨Scalar.exists_toSingle_of_inUnit hrange.1, ⟨x, hx⟩, List.forall_mem_nil _⟩
  | mrr weightVector weightFts =>
    simp only [Convertible, parameters, List.forall_mem_cons]
    exact ⟨Scalar.exists_toSingle_of_inUnit hrange.1, Scalar.exists_toSingle_of_inUnit hrange.2,
      List.forall_mem_nil _⟩

theorem isFinite_relevance {relevance : Int → Except Failure Binary} {id : Int} {score : Binary}
    (hrange : r.InRange) (h : r.Sturdy) (hvector : vector.Moderate distanceColumn)
    (hfts : fts.Moderate scoreColumn) (hrelevance : r.relevance vector fts = .ok relevance)
    (hscore : relevance id = .ok score)
    : score.isFinite = true := by
  unfold Reranker.relevance at hrelevance
  cases r with
  | rrf k =>
    obtain ⟨x, hx, hlt⟩ := h
    simp only [Except.bind_eq_ok_iff, Except.pure_eq_ok_iff] at hrelevance
    obtain ⟨y, hy, _, _, _, _, rfl⟩ := hrelevance
    cases hx.symm.trans hy
    cases hscore
    have hunsigned := Scalar.unsigned_of_toSingle hrange hx
    obtain ⟨z, _, rfl⟩ := Scalar.toSingle_eq_ok hx
    exact Relevance.isFinite_reciprocalRankFusion hunsigned Format.convert_convert hlt
  | linear weight fill =>
    obtain ⟨x, hx, hfinite⟩ := h
    simp only [Except.bind_eq_ok_iff, Except.pure_eq_ok_iff] at hrelevance
    obtain ⟨⟨vectorIds, distances⟩, hdistances, ⟨ftsIds, scores⟩, hscores, rfl⟩ := hrelevance
    simp only [Except.bind_eq_ok_iff, Except.pure_eq_ok_iff] at hscore
    obtain ⟨w, hw, y, hy, rfl⟩ := hscore
    cases hx.symm.trans hy
    have hfill : x.Within (-measureBound) greatest :=
      (Scalar.within_of_toSingle hrange.2 hx hfinite).mono (by decide) le_rfl
    have hmeasured : ∀ {ids : Ranking} {cells : List Value}, (∀ v ∈ cells, v.Moderate) →
        ((Relevance.lastValue? ids cells id).getD x).Within (-measureBound) greatest := by
      intro ids cells hcells
      cases hlast : Relevance.lastValue? ids cells id with
      | none => exact hfill
      | some y => exact (Relevance.within_of_lastValue? hcells hlast).mono le_rfl (by decide)
    exact Relevance.isFinite_combine (Scalar.inUnit_of_toSingle hrange.1 hw)
      (hmeasured (Batch.moderate_of_scored hvector hdistances))
      (hmeasured (Batch.moderate_of_scored hfts hscores))
  | mrr weightVector weightFts =>
    simp only [Except.bind_eq_ok_iff, Except.pure_eq_ok_iff] at hrelevance
    obtain ⟨_, _, _, _, v, hv, w, hw, rfl⟩ := hrelevance
    cases hscore
    exact Relevance.isFinite_meanReciprocalRank (Scalar.inUnit_of_toSingle hrange.1 hv)
      (Scalar.inUnit_of_toSingle hrange.2 hw)

def Fuses (r : Reranker) (vector fts : Batch) : Prop :=
  ∃ (result : Batch) (scores : List Binary),
    r.rerank vector fts = .ok result
      ∧ result.cells relevanceColumn = .ok ⟨.float32, scores.map .real⟩
      ∧ ∀ score ∈ scores, score.isFinite = true

theorem method_usual (m : RerankMethod) : (usual m).method = m := by
  cases m <;> rfl

theorem convertible_usual (m : RerankMethod) : (usual m).Convertible := by
  cases m with
  | rrf =>
    simp only [Convertible, usual, parameters, List.forall_mem_cons]
    exact ⟨⟨_, rfl⟩, List.forall_mem_nil _⟩
  | _ =>
    simp only [Convertible, usual, parameters, List.forall_mem_cons]
    exact ⟨⟨_, rfl⟩, ⟨_, rfl⟩, List.forall_mem_nil _⟩

theorem fuses_of_sturdy (hrange : r.InRange) (h : r.Sturdy)
    (hvector : vector.Moderate distanceColumn) (hfts : fts.Moderate scoreColumn)
    (husual : (usual r.method).rerank vector fts = .ok result)
    : r.Fuses vector fts := by
  have hfusible := (exists_rerank_iff (convertible_usual r.method)).1 ⟨result, husual⟩
  rw [method_usual] at hfusible
  obtain ⟨result', hresult⟩ := (exists_rerank_iff (h.convertible hrange)).2 hfusible
  obtain ⟨relevance, _, ids, sorted, hrelevance, _, _, hscores, _, _, hperm, hcells⟩ :=
    rows_of_rerank hresult
  refine ⟨result', _, hresult, hcells, ?_⟩
  rw [List.forall_mem_map]
  intro id hid
  cases id with
  | none => rfl
  | some x =>
    exact isFinite_relevance hrange h hvector hfts hrelevance (hscores x (hperm.mem_iff.1 hid))

theorem relevance_of_fuses (h : r.Fuses vector fts)
    : ∃ relevance merged ids,
        r.relevance vector fts = .ok relevance
          ∧ vector.merge fts = .ok merged
          ∧ merged.rowIds = .ok ids
          ∧ ∀ id, some id ∈ ids → ∃ score, relevance id = .ok score ∧ score.isFinite = true := by
  obtain ⟨result, scores, hresult, hscored, hfinite⟩ := h
  obtain ⟨relevance, merged, ids, sorted, hrelevance, hmerged, hids, hscores, _, _, hperm,
    hcells⟩ := rows_of_rerank hresult
  refine ⟨relevance, merged, ids, hrelevance, hmerged, hids, ?_⟩
  intro id hid
  have hvalues : scores.map Value.real = (sorted.map (Batch.scoreOf relevance)).map .real :=
    (Cells.mk.inj (Except.ok.inj (hscored.symm.trans hcells))).2
  have hsorted : scores = sorted.map (Batch.scoreOf relevance) :=
    List.map_injective_iff.2 (fun _ _ => Value.real.inj) hvalues
  refine ⟨_, hscores id hid, hfinite _ ?_⟩
  rw [hsorted]
  exact List.mem_map_of_mem (hperm.mem_iff.2 hid)

end Reranker

namespace Batch

def vectorProbe : Batch where
  columns := [⟨⟨rowIdColumn, .uint64, true⟩, [.int 0, .int 1]⟩,
    ⟨⟨distanceColumn, .float32, true⟩, [.real .zero, .real .zero]⟩]
  metadata := none
  aligned := rowCount_eq_of_forall (n := 2) (by simp)

def ftsProbe : Batch where
  columns := [⟨⟨rowIdColumn, .uint64, true⟩, [.int 0]⟩,
    ⟨⟨scoreColumn, .float32, true⟩, [.real .zero]⟩]
  metadata := none
  aligned := rowCount_eq_of_forall (n := 1) (by simp)

theorem moderate_probes
    : vectorProbe.Moderate distanceColumn ∧ ftsProbe.Moderate scoreColumn := by
  have hzero : (Value.real .zero).Moderate := ⟨0, rfl, by decide⟩
  constructor
  . simp only [Moderate, vectorProbe, List.forall_mem_cons]
    exact ⟨fun h => absurd h (by decide), fun _ => ⟨hzero, hzero, List.forall_mem_nil _⟩,
      List.forall_mem_nil _⟩
  . simp only [Moderate, ftsProbe, List.forall_mem_cons]
    exact ⟨fun h => absurd h (by decide), fun _ => ⟨hzero, List.forall_mem_nil _⟩,
      List.forall_mem_nil _⟩

end Batch

namespace Reranker

variable {r : Reranker}

theorem sturdy_of_fuses_probe (hrange : r.InRange)
    (h : r.Fuses Batch.vectorProbe Batch.ftsProbe)
    : r.Sturdy := by
  obtain ⟨relevance, merged, ids, hrelevance, hmerged, hids, hscores⟩ := relevance_of_fuses h
  cases hmerged
  cases hids
  unfold Reranker.relevance at hrelevance
  cases r with
  | rrf k =>
    simp only [Except.bind_eq_ok_iff, Except.pure_eq_ok_iff] at hrelevance
    obtain ⟨x, hx, vectorIds, hvector, ftsIds, hfts, rfl⟩ := hrelevance
    cases hvector
    cases hfts
    obtain ⟨_, ⟨⟩, hfinite⟩ := hscores 0 List.mem_cons_self
    exact ⟨x, hx, Relevance.lt_of_isFinite_twice (Scalar.unsigned_of_toSingle hrange hx) hfinite⟩
  | linear weight fill =>
    simp only [Except.bind_eq_ok_iff, Except.pure_eq_ok_iff] at hrelevance
    obtain ⟨⟨vectorIds, distances⟩, hvector, ⟨ftsIds, scores⟩, hfts, rfl⟩ := hrelevance
    cases hvector
    cases hfts
    obtain ⟨_, hscore, hfinite⟩ := hscores 1 (List.mem_cons_of_mem _ List.mem_cons_self)
    simp only [Except.bind_eq_ok_iff, Except.pure_eq_ok_iff] at hscore
    obtain ⟨w, _, y, hy, rfl⟩ := hscore
    refine ⟨y, hy, ?_⟩
    -- The second row has no text score.
    have hblend := (Format.isFinite_of_sub hfinite).2
    exact Format.isFinite_of_mul (Format.isFinite_of_add hblend).2
  | mrr weightVector weightFts => trivial

theorem exists_rerank_usual_probe (m : RerankMethod)
    : ∃ result, (usual m).rerank Batch.vectorProbe Batch.ftsProbe = .ok result := by
  cases m with
  | _ => exact exists_rerank rfl rfl rfl (fun _ _ => ⟨_, rfl⟩) (by decide) (by decide)

/--
The parameters that are accepted are borne by single precision exactly if they fuse what the usual
ones fuse, and give every row a number.
-/
theorem sturdy_iff_fuses {method : Value} {params : List (String × Value)}
    (h : create method params = .ok r)
    : create method [] = .ok (usual r.method)
        ∧ (r.Sturdy
            ↔
          ∀ vector fts,
            vector.Moderate distanceColumn →
            fts.Moderate scoreColumn →
            (∃ result, (usual r.method).rerank vector fts = .ok result) →
            r.Fuses vector fts) := by
  obtain ⟨hmethod, hrange⟩ := inRange_of_create h
  refine ⟨create_usual hmethod, ?_⟩
  constructor
  . rintro hsturdy vector fts hvector hfts ⟨result, hresult⟩
    exact fuses_of_sturdy hrange hsturdy hvector hfts hresult
  . intro hfuses
    obtain ⟨hvector, hfts⟩ := Batch.moderate_probes
    apply sturdy_of_fuses_probe hrange
    exact hfuses _ _ hvector hfts (exists_rerank_usual_probe r.method)

theorem sturdy_iff_fuses_sample
    : create (.text "rrf") [("k", .int 1)] = .ok (rrf (.int 1))
        ∧ (rrf (.int 1)).Fuses Batch.vectorProbe Batch.ftsProbe := by
  have hcreate : create (.text "rrf") [("k", .int 1)] = .ok (rrf (.int 1)) := rfl
  have hsturdy : (rrf (.int 1)).Sturdy := ⟨_, rfl, by decide⟩
  obtain ⟨hvector, hfts⟩ := Batch.moderate_probes
  refine ⟨hcreate, ?_⟩
  exact (sturdy_iff_fuses hcreate).2.1 hsturdy _ _ hvector hfts (exists_rerank_usual_probe .rrf)

def hugeConstant : Int := 10 ^ 200 * 10 ^ 200

def tinyConstant : Binary := .finite (.ofIntWithPrec 1 130)

/-- The first constant is refused too late, the other one gives an infinite relevance. -/
theorem not_fuses_of_create
    : create (.text "rrf") [("k", .int hugeConstant)] = .ok (rrf (.int hugeConstant))
        ∧ create (.text "rrf") [("k", .real tinyConstant)] = .ok (rrf (.real tinyConstant))
        ∧ Batch.vectorProbe.Moderate distanceColumn
        ∧ Batch.ftsProbe.Moderate scoreColumn
        ∧ (∃ result, (usual .rrf).rerank Batch.vectorProbe Batch.ftsProbe = .ok result)
        ∧ (rrf (.int hugeConstant)).rerank Batch.vectorProbe Batch.ftsProbe =
            .error (.operand .tooLargeForReal)
        ∧ ∃ result values,
            (rrf (.real tinyConstant)).rerank Batch.vectorProbe Batch.ftsProbe = .ok result
              ∧ result.cells relevanceColumn = .ok ⟨.float32, values⟩
              ∧ .real (.infinity false) ∈ values := by
  have hhuge : create (.text "rrf") [("k", .int hugeConstant)] = .ok (rrf (.int hugeConstant)) :=
    create_rrf (k := .int hugeConstant) (by decide +kernel) (by decide +kernel)
  have htiny : create (.text "rrf") [("k", .real tinyConstant)] = .ok (rrf (.real tinyConstant)) :=
    create_rrf (k := .real tinyConstant) (by decide +kernel) rfl
  have hfailed : (rrf (.int hugeConstant)).rerank Batch.vectorProbe Batch.ftsProbe =
      .error (.operand .tooLargeForReal) := by
    have hdouble : Format.double.ofInt hugeConstant = .infinity false := by decide +kernel
    unfold rerank scoring Scalar.toSingle Scalar.toReal Value.realOfInt
    dsimp only
    rw [hdouble]
    rfl
  refine ⟨hhuge, htiny, Batch.moderate_probes.1, Batch.moderate_probes.2,
    exists_rerank_usual_probe .rrf, hfailed, ?_⟩
  obtain ⟨result, hresult⟩ : ∃ result,
      (rrf (.real tinyConstant)).rerank Batch.vectorProbe Batch.ftsProbe = .ok result :=
    exists_rerank rfl rfl rfl (fun _ _ => ⟨_, rfl⟩) (by decide) (by decide)
  obtain ⟨relevance, merged, ids, sorted, hrelevance, hmerged, hids, _, _, _, hperm, hcells⟩ :=
    rows_of_rerank hresult
  cases hrelevance
  cases hmerged
  cases hids
  refine ⟨result, _, hresult, hcells, ?_⟩
  have hscore : Relevance.reciprocalRankFusion (Format.single.convert tinyConstant)
      [some 0, some 1] [some 0] 0 = .infinity false := by decide +kernel
  rw [← hscore]
  exact List.mem_map_of_mem (List.mem_map_of_mem (hperm.mem_iff.2 List.mem_cons_self))

end Reranker

end RankFusion
