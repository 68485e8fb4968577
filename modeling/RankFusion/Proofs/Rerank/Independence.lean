import RankFusion.Proofs.Batch.Distinct
import RankFusion.Proofs.Rerank.Score

/-!
This module contains what a fusion by ranks does not depend on. Of its two sides it reads the row
identifiers alone: batches that agree on them are fused to the same identifiers and scores, whatever
else is in their columns.
-/

namespace RankFusion

namespace Reranker

variable {r : Reranker} {vector vector' fts fts' result result' : Batch}

theorem relevance_congr (hmethod : r.method ≠ .linear) (hvector : vector.ranking = vector'.ranking)
    (hfts : fts.ranking = fts'.ranking)
    : r.relevance vector fts = r.relevance vector' fts' := by
  unfold relevance
  cases r with
  | rrf k => simp only [hvector, hfts]
  | linear weight fill => exact absurd rfl hmethod
  | mrr weightVector weightFts => simp only [hvector, hfts]

theorem rerank_congr (hmethod : r.method ≠ .linear) (hvector : vector.ranking = vector'.ranking)
    (hfts : fts.ranking = fts'.ranking) (h : r.rerank vector fts = .ok result)
    (h' : r.rerank vector' fts' = .ok result')
    : ∃ (ids : Ranking) (scores : List Binary),
        result.rowIds = .ok ids
          ∧ result'.rowIds = .ok ids
          ∧ result.cells relevanceColumn = .ok ⟨.float32, scores.map .real⟩
          ∧ result'.cells relevanceColumn = .ok ⟨.float32, scores.map .real⟩ := by
  obtain ⟨relevance, merged, ids, hrelevance, hmerged, hids, _, _, hsorted, hcells⟩ :=
    sortedIds_of_rerank h
  obtain ⟨relevance', merged', ids', hrelevance', hmerged', hids', _, _, hsorted', hcells'⟩ :=
    sortedIds_of_rerank h'
  have hrelevances : relevance' = relevance := by
    rw [relevance_congr hmethod hvector hfts, hrelevance'] at hrelevance
    exact Except.ok.inj hrelevance
  -- Which rows the merge keeps, and in which order, is told by the two rankings.
  have hmergedIds : ids' = ids := by
    obtain ⟨vectorIds, ftsIds, hvectorIds, hftsIds, heq⟩ := Batch.ids_of_merge hmerged hids
    rw [hvector] at hvectorIds
    rw [hfts] at hftsIds
    rw [heq]
    exact Batch.ids_eq_mergedIds hvectorIds hftsIds hmerged' hids'
  subst hrelevances hmergedIds
  exact ⟨_, _, hsorted, hsorted', hcells, hcells'⟩

/-- The columns, distances and scores of the two pairs of batches differ. -/
theorem rerank_congr_sample
    : (rrf (.int 60)).method ≠ .linear
        ∧ Batch.vectorSample.ranking = distanceSample.ranking
        ∧ (Batch.ofIds [some 2, some 7, some 2]).ranking = scoreSample.ranking
        ∧ ∃ (result result' : Batch) (ids : Ranking) (scores : List Binary),
            (rrf (.int 60)).rerank Batch.vectorSample (Batch.ofIds [some 2, some 7, some 2]) =
                .ok result
              ∧ (rrf (.int 60)).rerank distanceSample scoreSample = .ok result'
              ∧ result.rowIds = .ok ids
              ∧ result'.rowIds = .ok ids
              ∧ result.cells relevanceColumn = .ok ⟨.float32, scores.map .real⟩
              ∧ result'.cells relevanceColumn = .ok ⟨.float32, scores.map .real⟩ := by
  have hmethod : (rrf (.int 60)).method ≠ .linear := by decide
  have hvector : Batch.vectorSample.ranking = distanceSample.ranking := by rfl
  have hfts : (Batch.ofIds [some 2, some 7, some 2]).ranking = scoreSample.ranking := by rfl
  obtain ⟨result, h⟩ : ∃ result,
      (rrf (.int 60)).rerank Batch.vectorSample (Batch.ofIds [some 2, some 7, some 2]) =
        .ok result :=
    exists_rerank rfl rfl rfl (fun _ _ => ⟨_, rfl⟩) (by decide) (by decide)
  obtain ⟨result', h'⟩ : ∃ result',
      (rrf (.int 60)).rerank distanceSample scoreSample = .ok result' :=
    exists_rerank rfl rfl rfl (fun _ _ => ⟨_, rfl⟩) (by decide) (by decide)
  obtain ⟨ids, scores, hrows⟩ := rerank_congr hmethod hvector hfts h h'
  exact ⟨hmethod, hvector, hfts, result, result', ids, scores, h, h', hrows⟩

end Reranker

end RankFusion
