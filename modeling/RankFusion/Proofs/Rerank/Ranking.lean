import RankFusion.Proofs.Batch.Merge
import RankFusion.Rerank.Fuse

/-!
This module contains the identifiers of a merge as a function of those of the two sides. All that a
merge says of its rows, but for their cells, is in the two rankings.
-/

namespace RankFusion

namespace Ranking

variable {vector fts : Ranking} {x : Int}

/--
The identifiers of a merge. If one side is without rows, they are those of the other one.
-/
def mergedIds (vector fts : Ranking) : Ranking :=
  if vector = [] then fts
  else vector ++ (unseenPositions (vector.filterMap id) fts).map fun j => fts.getD j none

theorem mem_mergedIds : some x ∈ mergedIds vector fts ↔ some x ∈ vector ∨ some x ∈ fts := by
  unfold mergedIds
  split
  . next hvector => simp [hvector]
  . exact Batch.MergeOf.mem_append_kept_iff

end Ranking

namespace Batch

variable {b vector fts merged : Batch} {ids vectorIds ftsIds : Ranking}

theorem ranking_eq_ok (h : b.rowIds = .ok ids) : b.ranking = .ok ids := by
  unfold ranking
  split
  . next hrows =>
    rw [← length_of_rowIds h, List.length_eq_zero_iff] at hrows
    rw [hrows]
  . exact h

theorem ranking_of_rows_eq_zero (h : b.rows = 0) : b.ranking = .ok [] := if_pos h

theorem ids_of_merge (hmerged : vector.merge fts = .ok merged) (hids : merged.rowIds = .ok ids)
    : ∃ vectorIds ftsIds,
        vector.ranking = .ok vectorIds
          ∧ fts.ranking = .ok ftsIds
          ∧ ids = Ranking.mergedIds vectorIds ftsIds := by
  unfold Ranking.mergedIds
  by_cases hvector : vector.rows = 0
  . rw [merge_of_rows_eq_zero hvector] at hmerged
    cases hmerged
    exact ⟨[], ids, ranking_of_rows_eq_zero hvector, ranking_eq_ok hids, rfl⟩
  . by_cases hfts : fts.rows = 0
    . rw [merge_of_fts_rows_eq_zero hvector hfts] at hmerged
      cases hmerged
      refine ⟨ids, [], ranking_eq_ok hids, ranking_of_rows_eq_zero hfts, ?_⟩
      split
      . next hnil => exact hnil
      . exact (List.append_nil ids).symm
    . rw [merge_of_rows_ne_zero hvector hfts] at hmerged
      obtain ⟨vectorIds, ftsIds, hvectorIds, hftsIds, hmerge⟩ := mergeOf_of_mergeRows hmerged
      refine ⟨vectorIds, ftsIds, ranking_eq_ok hvectorIds, ranking_eq_ok hftsIds, ?_⟩
      rw [if_neg]
      . exact Except.ok.inj (hids.symm.trans (hmerge.rowIds_eq hvectorIds hftsIds))
      . rintro rfl
        exact hvector (length_of_rowIds hvectorIds).symm

theorem ids_eq_mergedIds (hvector : vector.ranking = .ok vectorIds)
    (hfts : fts.ranking = .ok ftsIds) (hmerged : vector.merge fts = .ok merged)
    (hids : merged.rowIds = .ok ids)
    : ids = Ranking.mergedIds vectorIds ftsIds := by
  obtain ⟨_, _, hvector', hfts', heq⟩ := ids_of_merge hmerged hids
  cases hvector.symm.trans hvector'
  cases hfts.symm.trans hfts'
  exact heq

end Batch

end RankFusion
