import RankFusion.Proofs.Rerank.Fuse
import RankFusion.Proofs.Rerank.Parameter
import RankFusion.Proofs.Rerank.Relevance

/-!
This module contains the order of two rows of which one is ranked no worse on both sides. It comes
first, whatever their scores are rounded to: equal scores leave the order of the merge, in which it
comes first as well.
-/

namespace RankFusion

namespace Ranking

variable {ids : Ranking} {x y : Int} {p q : Nat}

theorem rank_of_getElem? (hnodup : ids.Nodup) (h : ids[p]? = some (some x)) : ids.rank x = p := by
  obtain ⟨hp, hget⟩ := List.getElem?_eq_some_iff.1 h
  rw [rank_of_mem (List.mem_of_getElem? h), ← hget, hnodup.idxOf_getElem]

theorem getElem?_of_getD (h : ids.getD p none = some x) : ids[p]? = some (some x) := by
  rw [List.getD_eq_getElem?_getD] at h
  cases hget : ids[p]? with
  | none =>
    rw [hget] at h
    cases h
  | some y =>
    rw [hget, Option.getD_some] at h
    rw [h]

theorem lt_of_rank_le (hnodup : ids.Nodup) (hne : x ≠ y) (hp : ids[p]? = some (some x))
    (hq : ids[q]? = some (some y)) (h : ids.rank x ≤ ids.rank y)
    : p < q := by
  rw [rank_of_getElem? hnodup hp, rank_of_getElem? hnodup hq, Nat.cast_le] at h
  apply Nat.lt_of_le_of_ne h
  rintro rfl
  rw [hp] at hq
  cases hq
  exact hne rfl

theorem mem_of_rank_le (h : ids.rank x ≤ ids.rank y) (hy : some y ∈ ids) : some x ∈ ids := by
  by_contra hx
  rw [rank_of_not_mem hx, rank_of_mem hy, top_le_iff] at h
  exact ENat.natCast_ne_top _ h

end Ranking

namespace Batch

variable {vector fts merged : Batch} {vectorIds ftsIds ids : Ranking} {x y : Int} {p q : Nat}

theorem exists_kept_of_getElem? {m : Nat}
    (h : ((unseenPositions (vectorIds.filterMap id) ftsIds).map fun j => ftsIds.getD j none)[m]? =
      some (some x))
    : ∃ j, (unseenPositions (vectorIds.filterMap id) ftsIds)[m]? = some j
        ∧ ftsIds[j]? = some (some x)
        ∧ some x ∉ vectorIds := by
  rw [List.getElem?_map, Option.map_eq_some_iff] at h
  obtain ⟨j, hj, hx⟩ := h
  obtain ⟨z, hz, hnew, _⟩ := MergeOf.mem_kept_iff.1 (List.mem_of_getElem? hj)
  rw [List.getD_eq_getElem?_getD, hz, Option.getD_some] at hx
  cases hx
  exact ⟨j, hj, hz, hnew⟩

theorem lt_of_rank_le_kept (hvectorNodup : vectorIds.Nodup) (hftsNodup : ftsIds.Nodup)
    (hids : ids = vectorIds ++
      (unseenPositions (vectorIds.filterMap id) ftsIds).map fun j => ftsIds.getD j none)
    (hne : x ≠ y) (hp : ids[p]? = some (some x)) (hq : ids[q]? = some (some y))
    (hvectorRank : vectorIds.rank x ≤ vectorIds.rank y)
    (hftsRank : ftsIds.rank x ≤ ftsIds.rank y)
    : p < q := by
  subst hids
  by_cases hpv : p < vectorIds.length
  . by_cases hqv : q < vectorIds.length
    . rw [List.getElem?_append_left hpv] at hp
      rw [List.getElem?_append_left hqv] at hq
      exact Ranking.lt_of_rank_le hvectorNodup hne hp hq hvectorRank
    . omega
  . rw [List.getElem?_append_right (by omega)] at hp
    obtain ⟨i, hi, hx, hnew⟩ := exists_kept_of_getElem? hp
    by_cases hqv : q < vectorIds.length
    . rw [List.getElem?_append_left hqv] at hq
      exact absurd (Ranking.mem_of_rank_le hvectorRank (List.mem_of_getElem? hq)) hnew
    . rw [List.getElem?_append_right (by omega)] at hq
      obtain ⟨j, hj, hy, _⟩ := exists_kept_of_getElem? hq
      have hij : i < j := Ranking.lt_of_rank_le hftsNodup hne hx hy hftsRank
      -- The kept positions ascend, so the smaller one stands further in front.
      obtain ⟨hpk, rfl⟩ := List.getElem?_eq_some_iff.1 hi
      obtain ⟨hqk, rfl⟩ := List.getElem?_eq_some_iff.1 hj
      by_contra hle
      have hsorted := List.pairwise_iff_getElem.1
        (pairwise_unseenPositions (vectorIds.filterMap id) ftsIds)
      cases Nat.lt_or_ge (q - vectorIds.length) (p - vectorIds.length) with
      | inl hlt =>
        have := hsorted _ _ hqk hpk hlt
        omega
      | inr hge =>
        have heq : p - vectorIds.length = q - vectorIds.length := by omega
        simp only [heq] at hij
        omega

theorem lt_of_rank_le (hvector : vector.ranking = .ok vectorIds)
    (hfts : fts.ranking = .ok ftsIds) (hvectorNodup : vectorIds.Nodup)
    (hftsNodup : ftsIds.Nodup) (hmerged : vector.merge fts = .ok merged)
    (hids : merged.rowIds = .ok ids) (hne : x ≠ y) (hp : ids[p]? = some (some x))
    (hq : ids[q]? = some (some y)) (hvectorRank : vectorIds.rank x ≤ vectorIds.rank y)
    (hftsRank : ftsIds.rank x ≤ ftsIds.rank y)
    : p < q := by
  have heq := ids_eq_mergedIds hvector hfts hmerged hids
  unfold Ranking.mergedIds at heq
  split at heq
  . -- The merge is the text side.
    subst heq
    exact Ranking.lt_of_rank_le hftsNodup hne hp hq hftsRank
  . exact lt_of_rank_le_kept hvectorNodup hftsNodup heq hne hp hq hvectorRank hftsRank

end Batch

namespace Binary

theorem not_outranks_of_le {s t : Binary} (h : s.le t = true) : ¬ s.Outranks t := by
  rintro (hlt | ⟨_, hnan⟩)
  . unfold lt at hlt
    rw [h, Bool.not_true, Bool.and_false] at hlt
    cases hlt
  . rw [(le_iff.1 h).2.1] at hnan
    cases hnan

theorem lt_of_pairwise {positions : List Nat} {score : Nat → Binary} {i j p q : Nat}
    (horder : positions.Pairwise fun p q =>
      (score p).Outranks (score q) ∨ ((score p).Ties (score q) ∧ p < q))
    (hp : positions[i]? = some p) (hq : positions[j]? = some q) (hpq : p < q)
    (hle : (score q).le (score p) = true)
    : i < j := by
  obtain ⟨hi, rfl⟩ := List.getElem?_eq_some_iff.1 hp
  obtain ⟨hj, rfl⟩ := List.getElem?_eq_some_iff.1 hq
  by_contra hge
  cases Nat.lt_or_ge j i with
  | inl hlt =>
    obtain hbetter | ⟨_, hbefore⟩ := List.pairwise_iff_getElem.1 horder j i hj hi hlt
    . exact not_outranks_of_le hle hbetter
    . omega
  | inr hle =>
    have heq : i = j := by omega
    simp only [heq] at hpq
    omega

end Binary

namespace Reranker

variable {r : Reranker} {vector fts result : Batch} {vectorIds ftsIds : Ranking}

theorem le_of_rank_le {relevance : Int → Except Failure Binary} {x y : Int}
    (hmade : (∃ k, ofConstant k = .ok r) ∨ ∃ v w, ofRankWeights v w = .ok r)
    (hvector : vector.ranking = .ok vectorIds) (hfts : fts.ranking = .ok ftsIds)
    (hvectorNodup : vectorIds.Nodup) (hftsNodup : ftsIds.Nodup)
    (hrelevance : r.relevance vector fts = .ok relevance)
    (hvectorRank : vectorIds.rank x ≤ vectorIds.rank y)
    (hftsRank : ftsIds.rank x ≤ ftsIds.rank y)
    : (Batch.scoreOf relevance (some y)).le (Batch.scoreOf relevance (some x)) = true := by
  obtain ⟨v, hv⟩ | ⟨v, w, hvw⟩ := hmade
  . obtain ⟨k, rfl, hpos⟩ := ofConstant_eq_ok hv
    unfold Reranker.relevance at hrelevance
    dsimp only at hrelevance
    rw [hvector, hfts] at hrelevance
    obtain ⟨k', hk, hrelevance⟩ := Except.bind_eq_ok_iff.1 hrelevance
    cases hrelevance
    exact Relevance.reciprocalRankFusion_le (Scalar.unsigned_of_toSingle hpos hk) hvectorNodup
      hftsNodup hvectorRank hftsRank
  . obtain ⟨weightVector, weightFts, rfl, hvectorUnit, hftsUnit⟩ := ofRankWeights_eq_ok hvw
    unfold Reranker.relevance at hrelevance
    dsimp only at hrelevance
    rw [hvector, hfts] at hrelevance
    simp only [Except.bind_eq_ok_iff, Except.pure_eq_ok_iff] at hrelevance
    obtain ⟨_, hvectorIds, _, hftsIds, a, ha, b, hb, rfl⟩ := hrelevance
    cases hvectorIds
    cases hftsIds
    exact Relevance.meanReciprocalRank_le (Scalar.inUnit_of_toSingle hvectorUnit ha)
      (Scalar.inUnit_of_toSingle hftsUnit hb) hvectorNodup hftsNodup hvectorRank hftsRank

theorem rank_dominance
    (hmade : (∃ k, ofConstant k = .ok r) ∨ ∃ v w, ofRankWeights v w = .ok r)
    (hvector : vector.ranking = .ok vectorIds) (hfts : fts.ranking = .ok ftsIds)
    (hvectorNodup : vectorIds.Nodup) (hftsNodup : ftsIds.Nodup)
    (h : r.rerank vector fts = .ok result)
    : ∃ (ids : Ranking) (scores : List Binary),
        result.rowIds = .ok ids
          ∧ result.cells relevanceColumn = .ok ⟨.float32, scores.map .real⟩
          ∧ ∀ (x y : Int) (i j : Nat), x ≠ y
            → ids[i]? = some (some x)
            → ids[j]? = some (some y)
            → vectorIds.rank x ≤ vectorIds.rank y
            → ftsIds.rank x ≤ ftsIds.rank y
            → i < j
              ∧ ∃ s t : Binary, scores[i]? = some s ∧ scores[j]? = some t ∧ t.le s = true := by
  obtain ⟨relevance, merged, ids, hlength, hrelevance, hmerged, hids, _, hnames, rfl⟩ :=
    rerank_eq_ok h
  have hperm := descendingPositions_perm ((ids.map (Batch.scoreOf relevance)).map .real)
  have horder := Batch.pairwise_scores ids (Batch.scoreOf relevance)
  rw [List.length_map, List.length_map] at hperm
  generalize descendingPositions ((ids.map (Batch.scoreOf relevance)).map .real) = positions
    at hperm horder h ⊢
  refine ⟨_, positions.map fun i => Batch.scoreOf relevance (ids.getD i none),
    Batch.rowIds_gather (Batch.rowIds_withScores (by decide) hids), ?_, ?_⟩
  . rw [List.map_map, Batch.cells_gather (Batch.cells_withScores_self hnames)]
    unfold Cells.gather
    dsimp only
    rw [Batch.map_getD_scores fun i hi => List.mem_range.1 (hperm.mem_iff.1 hi)]
    rfl
  . intro x y i j hne hi hj hvectorRank hftsRank
    rw [List.getElem?_map, Option.map_eq_some_iff] at hi hj
    obtain ⟨p, hp, hpx⟩ := hi
    obtain ⟨q, hq, hqy⟩ := hj
    have hle := le_of_rank_le hmade hvector hfts hvectorNodup hftsNodup hrelevance hvectorRank
      hftsRank
    have hpq : p < q := Batch.lt_of_rank_le hvector hfts hvectorNodup hftsNodup hmerged hids hne
      (Ranking.getElem?_of_getD hpx) (Ranking.getElem?_of_getD hqy) hvectorRank hftsRank
    constructor
    . apply Binary.lt_of_pairwise horder hp hq hpq
      rw [hpx, hqy]
      exact hle
    . refine ⟨_, _, ?_, ?_, hle⟩
      . rw [List.getElem?_map, hp, Option.map_some, hpx]
      . rw [List.getElem?_map, hq, Option.map_some, hqy]

def rankedSample (ids : List Int) : Batch where
  columns := [⟨⟨rowIdColumn, .uint64, false⟩, ids.map .int⟩]
  metadata := none
  aligned := by simp [rowCount]

theorem rank_dominance_sample
    : ∃ (r : Reranker) (result : Batch) (ids : Ranking) (scores : List Binary),
        ofConstant (.int 60) = .ok r
          ∧ (rankedSample [4, 9, 2]).ranking = .ok [some 4, some 9, some 2]
          ∧ (rankedSample [9]).ranking = .ok [some 9]
          ∧ List.Nodup [some 4, some 9, some 2]
          ∧ r.rerank (rankedSample [4, 9, 2]) (rankedSample [9]) = .ok result
          ∧ result.rowIds = .ok ids
          ∧ (∀ i j : Nat, ids[i]? = some (some 9) → ids[j]? = some (some 2) →
              i < j
                ∧ ∃ s t : Binary, scores[i]? = some s ∧ scores[j]? = some t ∧ t.le s = true) := by
  have hmade : ofConstant (.int 60) = .ok (rrf (.int 60)) := by rfl
  obtain ⟨result, h⟩ : ∃ result,
      (rrf (.int 60)).rerank (rankedSample [4, 9, 2]) (rankedSample [9]) = .ok result :=
    exists_rerank rfl rfl rfl (fun _ _ => ⟨_, rfl⟩) (by decide) (by decide)
  obtain ⟨ids, scores, hids, hscores, horder⟩ :=
    rank_dominance (.inl ⟨_, hmade⟩) rfl rfl (by decide) (by decide) h
  refine ⟨_, result, ids, scores, hmade, rfl, rfl, by decide, h, hids, ?_⟩
  intro i j hi hj
  exact horder 9 2 i j (by decide) hi hj (by decide) (by decide)

end Reranker

end RankFusion
