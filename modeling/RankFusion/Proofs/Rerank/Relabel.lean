import Mathlib.Data.UInt
import RankFusion.Proofs.Batch.Distinct
import RankFusion.Proofs.Batch.Relabel
import RankFusion.Proofs.Rerank.Fuse

/-!
This module contains the exchange of row identifiers before a fusion. Identifiers join the rows of
the two sides and have no other meaning, so the fusion is the same one, with its identifiers
exchanged.
-/

namespace RankFusion

variable {p : Int → Int}

namespace Ranking

variable {ids : Ranking} {id : Int}

theorem map_eq_some_iff (hp : Function.Injective p) {x : Option Int}
    : x.map p = some (p id) ↔ x = some id := by
  rw [← Option.map_some, (Option.map_injective hp).eq_iff]

theorem positions_relabel (hp : Function.Injective p) (ids : Ranking) (id : Int)
    : Ranking.positions (ids.map (Option.map p)) (p id) = ids.positions id := by
  unfold positions
  rw [List.zipIdx_map, List.filterMap_map]
  congr 1
  funext ⟨x, i⟩
  simp only [Function.comp_apply, Prod.map_apply, map_eq_some_iff hp, id_eq]

end Ranking

namespace Relevance

variable {k weightVector weightFts : Binary} {vector fts ids : Ranking} {id : Int}

theorem reciprocalRankFusion_relabel (hp : Function.Injective p)
    : reciprocalRankFusion k (vector.map (Option.map p)) (fts.map (Option.map p)) (p id) =
        reciprocalRankFusion k vector fts id := by
  unfold reciprocalRankFusion
  rw [Ranking.positions_relabel hp, Ranking.positions_relabel hp]

theorem reciprocalRank_relabel (hp : Function.Injective p)
    : reciprocalRank (ids.map (Option.map p)) (p id) = reciprocalRank ids id := by
  unfold reciprocalRank
  rw [Ranking.positions_relabel hp]

theorem meanReciprocalRank_relabel (hp : Function.Injective p)
    : meanReciprocalRank weightVector weightFts (vector.map (Option.map p))
        (fts.map (Option.map p)) (p id) =
      meanReciprocalRank weightVector weightFts vector fts id := by
  unfold meanReciprocalRank
  rw [reciprocalRank_relabel hp, reciprocalRank_relabel hp]

theorem lastValue?_relabel (hp : Function.Injective p) (cells : List Value)
    : lastValue? (ids.map (Option.map p)) cells (p id) = lastValue? ids cells id := by
  unfold lastValue?
  rw [List.zip_map_left, List.filterMap_map]
  congr 2
  funext ⟨x, v⟩
  simp only [Function.comp_apply, Prod.map_apply, Ranking.map_eq_some_iff hp, id_eq]

end Relevance

namespace Batch

variable {b vector fts : Batch} {name : String}

theorem ranking_relabel : (b.relabel p).ranking = List.map (Option.map p) <$> b.ranking := by
  unfold ranking
  rw [rows_relabel, rowIds_relabel]
  split
  . rfl
  . rfl

theorem scored_relabel (hname : name ≠ rowIdColumn)
    : (b.relabel p).scored name = Prod.map (List.map (Option.map p)) id <$> b.scored name := by
  unfold scored
  rw [rows_relabel, rowIds_relabel, numbers_relabel hname]
  split
  . rfl
  . rw [bind_map_left, map_bind]
    apply Except.bind_congr_of_ok
    intro ids _
    rw [map_bind]
    rfl

theorem scoreAndSort_relabel (relevance : Int → Except Failure Binary)
    : (b.relabel p).scoreAndSort relevance =
        relabel p <$> b.scoreAndSort fun id => relevance (p id) := by
  unfold scoreAndSort
  rw [rowIds_relabel, bind_map_left, map_bind]
  apply Except.bind_congr_of_ok
  intro ids _
  rw [List.mapM_map, map_bind]
  congr 1
  . congr 1
    funext id
    cases id with
    | none => rfl
    | some id => rfl
  . funext scores
    rw [append_relabel (by decide), bind_map_left, map_bind]
    apply Except.bind_congr_of_ok
    intro scored _
    exact sortDescending_relabel (by decide)

end Batch

namespace Reranker

variable {vector fts : Batch}

theorem relevance_relabel (hp : Function.Injective p) (r : Reranker)
    : r.relevance vector fts =
        (fun relevance id => relevance (p id)) <$>
          r.relevance (vector.relabel p) (fts.relabel p) := by
  unfold Reranker.relevance
  cases r with
  | rrf k =>
    dsimp only
    rw [Batch.ranking_relabel, Batch.ranking_relabel]
    simp only [map_bind, bind_map_left, map_pure, Relevance.reciprocalRankFusion_relabel hp]
  | linear weight fill =>
    dsimp only
    rw [Batch.scored_relabel (by decide), Batch.scored_relabel (by decide)]
    simp only [map_bind, bind_map_left, map_pure, Prod.map_fst, Prod.map_snd, id_eq,
      Relevance.lastValue?_relabel hp]
  | mrr weightVector weightFts =>
    dsimp only
    rw [Batch.ranking_relabel, Batch.ranking_relabel]
    simp only [map_bind, bind_map_left, map_pure, Relevance.meanReciprocalRank_relabel hp]

theorem rerank_relabel (hp : Function.Injective p) (r : Reranker)
    : r.rerank (vector.relabel p) (fts.relabel p) = Batch.relabel p <$> r.rerank vector fts := by
  rw [rerank_eq, rerank_eq, @relevance_relabel p vector fts hp r, Batch.merge_relabel hp,
    bind_map_left, map_bind]
  apply Except.bind_congr_of_ok
  intro relevance _
  rw [bind_map_left, map_bind]
  apply Except.bind_congr_of_ok
  intro merged _
  exact Batch.scoreAndSort_relabel relevance

end Reranker

/--
The map of integers that a map of 64-bit words gives. Other integers stay what they are.
-/
def onWords (p : UInt64 → UInt64) (n : Int) : Int :=
  if 0 ≤ n ∧ n < 2 ^ 64 then (p (.ofNat n.toNat)).toNat else n

theorem onWords_injective {p : UInt64 → UInt64} (hp : Function.Injective p)
    : Function.Injective (onWords p) := by
  have hword : ∀ w : UInt64, (w.toNat : Int) < 2 ^ 64 := by
    intro w
    exact_mod_cast w.toNat_lt
  have hread : ∀ n : Int, 0 ≤ n → n < 2 ^ 64 → (UInt64.ofNat n.toNat).toNat = n.toNat := by
    intro n hzero hlt
    have hsize : n.toNat < UInt64.size := by
      unfold UInt64.size
      omega
    exact UInt64.toNat_ofNat_of_lt' hsize
  intro m n h
  unfold onWords at h
  split at h
  . next hm =>
    split at h
    . next hn =>
      have hwords := congrArg UInt64.toNat (hp (UInt64.toNat_inj.1 (Int.ofNat_inj.1 h)))
      rw [hread m hm.1 hm.2, hread n hn.1 hn.2] at hwords
      omega
    . have := hword (p (.ofNat m.toNat))
      omega
  . split at h
    . have := hword (p (.ofNat n.toNat))
      omega
    . exact h

namespace Batch

theorem fusion_relabel {p : UInt64 → UInt64} (hp : Function.Injective p) (vector fts : Batch)
    : (vector.relabel (onWords p)).merge (fts.relabel (onWords p)) =
          relabel (onWords p) <$> vector.merge fts
        ∧ ∀ r : Reranker,
            r.rerank (vector.relabel (onWords p)) (fts.relabel (onWords p)) =
              relabel (onWords p) <$> r.rerank vector fts :=
  ⟨merge_relabel (onWords_injective hp), Reranker.rerank_relabel (onWords_injective hp)⟩

/-- The greatest identifier becomes the least one. -/
theorem fusion_relabel_successor
    : Function.Injective (fun w : UInt64 => w + 1)
        ∧ ∃ merged result,
            (ofIds [some 7, none, some 18446744073709551615]).merge (ofIds [some 9, some 7]) =
                .ok merged
              ∧ (ofIds [some 8, none, some 0]).merge (ofIds [some 10, some 8]) =
                  .ok (merged.relabel (onWords (· + 1)))
              ∧ Reranker.default.rerank (ofIds [some 7, none, some 18446744073709551615])
                  (ofIds [some 9, some 7]) = .ok result
              ∧ Reranker.default.rerank (ofIds [some 8, none, some 0]) (ofIds [some 10, some 8]) =
                  .ok (result.relabel (onWords (· + 1))) := by
  have hp : Function.Injective (fun w : UInt64 => w + 1) := add_left_injective 1
  have hvector : (ofIds [some 7, none, some 18446744073709551615]).relabel (onWords (· + 1)) =
      ofIds [some 8, none, some 0] := ext rfl rfl
  have hfts : (ofIds [some 9, some 7]).relabel (onWords (· + 1)) = ofIds [some 10, some 8] :=
    ext rfl rfl
  obtain ⟨result, hresult⟩ : ∃ result,
      Reranker.default.rerank (ofIds [some 7, none, some 18446744073709551615])
        (ofIds [some 9, some 7]) = .ok result :=
    Reranker.exists_rerank rfl rfl rfl (fun _ _ => ⟨_, rfl⟩) (by decide) (by decide)
  obtain ⟨hmerge, hrerank⟩ := fusion_relabel hp (ofIds [some 7, none, some 18446744073709551615])
    (ofIds [some 9, some 7])
  have hrerank := hrerank .default
  rw [hvector, hfts] at hmerge hrerank
  rw [hresult] at hrerank
  exact ⟨hp, _, result, rfl, hmerge, hresult, hrerank⟩

end Batch

end RankFusion
