import RankFusion.Proofs.Batch.Distinct
import RankFusion.Proofs.Batch.Symmetry
import RankFusion.Proofs.Rerank.Acceptance
import RankFusion.Proofs.Rerank.Parameter
import RankFusion.Proofs.Rerank.Relevance

/-!
This module contains the fusions of two batches in either order. A strategy that looks at ranks
only, and whose weights are exchanged with the batches, gives every row the same relevance.
-/

namespace RankFusion

namespace Relevance

variable {k : Binary} {vector fts : Ranking} {id : Int} {n : Nat}

theorem convert_fusionShare : Format.single.convert (fusionShare k n) = fusionShare k n :=
  Format.convert_div

theorem convert_shareAt {share : Nat → Binary} {a : ℕ∞}
    (h : ∀ n, Format.single.convert (share n) = share n)
    : Format.single.convert (shareAt share a) = shareAt share a := by
  cases a with
  | top => exact Format.convert_zero
  | coe n => exact h n

theorem reciprocalRankFusion_comm (hk : k.Unsigned) (hvector : vector.Nodup) (hfts : fts.Nodup)
    : reciprocalRankFusion k vector fts id = reciprocalRankFusion k fts vector id := by
  have hfirst : ∀ a, Format.single.add .zero (shareAt (fusionShare k) a) =
      shareAt (fusionShare k) a := by
    intro a
    exact Format.zero_add_eq_self (unsigned_shareAt (unsigned_fusionShare hk))
      (convert_shareAt fun _ => convert_fusionShare)
  rw [reciprocalRankFusion_eq hk hvector hfts, reciprocalRankFusion_eq hk hfts hvector, hfirst,
    hfirst, Format.add_comm]

theorem meanReciprocalRank_comm (weightVector weightFts : Binary)
    : meanReciprocalRank weightVector weightFts vector fts id =
        meanReciprocalRank weightFts weightVector fts vector id :=
  Format.add_comm _ _

end Relevance

namespace Batch

def SameRelevance (b c : Batch) : Prop :=
  ∃ rows rows' : List (Option Int × Binary),
    (b.rowIds = .ok (rows.map (·.1))
        ∧ b.cells relevanceColumn = .ok ⟨.float32, rows.map fun row => .real row.2⟩)
      ∧ (c.rowIds = .ok (rows'.map (·.1))
        ∧ c.cells relevanceColumn = .ok ⟨.float32, rows'.map fun row => .real row.2⟩)
      ∧ rows.Perm rows'

variable {b vector fts : Batch}

theorem Distinguished.nodup_ranking {ids : Ranking} (hb : b.Distinguished)
    (h : b.ranking = .ok ids)
    : ids.Nodup := by
  unfold ranking at h
  split at h
  . cases h
    exact .nil
  . exact (hb ids h).2

end Batch

namespace Reranker

variable {r : Reranker} {vector fts result result' : Batch}

def swap : Reranker → Reranker
  | mrr weightVector weightFts => mrr weightFts weightVector
  | r => r

theorem swap_swap (r : Reranker) : r.swap.swap = r := by
  cases r <;> rfl

theorem method_swap (r : Reranker) : r.swap.method = r.method := by
  cases r <;> rfl

theorem InRange.swap (h : r.InRange) : r.swap.InRange := by
  cases r with
  | mrr weightVector weightFts => exact h.symm
  | _ => exact h

theorem relevance_swap {relevance : Int → Except Failure Binary} (hmethod : r.method ≠ .linear)
    (hrange : r.InRange) (hvector : vector.Distinguished) (hfts : fts.Distinguished)
    (h : r.relevance vector fts = .ok relevance)
    : r.swap.relevance fts vector = .ok relevance := by
  cases r with
  | rrf k =>
    unfold Reranker.relevance at h ⊢
    simp only [swap, Except.bind_eq_ok_iff, Except.pure_eq_ok_iff] at h ⊢
    obtain ⟨x, hx, vectorIds, hvectorIds, ftsIds, hftsIds, rfl⟩ := h
    refine ⟨x, hx, ftsIds, hftsIds, vectorIds, hvectorIds, ?_⟩
    funext id
    rw [Relevance.reciprocalRankFusion_comm (Scalar.unsigned_of_toSingle hrange hx)
      (hfts.nodup_ranking hftsIds) (hvector.nodup_ranking hvectorIds)]
  | linear weight fill => exact absurd rfl hmethod
  | mrr weightVector weightFts =>
    unfold Reranker.relevance at h ⊢
    simp only [swap, Except.bind_eq_ok_iff, Except.pure_eq_ok_iff] at h ⊢
    obtain ⟨vectorIds, hvectorIds, ftsIds, hftsIds, v, hv, w, hw, rfl⟩ := h
    refine ⟨ftsIds, hftsIds, vectorIds, hvectorIds, w, hw, v, hv, ?_⟩
    funext id
    rw [Relevance.meanReciprocalRank_comm]

theorem exists_rerank_swap (hmethod : r.method ≠ .linear) (hrange : r.InRange)
    (hvector : vector.rows ≠ 0) (hfts : fts.rows ≠ 0) (hvectorIds : vector.Distinguished)
    (hftsIds : fts.Distinguished) (h : r.rerank vector fts = .ok result)
    : ∃ result', r.swap.rerank fts vector = .ok result' := by
  obtain ⟨relevance, merged, ids, _, hrelevance, hmerged, hids, hscores, hnames, _⟩ :=
    rerank_eq_ok h
  obtain ⟨merged', hmerged'⟩ := Batch.exists_merge_comm.1 ⟨merged, hmerged⟩
  have hrows := Batch.merge_of_rows_ne_zero hvector hfts ▸ hmerged
  have hrows' := Batch.merge_of_rows_ne_zero hfts hvector ▸ hmerged'
  obtain ⟨hnames', _, ids', hmergedIds, hids', _, hperm⟩ :=
    Batch.alike_of_mergeRows hvectorIds hftsIds hrows hrows'
  cases hids.symm.trans hmergedIds
  refine exists_rerank (relevance_swap hmethod hrange hvectorIds hftsIds hrelevance) hmerged' hids'
    ?_ ?_ (Batch.supported_of_mergeRows hrows')
  . intro x hx
    exact ⟨_, hscores x (hperm.mem_iff.2 hx)⟩
  . rw [← hnames']
    exact hnames

theorem alike_of_rerank (hmethod : r.method ≠ .linear) (hrange : r.InRange)
    (hvector : vector.rows ≠ 0) (hfts : fts.rows ≠ 0) (hvectorIds : vector.Distinguished)
    (hftsIds : fts.Distinguished) (h : r.rerank vector fts = .ok result)
    (h' : r.swap.rerank fts vector = .ok result')
    : result.Alike result' ∧ result.SameRelevance result' := by
  obtain ⟨relevance, merged, ids, sorted, hrelevance, hmerged, hids, _, hnames, hsorted, hperm,
    hcells⟩ := rows_of_rerank h
  obtain ⟨relevance', merged', ids', sorted', hrelevance', hmerged', hids', _, hnames', hsorted',
    hperm', hcells'⟩ := rows_of_rerank h'
  cases hrelevance'.symm.trans (relevance_swap hmethod hrange hvectorIds hftsIds hrelevance)
  rw [Batch.merge_of_rows_ne_zero hvector hfts] at hmerged
  rw [Batch.merge_of_rows_ne_zero hfts hvector] at hmerged'
  obtain ⟨hmergedNames, _, _, hmergedIds, hmergedIds', hnodup, hmergedPerm⟩ :=
    Batch.alike_of_mergeRows hvectorIds hftsIds hmerged hmerged'
  cases hids.symm.trans hmergedIds
  cases hids'.symm.trans hmergedIds'
  have hrows : sorted.Perm sorted' := (hperm.trans hmergedPerm).trans hperm'.symm
  refine ⟨⟨?_, sorted, sorted', hsorted, hsorted', hperm.nodup_iff.2 hnodup, hrows⟩, ?_⟩
  . intro name
    rw [hnames, hnames', List.mem_append, List.mem_append, hmergedNames]
  . have hfst : ∀ ids : List (Option Int),
        (ids.map fun id => (id, Batch.scoreOf relevance id)).map (·.1) = ids := by
      intro ids
      rw [List.map_map]
      exact List.map_id ids
    refine ⟨sorted.map fun id => (id, Batch.scoreOf relevance id),
      sorted'.map fun id => (id, Batch.scoreOf relevance id), ⟨?_, ?_⟩, ⟨?_, ?_⟩, hrows.map _⟩
    . rw [hfst]
      exact hsorted
    . rw [hcells, List.map_map, List.map_map]
      rfl
    . rw [hfst]
      exact hsorted'
    . rw [hcells', List.map_map, List.map_map]
      rfl

theorem rerank_comm (hmethod : r.method ≠ .linear) (hrange : r.InRange)
    (hvector : vector.rows ≠ 0) (hfts : fts.rows ≠ 0) (hvectorIds : vector.Distinguished)
    (hftsIds : fts.Distinguished)
    : ((∃ merged, vector.merge fts = .ok merged) ↔ ∃ merged, fts.merge vector = .ok merged)
        ∧ (∀ merged merged', vector.merge fts = .ok merged → fts.merge vector = .ok merged' →
            merged.Alike merged')
        ∧ ((∃ result, r.rerank vector fts = .ok result)
            ↔
          ∃ result, r.swap.rerank fts vector = .ok result)
        ∧ ∀ result result', r.rerank vector fts = .ok result →
            r.swap.rerank fts vector = .ok result' →
            result.Alike result' ∧ result.SameRelevance result' := by
  refine ⟨Batch.exists_merge_comm, ?_, ?_, ?_⟩
  . intro merged merged' h h'
    rw [Batch.merge_of_rows_ne_zero hvector hfts] at h
    rw [Batch.merge_of_rows_ne_zero hfts hvector] at h'
    exact Batch.alike_of_mergeRows hvectorIds hftsIds h h'
  . constructor
    . rintro ⟨result, h⟩
      exact exists_rerank_swap hmethod hrange hvector hfts hvectorIds hftsIds h
    . rintro ⟨result, h⟩
      rw [← method_swap] at hmethod
      have hback := exists_rerank_swap hmethod hrange.swap hfts hvector hftsIds hvectorIds h
      rwa [swap_swap] at hback
  . intro result result' h h'
    exact alike_of_rerank hmethod hrange hvector hfts hvectorIds hftsIds h h'

theorem rerank_comm_sample
    : ∃ result result',
        (mrr (.int 1) (.int 0)).rerank (Batch.ofIds [some 7, some 3]) (Batch.ofIds [some 3]) =
            .ok result
          ∧ (mrr (.int 0) (.int 1)).rerank (Batch.ofIds [some 3]) (Batch.ofIds [some 7, some 3]) =
              .ok result'
          ∧ result.Alike result'
          ∧ result.SameRelevance result' := by
  have hvector : (Batch.ofIds [some 7, some 3]).Distinguished := by
    intro ids hids
    cases hids
    decide
  have hfts : (Batch.ofIds [some 3]).Distinguished := by
    intro ids hids
    cases hids
    decide
  have hrange : (mrr (.int 1) (.int 0)).InRange := ⟨⟨rfl, rfl⟩, rfl, rfl⟩
  obtain ⟨result, h⟩ : ∃ result,
      (mrr (.int 1) (.int 0)).rerank (Batch.ofIds [some 7, some 3]) (Batch.ofIds [some 3]) =
        .ok result :=
    exists_rerank rfl rfl rfl (fun _ _ => ⟨_, rfl⟩) (by decide) (by decide)
  obtain ⟨_, _, hreturns, halike⟩ :=
    @rerank_comm (mrr (.int 1) (.int 0)) _ _ nofun hrange (by decide) (by decide) hvector hfts
  obtain ⟨result', h'⟩ := hreturns.1 ⟨result, h⟩
  exact ⟨result, result', h, h', halike result result' h h'⟩

end Reranker

end RankFusion
