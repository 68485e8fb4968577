import RankFusion.Proofs.Batch.Sort
import RankFusion.Proofs.Number.Arithmetic
import RankFusion.Proofs.Rerank.Table

/-!
This module contains what a fused batch is made of: the merged batch with the relevance of every row
behind it, its rows in descending order of that.
-/

namespace RankFusion

namespace Relevance

variable {vector fts : Ranking} {id : Int}

theorem convert_reciprocalRankFusion (k : Binary)
    : Format.single.convert (reciprocalRankFusion k vector fts id) =
        reciprocalRankFusion k vector fts id := by
  unfold reciprocalRankFusion
  generalize (vector.positions id ++ fts.positions id).map (fusionShare k) = shares
  cases shares.eq_nil_or_concat with
  | inl hnil =>
    rw [hnil]
    exact Format.convert_zero
  | inr hconcat =>
    obtain ⟨rest, share, hconcat⟩ := hconcat
    rw [hconcat, List.concat_eq_append, List.foldl_append]
    exact Format.convert_add

theorem convert_meanReciprocalRank (weightVector weightFts : Binary)
    : Format.single.convert (meanReciprocalRank weightVector weightFts vector fts id) =
        meanReciprocalRank weightVector weightFts vector fts id :=
  Format.convert_add

theorem convert_linearCombination (weight fill : Binary) (distance? score? : Option Binary)
    : Format.single.convert (linearCombination weight fill distance? score?) =
        linearCombination weight fill distance? score? :=
  Format.convert_add

end Relevance

namespace Reranker

theorem convert_of_relevance {r : Reranker} {vector fts : Batch}
    {relevance : Int → Except Failure Binary} (h : r.relevance vector fts = .ok relevance)
    {id : Int} {score : Binary} (hscore : relevance id = .ok score)
    : Format.single.convert score = score := by
  cases r with
  | rrf k =>
    unfold Reranker.relevance at h
    simp only [Except.bind_eq_ok_iff, Except.pure_eq_ok_iff] at h
    obtain ⟨_, _, _, _, _, _, rfl⟩ := h
    cases hscore
    exact Relevance.convert_reciprocalRankFusion _
  | linear weight fill =>
    unfold Reranker.relevance at h
    simp only [Except.bind_eq_ok_iff, Except.pure_eq_ok_iff] at h
    obtain ⟨_, _, _, _, rfl⟩ := h
    simp only [Except.bind_eq_ok_iff, Except.pure_eq_ok_iff] at hscore
    obtain ⟨_, _, _, _, rfl⟩ := hscore
    exact Relevance.convert_linearCombination _ _ _ _
  | mrr weightVector weightFts =>
    unfold Reranker.relevance at h
    simp only [Except.bind_eq_ok_iff, Except.pure_eq_ok_iff] at h
    obtain ⟨_, _, _, _, _, _, _, _, rfl⟩ := h
    cases hscore
    exact Relevance.convert_meanReciprocalRank _ _

end Reranker

namespace Batch

variable {b result : Batch} {relevance : Int → Except Failure Binary}

/--
The score of a row under a relevance of identifiers. A row without an identifier has the score zero,
and so has an identifier whose relevance cannot be computed.
-/
def scoreOf (relevance : Int → Except Failure Binary) : Option Int → Binary
  | none => .zero
  | some id =>
    match relevance id with
    | .ok score => score
    | .error _ => .zero

theorem scoreOf_some {id : Int} {score : Binary} (h : relevance id = .ok score)
    : scoreOf relevance (some id) = score := by
  unfold scoreOf
  dsimp only
  rw [h]

theorem map_getD_scores {ids : List (Option Int)} {score : Option Int → Binary}
    {positions : List Nat} (h : ∀ i ∈ positions, i < ids.length)
    : (positions.map fun i => ((ids.map score).map Value.real).getD i .null) =
        positions.map fun i => .real (score (ids.getD i none)) := by
  apply List.map_congr_left
  intro i hi
  simp only [List.getD_eq_getElem?_getD, List.getElem?_map, List.getElem?_eq_getElem (h i hi),
    Option.map_some, Option.getD_some]

theorem pairwise_scores (ids : List (Option Int)) (score : Option Int → Binary)
    : (descendingPositions ((ids.map score).map .real)).Pairwise fun i j =>
        (score (ids.getD i none)).Outranks (score (ids.getD j none))
          ∨ ((score (ids.getD i none)).Ties (score (ids.getD j none)) ∧ i < j) := by
  apply (Binary.pairwise_descendingPositions (ids.map score)).imp
  rintro i j ⟨x, y, hx, hy, hxy⟩
  rw [List.getElem?_map, Option.map_eq_some_iff] at hx hy
  obtain ⟨a, ha, rfl⟩ := hx
  obtain ⟨c, hc, rfl⟩ := hy
  rw [List.getD_eq_getElem?_getD, List.getD_eq_getElem?_getD, ha, hc]
  exact hxy

def sortedIds (relevance : Int → Except Failure Binary) (ids : List (Option Int)) :
    List (Option Int) :=
  (descendingPositions ((ids.map (scoreOf relevance)).map .real)).map fun i => ids.getD i none

theorem descendingPositions_scores_perm (relevance : Int → Except Failure Binary)
    (ids : List (Option Int))
    : (descendingPositions ((ids.map (scoreOf relevance)).map .real)).Perm
        (List.range ids.length) := by
  simpa using descendingPositions_perm ((ids.map (scoreOf relevance)).map .real)

theorem sortedIds_perm (relevance : Int → Except Failure Binary) (ids : List (Option Int))
    : (sortedIds relevance ids).Perm ids := by
  have hrange : (List.range ids.length).map (fun i => ids.getD i none) = ids := by
    apply List.ext_getElem
    . simp
    . intro i _ hi
      simp [hi]
  have hperm := (descendingPositions_scores_perm relevance ids).map fun i => ids.getD i none
  rw [hrange] at hperm
  exact hperm

theorem scoreAndSort_eq_ok (h : b.scoreAndSort relevance = .ok result)
    (hrounded : ∀ id score, relevance id = .ok score → Format.single.convert score = score)
    : ∃ ids hlength,
        b.rowIds = .ok ids
          ∧ (∀ x, some x ∈ ids → relevance x = .ok (scoreOf relevance (some x)))
          ∧ relevanceColumn ∉ b.schema.names
          ∧ result =
              (b.withScores relevanceColumn (ids.map (scoreOf relevance)) hlength).gather
                (descendingPositions ((ids.map (scoreOf relevance)).map .real)) := by
  unfold scoreAndSort at h
  obtain ⟨ids, hids, h⟩ := Except.bind_eq_ok_iff.1 h
  obtain ⟨scores, hscores, h⟩ := Except.bind_eq_ok_iff.1 h
  obtain ⟨scored, hscored, h⟩ := Except.bind_eq_ok_iff.1 h
  obtain ⟨hlength, rfl⟩ := append_eq_ok hscored
  obtain ⟨keys, hkeys, _, rfl⟩ := sortDescending_eq_ok_iff.1 h
  rw [List.mapM_eq_ok_iff] at hscores
  have hmap : ids.map (scoreOf relevance) = scores.map Format.single.convert := by
    apply List.map_eq_map_of_forall₂ hscores
    intro x score hscore
    cases x with
    | none =>
      cases hscore
      exact Format.convert_zero.symm
    | some id =>
      rw [scoreOf_some hscore]
      exact (hrounded id score hscore).symm
  have hnames := not_mem_names_of_cells_withScores hkeys
  cases hkeys.symm.trans (cells_withScores_self hnames)
  refine ⟨ids, ?_, hids, ?_, hnames, ?_⟩
  . rw [hmap]
    exact hlength
  . intro x hx
    obtain ⟨score, _, hscore⟩ := List.exists_left_of_forall₂ hscores.flip hx
    rw [scoreOf_some hscore]
    exact hscore
  . simp only [hmap]

theorem exists_scoreAndSort_iff
    : (∃ result, b.scoreAndSort relevance = .ok result)
        ↔
      ∃ ids, b.rowIds = .ok ids
        ∧ (∀ x, some x ∈ ids → ∃ score, relevance x = .ok score)
        ∧ relevanceColumn ∉ b.schema.names
        ∧ (b.rows ≠ 0 → ∀ c ∈ b.columns, c.field.type.isSupported) := by
  unfold scoreAndSort
  simp only [Except.bind_eq_ok_iff]
  constructor
  . rintro ⟨result, ids, hids, scores, hscores, scored, hscored, hsorted⟩
    obtain ⟨hlength, rfl⟩ := append_eq_ok hscored
    obtain ⟨keys, hkeys, hsupported, _⟩ := sortDescending_eq_ok_iff.1 hsorted
    have hnames := not_mem_names_of_cells_withScores hkeys
    refine ⟨ids, hids, ?_, hnames, ?_⟩
    . intro x hx
      obtain ⟨score, _, hscore⟩ := List.exists_right_of_forall₂ (List.mapM_eq_ok_iff.1 hscores) hx
      exact ⟨score, hscore⟩
    . intro hrows c hc
      refine (hsupported ?_).2 c (List.mem_append_left _ hc)
      rw [← length_of_cells (cells_withScores_self hnames), List.length_map, hlength]
      exact hrows
  . rintro ⟨ids, hids, hscores, hnames, hsupported⟩
    have hlength : ((ids.map (scoreOf relevance)).map Format.single.convert).length = b.rows := by
      rw [List.length_map, List.length_map, length_of_rowIds hids]
    refine ⟨_, ids, hids, ids.map (scoreOf relevance), ?_,
      b.withScores relevanceColumn _ hlength, dif_pos hlength,
      sortDescending_eq_ok_iff.2 ⟨_, cells_withScores_self hnames, ?_, rfl⟩⟩
    . rw [List.mapM_eq_ok_iff, List.forall₂_map_right_iff, List.forall₂_same]
      intro x hx
      cases x with
      | none => rfl
      | some id =>
        obtain ⟨score, hscore⟩ := hscores id hx
        rw [scoreOf_some hscore]
        exact hscore
    . intro hrows
      rw [← length_of_cells (cells_withScores_self hnames), List.length_map, hlength] at hrows
      refine ⟨rfl, ?_⟩
      intro c hc
      cases List.mem_append.1 hc with
      | inl hc => exact hsupported hrows c hc
      | inr hc =>
        rw [List.mem_singleton.1 hc]
        rfl

end Batch

namespace Reranker

variable {r : Reranker} {vector fts result : Batch}

theorem exists_rerank {relevance : Int → Except Failure Binary} {merged : Batch}
    {ids : List (Option Int)} (hrelevance : r.relevance vector fts = .ok relevance)
    (hmerged : vector.merge fts = .ok merged) (hids : merged.rowIds = .ok ids)
    (hscores : ∀ x, some x ∈ ids → ∃ score, relevance x = .ok score)
    (hnames : relevanceColumn ∉ merged.schema.names)
    (hsupported : ∀ c ∈ merged.columns, c.field.type.isSupported)
    : ∃ result, r.rerank vector fts = .ok result := by
  rw [rerank_eq]
  rw [hrelevance, hmerged]
  exact Batch.exists_scoreAndSort_iff.2 ⟨ids, hids, hscores, hnames, fun _ => hsupported⟩

theorem rerank_eq_ok (h : r.rerank vector fts = .ok result)
    : ∃ relevance merged ids hlength,
        r.relevance vector fts = .ok relevance
          ∧ vector.merge fts = .ok merged
          ∧ merged.rowIds = .ok ids
          ∧ (∀ x, some x ∈ ids → relevance x = .ok (Batch.scoreOf relevance (some x)))
          ∧ relevanceColumn ∉ merged.schema.names
          ∧ result =
              (merged.withScores relevanceColumn (ids.map (Batch.scoreOf relevance))
                  hlength).gather
                (descendingPositions ((ids.map (Batch.scoreOf relevance)).map .real)) := by
  rw [rerank_eq] at h
  obtain ⟨relevance, hrelevance, h⟩ := Except.bind_eq_ok_iff.1 h
  obtain ⟨merged, hmerged, h⟩ := Except.bind_eq_ok_iff.1 h
  obtain ⟨ids, hlength, hids, hscores, hnames, hresult⟩ :=
    Batch.scoreAndSort_eq_ok h fun _ _ => convert_of_relevance hrelevance
  exact ⟨relevance, merged, ids, hlength, hrelevance, hmerged, hids, hscores, hnames, hresult⟩

theorem sortedIds_of_rerank (h : r.rerank vector fts = .ok result)
    : ∃ relevance merged ids,
        r.relevance vector fts = .ok relevance
          ∧ vector.merge fts = .ok merged
          ∧ merged.rowIds = .ok ids
          ∧ (∀ x, some x ∈ ids → relevance x = .ok (Batch.scoreOf relevance (some x)))
          ∧ result.schema.names = merged.schema.names ++ [relevanceColumn]
          ∧ result.rowIds = .ok (Batch.sortedIds relevance ids)
          ∧ result.cells relevanceColumn =
              .ok ⟨.float32,
                ((Batch.sortedIds relevance ids).map (Batch.scoreOf relevance)).map .real⟩ := by
  obtain ⟨relevance, merged, ids, hlength, hrelevance, hmerged, hids, hscores, hnames, rfl⟩ :=
    rerank_eq_ok h
  have hperm := Batch.descendingPositions_scores_perm relevance ids
  refine ⟨relevance, merged, ids, hrelevance, hmerged, hids, hscores, ?_,
    Batch.rowIds_gather (Batch.rowIds_withScores (by decide) hids), ?_⟩
  . rw [Batch.schema_gather, Batch.names_withScores]
  . rw [Batch.cells_gather (Batch.cells_withScores_self hnames)]
    unfold Cells.gather Batch.sortedIds
    dsimp only
    rw [Batch.map_getD_scores fun i hi => List.mem_range.1 (hperm.mem_iff.1 hi)]
    simp only [List.map_map]
    rfl

theorem rows_of_rerank (h : r.rerank vector fts = .ok result)
    : ∃ relevance merged ids sorted,
        r.relevance vector fts = .ok relevance
          ∧ vector.merge fts = .ok merged
          ∧ merged.rowIds = .ok ids
          ∧ (∀ x, some x ∈ ids → relevance x = .ok (Batch.scoreOf relevance (some x)))
          ∧ result.schema.names = merged.schema.names ++ [relevanceColumn]
          ∧ result.rowIds = .ok sorted
          ∧ sorted.Perm ids
          ∧ result.cells relevanceColumn =
              .ok ⟨.float32, (sorted.map (Batch.scoreOf relevance)).map .real⟩ := by
  obtain ⟨relevance, merged, ids, hrelevance, hmerged, hids, hscores, hnames, hsorted, hcells⟩ :=
    sortedIds_of_rerank h
  exact ⟨relevance, merged, ids, _, hrelevance, hmerged, hids, hscores, hnames, hsorted,
    Batch.sortedIds_perm relevance ids, hcells⟩

theorem rerank_sorted (h : r.rerank vector fts = .ok result)
    : ∃ (relevance : Int → Except Failure Binary) (merged : Batch) (ids : List (Option Int))
        (score : Option Int → Binary) (positions : List Nat),
        r.relevance vector fts = .ok relevance
          ∧ vector.merge fts = .ok merged
          ∧ merged.rowIds = .ok ids
          -- the score of a row, which depends on its identifier alone
          ∧ score none = .zero
          ∧ (∀ x, some x ∈ ids → relevance x = .ok (score (some x)))
          -- the fields and the rows, each of which moves as a whole
          ∧ result.schema.fields
              = merged.schema.fields ++ [⟨relevanceColumn, .float32, false⟩]
          ∧ result.schema.metadata = merged.schema.metadata
          ∧ positions.Perm (List.range merged.rows)
          ∧ result.columns
              = merged.columns.map (·.gather positions)
                ++ [⟨⟨relevanceColumn, .float32, false⟩,
                    positions.map fun i => .real (score (ids.getD i none))⟩]
          -- the order, in which better scores come first and equally good ones stay as they were
          ∧ positions.Pairwise (fun i j =>
              (score (ids.getD i none)).Outranks (score (ids.getD j none))
                ∨ ((score (ids.getD i none)).Ties (score (ids.getD j none)) ∧ i < j)) := by
  obtain ⟨relevance, merged, ids, hlength, hrelevance, hmerged, hids, hscores, hnames, rfl⟩ :=
    rerank_eq_ok h
  have hrows := Batch.length_of_rowIds hids
  have hperm := descendingPositions_perm ((ids.map (Batch.scoreOf relevance)).map .real)
  rw [List.length_map, List.length_map, hrows] at hperm
  refine ⟨relevance, merged, ids, Batch.scoreOf relevance, _, hrelevance, hmerged, hids, rfl,
    hscores, ?_, rfl, hperm, ?_, Batch.pairwise_scores _ _⟩
  . rw [Batch.schema_gather]
    unfold Batch.withScores Batch.schema
    rw [List.map_append]
    rfl
  . rw [Batch.columns_gather_withScores]
    congr 3
    apply Batch.map_getD_scores
    intro i hi
    rw [hrows]
    exact List.mem_range.1 (hperm.mem_iff.1 hi)

theorem rerank_sorted_sample
    : ∃ (result : Batch) (positions : List Nat),
        (mrr (.int 1) (.real .zero)).rerank Batch.vectorSample Batch.ftsSample = .ok result
          ∧ result.schema.metadata = some [("side", "vector")]
          ∧ positions.Perm (List.range 4)
          ∧ ∃ score : Option Int → Binary,
              score none = .zero
                ∧ positions.Pairwise (fun i j =>
                    let ids := [some 7, none, some 7, some 2]
                    (score (ids.getD i none)).Outranks (score (ids.getD j none))
                      ∨ ((score (ids.getD i none)).Ties (score (ids.getD j none)) ∧ i < j)) := by
  obtain ⟨result, h⟩ : ∃ result,
      (mrr (.int 1) (.real .zero)).rerank Batch.vectorSample Batch.ftsSample = .ok result :=
    exists_rerank rfl rfl rfl (fun _ _ => ⟨_, rfl⟩) (by decide) (by decide)
  obtain ⟨_, _, _, score, positions, _, hmerged, hids, hnone, _, _, hmetadata, hperm, _, horder⟩ :=
    rerank_sorted h
  cases hmerged
  cases hids
  exact ⟨result, positions, h, hmetadata, hperm, score, hnone, horder⟩

end Reranker

end RankFusion
