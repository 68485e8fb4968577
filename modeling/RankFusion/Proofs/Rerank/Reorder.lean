import RankFusion.Proofs.Batch.Reorder
import RankFusion.Proofs.Rerank.Acceptance
import RankFusion.Proofs.Rerank.Monotone

/-!
This module contains that linear scoring takes no notice of the order in which the rows of the two
sides come. An identifier that stands in one row of a side is given the same relevance wherever that
row is, and a sort leaves open the order of equally relevant rows only.
-/

namespace RankFusion

namespace Binary

variable {x y : Binary} {xs ys : List Binary}

def place (x : Binary) : WithBot (WithBot (WithTop ℚ)) := if x.isNaN then ⊥ else x.extended

theorem descends_iff_place
    : (Value.real x).descends (.real y) = true ↔ y.place ≤ x.place := by
  rw [descends_real_iff, le_iff]
  unfold place
  cases hx : x.isNaN with
  | true => cases hy : y.isNaN <;> simp
  | false => cases hy : y.isNaN <;> simp

theorem ties_iff_place : x.Ties y ↔ x.place = y.place := by
  unfold Ties place
  rw [eq_iff]
  cases hx : x.isNaN with
  | true => cases hy : y.isNaN <;> simp
  | false => cases hy : y.isNaN <;> simp

theorem ties_of_perm (hperm : xs.Perm ys)
    (hxs : xs.Pairwise fun x y => (Value.real x).descends (.real y) = true)
    (hys : ys.Pairwise fun x y => (Value.real x).descends (.real y) = true)
    : List.Forall₂ Ties xs ys := by
  simp only [descends_iff_place] at hxs hys
  have hsame : xs.map place = ys.map place := by
    rw [← List.pairwise_map (R := (· ≥ ·))] at hxs hys
    exact (hperm.map place).eq_of_pairwise (fun _ _ _ _ hab hba => le_antisymm hba hab) hxs hys
  rw [← List.forall₂_eq_eq_eq, List.forall₂_map_left_iff, List.forall₂_map_right_iff] at hsame
  exact hsame.imp fun _ _ => ties_iff_place.2

theorem pairwise_sorted (scores : List Binary)
    : ((descendingPositions (scores.map .real)).map (scores.getD · .zero)).Pairwise
        fun x y => (Value.real x).descends (.real y) = true := by
  rw [List.pairwise_map]
  refine (RankFusion.pairwise_descendingPositions descends_real_trans
    descends_real_total).imp ?_
  rintro i j ⟨x, y, hx, hy, hle, _⟩
  rw [List.getD_eq_getElem?_getD, List.getD_eq_getElem?_getD, hx, hy]
  exact hle

end Binary

namespace Relevance

variable {ids ids' : Ranking} {cells cells' : List Value} {x : Int}

theorem length_values_le_one (h : (ids.filterMap id).Nodup) (hlength : ids.length = cells.length)
    : ((ids.zip cells).filterMap fun (y, v) => if y = some x then ofCell? v else none).length
        ≤ 1 := by
  have hvalues : ((ids.zip cells).filterMap fun (y, v) => if y = some x then ofCell? v else none) =
      ((ids.zip cells).filter fun e => e.1 == some x).filterMap fun e => ofCell? e.2 := by
    rw [List.filterMap_filter]
    simp only [beq_iff_eq]
  have hrows : ((ids.zip cells).filter fun e => e.1 == some x).length =
      (ids.filterMap id).count x := by
    have hids := List.map_fst_zip hlength.le
    rw [← List.countP_eq_length_filter, List.count_filterMap]
    conv => rhs; rw [← hids, List.countP_map]
    rfl
  rw [hvalues]
  refine (List.length_filterMap_le _ _).trans ?_
  rw [hrows]
  exact List.nodup_iff_count_le_one.1 h x

theorem lastValue?_perm (h : (ids.filterMap id).Nodup) (hlength : ids.length = cells.length)
    (hperm : (ids'.zip cells').Perm (ids.zip cells))
    : lastValue? ids' cells' x = lastValue? ids cells x := by
  unfold lastValue?
  rw [eq_of_perm_of_length_le_one (hperm.filterMap _) (length_values_le_one h hlength)]

end Relevance

namespace Batch

variable {b b' result result' : Batch} {name : String} {ids ids' : Ranking} {cells : List Value}
  {c : Cells} {positions : List Nat} {scores scores' : List Binary}
  {relevance : Int → Except Failure Binary}

def SameButTies (b b' : Batch) : Prop :=
  ∃ (positions : List Nat) (scores : List Binary),
    positions.Perm (List.range b.rows)
      ∧ b' = b.gather positions
      ∧ b.cells relevanceColumn = .ok ⟨.float32, scores.map .real⟩
      ∧ ∀ (i j : Nat) (x y : Binary),
          positions[i]? = some j → scores[i]? = some x → scores[j]? = some y → x.Ties y

theorem numbers_eq_ok_iff
    : b.numbers name = .ok cells
        ↔
      ∃ c, b.cells name = .ok c ∧ c.type.isNumeric ∧ c.values = cells := by
  unfold numbers
  rw [Except.bind_eq_ok_iff]
  apply exists_congr
  intro c
  apply and_congr_right
  intro _
  split
  . next htype => simp [htype, Except.pure_eq_ok_iff]
  . next htype => exact iff_of_false Except.throw_ne_ok fun h => htype h.1

theorem scored_eq_ok_iff
    : b.scored name = .ok (ids, cells)
        ↔
      (b.rows = 0 ∧ ids = [] ∧ cells = [])
        ∨ (b.rows ≠ 0 ∧ b.rowIds = .ok ids
          ∧ ∃ c, b.cells name = .ok c ∧ c.type.isNumeric ∧ c.values = cells) := by
  unfold scored
  by_cases hrows : b.rows = 0
  . rw [if_pos hrows, Except.pure_eq_ok_iff, Prod.mk.injEq]
    constructor
    . rintro ⟨rfl, rfl⟩
      exact .inl ⟨hrows, rfl, rfl⟩
    . rintro (⟨_, rfl, rfl⟩ | ⟨hsome, _⟩)
      . exact ⟨rfl, rfl⟩
      . exact absurd hrows hsome
  . rw [if_neg hrows]
    simp only [Except.bind_eq_ok_iff, Except.pure_eq_ok_iff, Prod.mk.injEq, numbers_eq_ok_iff]
    constructor
    . rintro ⟨_, hids, _, hcells, rfl, rfl⟩
      exact .inr ⟨hrows, hids, hcells⟩
    . rintro (⟨hnone, _⟩ | ⟨_, hids, hcells⟩)
      . exact absurd hnone hrows
      . exact ⟨ids, hids, cells, hcells, rfl, rfl⟩

theorem DistinctIds.of_scored (hb : b.DistinctIds) (h : b.scored name = .ok (ids, cells))
    : (ids.filterMap id).Nodup ∧ ids.length = cells.length := by
  obtain ⟨_, rfl, rfl⟩ | ⟨_, hids, c, hc, _, rfl⟩ := scored_eq_ok_iff.1 h
  . exact ⟨.nil, rfl⟩
  . exact ⟨hb.nodup_filterMap hids, (length_of_rowIds hids).trans (length_of_cells hc).symm⟩

theorem Reordered.scored_eq_ok (h : b.Reordered b') (hb : b.scored name = .ok (ids, cells))
    : ∃ ids' cells', b'.scored name = .ok (ids', cells')
        ∧ (ids'.zip cells').Perm (ids.zip cells) := by
  obtain ⟨hrows, rfl, rfl⟩ | ⟨hrows, hids, c, hc, htype, rfl⟩ := scored_eq_ok_iff.1 hb
  . exact ⟨[], [], scored_eq_ok_iff.2 (.inl ⟨h.rows_eq.trans hrows, rfl, rfl⟩), .refl _⟩
  . rw [← h.rows_eq] at hrows
    obtain ⟨positions, hpositions, rfl⟩ := h
    refine ⟨_, _, scored_eq_ok_iff.2 (.inr ⟨hrows, rowIds_gather hids, _, cells_gather hc, htype,
      rfl⟩), ?_⟩
    have hpositions' : positions.Perm (List.range (ids.zip c.values).length) := by
      rwa [List.length_zip, length_of_rowIds hids, length_of_cells hc, Nat.min_self]
    have hzip : (positions.map (ids.getD · none)).zip (c.gather positions).values =
        positions.map ((ids.zip c.values).getD · (none, .null)) := by
      rw [Cells.values_gather, List.zip_map']
      apply List.map_congr_left
      intro i hi
      have hlt := lt_of_mem_positions hpositions' hi
      have hids := List.getElem?_eq_getElem hlt
      rw [List.getElem_zip, List.getElem?_zip_eq_some] at hids
      rw [List.getD_eq_getElem?_getD, List.getD_eq_getElem?_getD, List.getD_eq_getElem?_getD,
        List.getElem?_eq_getElem hlt, hids.1, hids.2, List.getElem_zip]
      rfl
    rw [hzip]
    exact map_getD_perm hpositions' _

theorem Reordered.exists_scoreAndSort (h : b.Reordered b')
    (hb : ∃ result, b.scoreAndSort relevance = .ok result)
    : ∃ result', b'.scoreAndSort relevance = .ok result' := by
  obtain ⟨ids, hids, hscores, hnames, hsupported⟩ := exists_scoreAndSort_iff.1 hb
  obtain ⟨ids', hids', hperm⟩ := h.rowIds_eq_ok hids
  refine exists_scoreAndSort_iff.2 ⟨ids', hids', ?_, ?_, ?_⟩
  . intro x hx
    exact hscores x (hperm.mem_iff.1 hx)
  . rwa [h.schema_eq]
  . rw [supported_iff] at hsupported ⊢
    rwa [h.rows_eq, h.schema_eq]

theorem reordered_sorted (h : b.cells name = .ok c)
    : b.Reordered (b.gather (descendingPositions c.values)) := by
  have hpositions := descendingPositions_perm c.values
  rw [length_of_cells h] at hpositions
  exact .of_perm hpositions

theorem Reordered.withScores (h : b.Reordered b') (hids : b.rowIds = .ok ids)
    (hids' : b'.rowIds = .ok ids') (score : Option Int → Binary)
    (hlength : (ids.map score).length = b.rows) (hlength' : (ids'.map score).length = b'.rows)
    (hnames : name ∉ b.schema.names)
    : (b.withScores name (ids.map score) hlength).Reordered
        (b'.withScores name (ids'.map score) hlength') := by
  obtain ⟨positions, hpositions, rfl⟩ := h
  cases (rowIds_gather hids).symm.trans hids'
  refine ⟨positions, ?_, eq_of_columns ?_ rfl⟩
  . rwa [← length_of_cells (cells_withScores_self hnames), List.length_map, hlength]
  . have hlt : ∀ i ∈ positions, i < ids.length := by
      intro i hi
      rw [length_of_rowIds hids]
      exact lt_of_mem_positions hpositions hi
    rw [columns_gather_withScores, map_getD_scores hlt]
    unfold Batch.withScores
    simp only [List.map_map]
    rfl

theorem map_getD_real (h : ∀ i ∈ positions, i < scores.length)
    : positions.map ((scores.map Value.real).getD · .null) =
        (positions.map (scores.getD · .zero)).map .real := by
  rw [List.map_map]
  apply List.map_congr_left
  intro i hi
  simp [List.getD_eq_getElem?_getD, h i hi]

theorem cells_sorted {hlength : scores.length = b.rows} (hnames : name ∉ b.schema.names)
    : ((b.withScores name scores hlength).gather
          (descendingPositions (scores.map .real))).cells name
        =
      .ok ⟨.float32,
        ((descendingPositions (scores.map .real)).map (scores.getD · .zero)).map .real⟩ := by
  rw [cells_gather (cells_withScores_self hnames)]
  unfold Cells.gather
  dsimp only
  rw [map_getD_real]
  intro i hi
  have hlt := lt_of_mem_positions (descendingPositions_perm _) hi
  rwa [List.length_map] at hlt

theorem Reordered.sameButTies (h : b.Reordered b')
    (hb : b.cells relevanceColumn = .ok ⟨.float32, scores.map .real⟩)
    (hb' : b'.cells relevanceColumn = .ok ⟨.float32, scores'.map .real⟩)
    (hscores : scores.Pairwise fun x y => (Value.real x).descends (.real y) = true)
    (hscores' : scores'.Pairwise fun x y => (Value.real x).descends (.real y) = true)
    : b.SameButTies b' := by
  obtain ⟨positions, hpositions, rfl⟩ := h
  have hlength : scores.length = b.rows := by
    rw [← length_of_cells hb, List.length_map]
  have hlt : ∀ i ∈ positions, i < scores.length := by
    intro i hi
    rw [hlength]
    exact lt_of_mem_positions hpositions hi
  have hmap : scores'.map Value.real = positions.map ((scores.map Value.real).getD · .null) :=
    (congrArg Cells.values (Except.ok.inj ((cells_gather hb).symm.trans hb'))).symm
  rw [map_getD_real hlt] at hmap
  have hreal : Function.Injective Value.real := fun _ _ heq => Value.real.inj heq
  have hsorted : scores' = positions.map (scores.getD · .zero) := hreal.list_map hmap
  subst hsorted
  have hties := Binary.ties_of_perm (map_getD_perm (hlength ▸ hpositions) .zero).symm hscores
    hscores'
  refine ⟨positions, scores, hpositions, rfl, hb, ?_⟩
  intro i j x y hi hx hy
  apply (List.forall₂_iff_zip.1 hties).2
  apply List.mem_of_getElem? (i := i)
  rw [List.getElem?_zip_eq_some]
  refine ⟨hx, ?_⟩
  rw [List.getElem?_map, hi, Option.map_some, List.getD_eq_getElem?_getD, hy]
  rfl

theorem sameButTies_of_scoreAndSort (h : b.Reordered b')
    (hrounded : ∀ id score, relevance id = .ok score → Format.single.convert score = score)
    (hb : b.scoreAndSort relevance = .ok result) (hb' : b'.scoreAndSort relevance = .ok result')
    : result.SameButTies result' := by
  obtain ⟨ids, hlength, hids, _, hnames, rfl⟩ := scoreAndSort_eq_ok hb hrounded
  obtain ⟨ids', hlength', hids', _, hnames', rfl⟩ := scoreAndSort_eq_ok hb' hrounded
  have hscored := h.withScores hids hids' (scoreOf relevance) hlength hlength' hnames
  have hreordered := ((reordered_sorted (cells_withScores_self hnames)).symm.trans hscored).trans
    (reordered_sorted (cells_withScores_self hnames'))
  exact hreordered.sameButTies (cells_sorted hnames) (cells_sorted hnames')
    (Binary.pairwise_sorted _) (Binary.pairwise_sorted _)

end Batch

namespace Reranker

variable {weight fill : Scalar} {vector vector' fts fts' : Batch}
  {relevance : Int → Except Failure Binary}

theorem linear_relevance_reordered (hvector : vector.DistinctIds) (hfts : fts.DistinctIds)
    (hvector' : vector.Reordered vector') (hfts' : fts.Reordered fts')
    (h : (linear weight fill).relevance vector fts = .ok relevance)
    : (linear weight fill).relevance vector' fts' = .ok relevance := by
  unfold Reranker.relevance at h ⊢
  obtain ⟨⟨vectorIds, distances⟩, hdistances, h⟩ := Except.bind_eq_ok_iff.1 h
  obtain ⟨⟨ftsIds, scores⟩, hscores, h⟩ := Except.bind_eq_ok_iff.1 h
  obtain ⟨vectorIds', distances', hdistances', hvectorPerm⟩ := hvector'.scored_eq_ok hdistances
  obtain ⟨ftsIds', scores', hscores', hftsPerm⟩ := hfts'.scored_eq_ok hscores
  obtain ⟨hvectorNodup, hvectorLength⟩ := hvector.of_scored hdistances
  obtain ⟨hftsNodup, hftsLength⟩ := hfts.of_scored hscores
  rw [hdistances', hscores']
  rw [Except.pure_eq_ok_iff] at h
  subst h
  refine Except.pure_eq_ok_iff.2 ?_
  funext x
  rw [Relevance.lastValue?_perm hvectorNodup hvectorLength hvectorPerm,
    Relevance.lastValue?_perm hftsNodup hftsLength hftsPerm]

theorem linear_reordered_eq_ok {result : Batch} (hvector : vector.DistinctIds)
    (hfts : fts.DistinctIds)
    (hvector' : vector.Reordered vector') (hfts' : fts.Reordered fts')
    (h : (linear weight fill).rerank vector fts = .ok result)
    : ∃ result', (linear weight fill).rerank vector' fts' = .ok result'
        ∧ result.SameButTies result' := by
  rw [rerank_eq] at h ⊢
  obtain ⟨relevance, hrelevance, h⟩ := Except.bind_eq_ok_iff.1 h
  obtain ⟨merged, hmerged, h⟩ := Except.bind_eq_ok_iff.1 h
  have hrelevance' := linear_relevance_reordered hvector hfts hvector' hfts' hrelevance
  obtain ⟨merged', hmerged', hreordered⟩ :=
    Batch.exists_merge_of_reordered hvector' hfts' hfts hmerged
  obtain ⟨result', h'⟩ := hreordered.exists_scoreAndSort ⟨result, h⟩
  rw [hrelevance', hmerged']
  exact ⟨result', h', Batch.sameButTies_of_scoreAndSort hreordered
    (fun _ _ => convert_of_relevance hrelevance) h h'⟩

/--
Linear fusion takes no notice of the order of the rows on either side: reordered sides without
repeated identifiers are fused exactly if the sides themselves are, and to the same rows, of which
equally relevant ones only may change their places.
-/
theorem linear_rerank_reordered (hvector : vector.DistinctIds) (hfts : fts.DistinctIds)
    (hvector' : vector.Reordered vector') (hfts' : fts.Reordered fts')
    : ((∃ result, (linear weight fill).rerank vector fts = .ok result)
          ↔
        ∃ result', (linear weight fill).rerank vector' fts' = .ok result')
      ∧ ∀ result result', (linear weight fill).rerank vector fts = .ok result →
          (linear weight fill).rerank vector' fts' = .ok result' →
          result.SameButTies result' := by
  refine ⟨⟨?_, ?_⟩, ?_⟩
  . rintro ⟨result, h⟩
    obtain ⟨result', h', _⟩ := linear_reordered_eq_ok hvector hfts hvector' hfts' h
    exact ⟨result', h'⟩
  . rintro ⟨result', h'⟩
    obtain ⟨result, h, _⟩ := linear_reordered_eq_ok (hvector'.distinctIds hvector)
      (hfts'.distinctIds hfts) hvector'.symm hfts'.symm h'
    exact ⟨result, h⟩
  . intro result result' h h'
    obtain ⟨other, hother, hsame⟩ := linear_reordered_eq_ok hvector hfts hvector' hfts' h
    cases hother.symm.trans h'
    exact hsame

theorem distinctIds_measuredSample {column : String} {rows : List (Int × Binary)}
    (hcolumn : column ≠ rowIdColumn) (h : (rows.map (·.1)).Nodup)
    : (measuredSample column rows).DistinctIds := by
  intro c hc hname
  obtain rfl | hc := List.mem_cons.1 hc
  . apply List.Nodup.filter
    have hints := h.map fun _ _ => Value.int.inj
    rwa [List.map_map] at hints
  . cases List.mem_singleton.1 hc
    exact absurd hname hcolumn

/-- Two rows of the vector side are equally far, and one of them matches the text. -/
theorem linear_rerank_reordered_sample
    : let vector := measuredSample distanceColumn [(1, .zero), (2, .one), (3, .one)]
      let fts := measuredSample scoreColumn [(2, .zero), (4, .one)]
      vector.DistinctIds
        ∧ fts.DistinctIds
        ∧ vector.Reordered (vector.gather [2, 0, 1])
        ∧ fts.Reordered (fts.gather [1, 0])
        ∧ ∃ result result',
            (linear (.int 1) (.int 0)).rerank vector fts = .ok result
              ∧ (linear (.int 1) (.int 0)).rerank (vector.gather [2, 0, 1]) (fts.gather [1, 0])
                = .ok result'
              ∧ result.SameButTies result' := by
  intro vector fts
  have hvector : vector.DistinctIds := distinctIds_measuredSample (by decide) (by decide)
  have hfts : fts.DistinctIds := distinctIds_measuredSample (by decide) (by decide)
  have hvector' : vector.Reordered (vector.gather [2, 0, 1]) := .of_perm (by decide)
  have hfts' : fts.Reordered (fts.gather [1, 0]) := .of_perm (by decide)
  obtain ⟨result, h⟩ : ∃ result, (linear (.int 1) (.int 0)).rerank vector fts = .ok result :=
    exists_rerank (relevance_linear rfl rfl rfl rfl) rfl rfl (fun _ _ => ⟨_, rfl⟩) (by decide)
      (by decide)
  obtain ⟨hiff, hsame⟩ := @linear_rerank_reordered (.int 1) (.int 0) _ _ _ _ hvector hfts hvector'
    hfts'
  obtain ⟨result', h'⟩ := hiff.1 ⟨result, h⟩
  exact ⟨hvector, hfts, hvector', hfts', result, result', h, h', hsame result result' h h'⟩

end Reranker

end RankFusion
