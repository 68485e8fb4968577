import RankFusion.Proofs.Rerank.Formula
import RankFusion.Proofs.Rerank.Ranking

/-!
This module contains what a strategy finds in the tables that it fills row by row: the formulas of
the relevance, and no gaps. Every identifier of a merge comes from one of the two sides, so none is
looked up in vain.
-/

namespace RankFusion

namespace Ranking

variable {ids : Ranking} {id : Int}

theorem positions_eq_nil_iff : ids.positions id = [] ↔ some id ∉ ids := by
  unfold positions
  rw [List.filterMap_eq_nil_iff]
  constructor
  . intro h hmem
    obtain ⟨i, hi⟩ := List.mem_iff_getElem?.1 hmem
    have hnone := h (some id, i) (List.mk_mem_zipIdx_iff_getElem?.2 hi)
    simp at hnone
  . rintro h ⟨x, i⟩ hx
    have hne : x ≠ some id := by
      rintro rfl
      exact h (List.fst_mem_of_mem_zipIdx hx)
    exact if_neg hne

end Ranking

namespace ScoreTable

variable {t : ScoreTable} {rows : List (Int × Binary)} {id y : Int} {x : Binary}

def numbersOf (rows : List (Int × Binary)) (id : Int) : List Binary :=
  rows.filterMap fun (y, x) => if y = id then some x else none

theorem numbersOf_cons_self : numbersOf ((id, x) :: rows) id = x :: numbersOf rows id := by
  simp [numbersOf]

theorem numbersOf_cons_of_ne (h : y ≠ id)
    : numbersOf ((y, x) :: rows) id = numbersOf rows id := by
  simp [numbersOf, h]

theorem lookup_insert : (insert id x t).lookup y = if y = id then some x else t.lookup y := by
  induction t with
  | nil =>
    unfold insert
    by_cases hy : y = id
    . simp [hy]
    . simp [hy]
  | cons e t ih =>
    obtain ⟨z, w⟩ := e
    unfold insert
    by_cases hyz : y = z
    . subst hyz
      by_cases hy : y = id
      . simp [hy]
      . simp [hy]
    . have hbeq : (y == z) = false := by simpa using hyz
      by_cases hz : z = id
      . subst hz
        simp [List.lookup_cons, hbeq, hyz]
      . simp [List.lookup_cons, hbeq, hz, ih]

theorem lookup_enterAll
    : (t.enterAll rows).lookup id = (numbersOf rows id).getLast?.or (t.lookup id) := by
  induction rows generalizing t with
  | nil => rfl
  | cons row rows ih =>
    obtain ⟨y, x⟩ := row
    have hstep : t.enterAll ((y, x) :: rows) = (insert y x t).enterAll rows := rfl
    rw [hstep, ih, lookup_insert]
    by_cases hy : y = id
    . subst hy
      rw [numbersOf_cons_self, List.getLast?_cons, if_pos rfl]
      cases (numbersOf rows y).getLast? <;> rfl
    . rw [numbersOf_cons_of_ne hy, if_neg (Ne.symm hy)]

theorem lookup_addAll
    : (t.addAll rows).lookup id =
        (numbersOf rows id).foldl (fun s x => some (Format.single.add (s.getD .zero) x))
          (t.lookup id) := by
  induction rows generalizing t with
  | nil => rfl
  | cons row rows ih =>
    obtain ⟨y, x⟩ := row
    have hstep : t.addAll ((y, x) :: rows) =
        (insert y (Format.single.add (t.getOrZero y) x) t).addAll rows := rfl
    rw [hstep, ih, lookup_insert]
    by_cases hy : y = id
    . subst hy
      rw [numbersOf_cons_self, if_pos rfl]
      rfl
    . rw [numbersOf_cons_of_ne hy, if_neg (Ne.symm hy)]

theorem foldl_add_some {xs : List Binary} {s : Option Binary} (h : xs ≠ [])
    : xs.foldl (fun s x => some (Format.single.add (s.getD .zero) x)) s =
        some (xs.foldl Format.single.add (s.getD .zero)) := by
  induction xs generalizing s with
  | nil => exact absurd rfl h
  | cons x xs ih =>
    cases xs with
    | nil => rfl
    | cons y ys => exact ih (List.cons_ne_nil y ys)

variable {ids vector fts : Ranking} {share : Nat → Binary} {k weightVector weightFts : Binary}

theorem numbersOf_shares : numbersOf (ids.shares share) id = (ids.positions id).map share := by
  unfold numbersOf Ranking.shares Ranking.positions
  rw [List.filterMap_filterMap, List.map_filterMap]
  congr 1
  funext ⟨y, rank⟩
  cases y with
  | none => rfl
  | some y =>
    by_cases hy : y = id
    . simp [hy]
    . simp [hy]

theorem numbersOf_measures (cells : List Value)
    : (numbersOf (ids.measures cells) id).getLast? = Relevance.lastValue? ids cells id := by
  unfold numbersOf Ranking.measures Relevance.lastValue?
  rw [List.filterMap_filterMap]
  congr 2
  funext ⟨y, v⟩
  cases y with
  | none => rfl
  | some y =>
    by_cases hy : y = id
    . cases hv : Relevance.ofCell? v with
      | none => simp [hy, hv]
      | some x => simp [hy, hv]
    . cases hv : Relevance.ofCell? v with
      | none => simp [hv]
      | some x => simp [hy, hv]

theorem lookup_ofCells (cells : List Value)
    : (ofCells ids cells).lookup id = Relevance.lastValue? ids cells id := by
  unfold ofCells
  rw [lookup_enterAll, numbersOf_measures]
  exact Option.or_none

theorem lookup_ofRanks
    : (ofRanks ids).lookup id = (ids.positions id).getLast?.map Relevance.rankShare := by
  unfold ofRanks
  rw [lookup_enterAll, numbersOf_shares, List.getLast?_map]
  exact Option.or_none

theorem getOrZero_ofRanks : (ofRanks ids).getOrZero id = Relevance.reciprocalRank ids id := by
  unfold getOrZero Relevance.reciprocalRank
  rw [lookup_ofRanks]
  cases (ids.positions id).getLast? <;> rfl

theorem get_ofShares (h : some id ∈ vector ∨ some id ∈ fts)
    : (ofShares k vector fts).get id = .ok (Relevance.reciprocalRankFusion k vector fts id) := by
  have hne : (vector.positions id ++ fts.positions id).map (Relevance.fusionShare k) ≠ [] := by
    rw [ne_eq, List.map_eq_nil_iff, List.append_eq_nil_iff, Ranking.positions_eq_nil_iff,
      Ranking.positions_eq_nil_iff]
    tauto
  unfold ScoreTable.get ofShares Relevance.reciprocalRankFusion
  rw [lookup_addAll, lookup_addAll, ← List.foldl_append, numbersOf_shares, numbersOf_shares,
    ← List.map_append, foldl_add_some hne]
  rfl

theorem exists_mem_ofRanks (h : some id ∈ ids) : ∃ x, (id, x) ∈ ofRanks ids := by
  have hlookup : (ofRanks ids).lookup id ≠ none := by
    rw [lookup_ofRanks, ne_eq, Option.map_eq_none_iff, List.getLast?_eq_none_iff,
      Ranking.positions_eq_nil_iff]
    exact not_not.2 h
  rw [ne_eq, List.lookup_eq_none_iff] at hlookup
  push Not at hlookup
  obtain ⟨⟨y, x⟩, hmem, hy⟩ := hlookup
  have heq : id = y := by simpa using hy
  exact ⟨x, heq ▸ hmem⟩

theorem mem_numbersOf_keys {entries : ScoreTable} {score : Int → Binary}
    : x ∈ numbersOf (entries.map fun (y, _) => (y, score y)) id
        ↔
      (∃ z, (id, z) ∈ entries) ∧ x = score id := by
  simp only [numbersOf, List.mem_filterMap, List.mem_map, Prod.exists]
  constructor
  . rintro ⟨_, _, ⟨y, z, hmem, heq⟩, hx⟩
    cases heq
    split at hx
    . next hy =>
      subst hy
      cases hx
      exact ⟨⟨z, hmem⟩, rfl⟩
    . cases hx
  . rintro ⟨⟨z, hmem⟩, rfl⟩
    exact ⟨id, score id, ⟨id, z, hmem, rfl⟩, if_pos rfl⟩

theorem getLast?_numbersOf_keys {entries : ScoreTable} (score : Int → Binary)
    (h : ∃ z, (id, z) ∈ entries)
    : (numbersOf (entries.map fun (y, _) => (y, score y)) id).getLast? = some (score id) := by
  have hmem := (mem_numbersOf_keys (x := score id)).2 ⟨h, rfl⟩
  cases hlast : (numbersOf (entries.map fun (y, _) => (y, score y)) id).getLast? with
  | none =>
    rw [List.getLast?_eq_none_iff] at hlast
    rw [hlast] at hmem
    cases hmem
  | some x => rw [(mem_numbersOf_keys.1 (List.mem_of_getLast? hlast)).2]

theorem lookup_weigh {v f : ScoreTable} (h : ∃ x, (id, x) ∈ v ++ f)
    : (weigh weightVector weightFts v f).lookup id =
        some (Relevance.weightedSum weightVector weightFts (v.getOrZero id) (f.getOrZero id)) := by
  unfold weigh
  rw [lookup_enterAll, getLast?_numbersOf_keys (fun y =>
    Relevance.weightedSum weightVector weightFts (v.getOrZero y) (f.getOrZero y)) h]
  rfl

theorem get_weigh (h : some id ∈ vector ∨ some id ∈ fts)
    : (weigh weightVector weightFts (ofRanks vector) (ofRanks fts)).get id =
        .ok (Relevance.meanReciprocalRank weightVector weightFts vector fts id) := by
  have hkey : ∃ x, (id, x) ∈ ofRanks vector ++ ofRanks fts := by
    cases h with
    | inl h =>
      obtain ⟨x, hx⟩ := exists_mem_ofRanks h
      exact ⟨x, List.mem_append_left _ hx⟩
    | inr h =>
      obtain ⟨x, hx⟩ := exists_mem_ofRanks h
      exact ⟨x, List.mem_append_right _ hx⟩
  unfold ScoreTable.get Relevance.meanReciprocalRank
  rw [lookup_weigh hkey, getOrZero_ofRanks, getOrZero_ofRanks]
  rfl

end ScoreTable

namespace Batch

variable {b vector fts : Batch}

theorem scoreAndSort_congr {score relevance : Int → Except Failure Binary}
    (h : ∀ ids, b.rowIds = .ok ids → ∀ x, some x ∈ ids → score x = relevance x)
    : b.scoreAndSort score = b.scoreAndSort relevance := by
  unfold scoreAndSort
  apply Except.bind_congr_of_ok
  intro ids hids
  congr 1
  apply List.mapM_congr_of_mem
  intro x hx
  cases x with
  | none => rfl
  | some x => exact h ids hids x hx

end Batch

namespace Reranker

variable {vector fts : Batch}

theorem rerank_eq (r : Reranker)
    : r.rerank vector fts = (do
        let relevance ← r.relevance vector fts
        let merged ← vector.merge fts
        merged.scoreAndSort relevance) := by
  unfold rerank scoring relevance
  cases r with
  | rrf k =>
    simp only [bind_assoc, pure_bind]
    apply Except.bind_congr_of_ok
    intro k _
    apply Except.bind_congr_of_ok
    intro vectorIds hvector
    apply Except.bind_congr_of_ok
    intro ftsIds hfts
    apply Except.bind_congr_of_ok
    intro merged hmerged
    apply Batch.scoreAndSort_congr
    intro ids hids x hx
    rw [Batch.ids_eq_mergedIds hvector hfts hmerged hids, Ranking.mem_mergedIds] at hx
    exact ScoreTable.get_ofShares hx
  | linear weight fill =>
    simp only [ScoreTable.lookup_ofCells, bind_assoc, pure_bind]
  | mrr weightVector weightFts =>
    simp only [bind_assoc, pure_bind]
    apply Except.bind_congr_of_ok
    intro vectorIds hvector
    apply Except.bind_congr_of_ok
    intro ftsIds hfts
    apply Except.bind_congr_of_ok
    intro _ _
    apply Except.bind_congr_of_ok
    intro _ _
    apply Except.bind_congr_of_ok
    intro merged hmerged
    apply Batch.scoreAndSort_congr
    intro ids hids x hx
    rw [Batch.ids_eq_mergedIds hvector hfts hmerged hids, Ranking.mem_mergedIds] at hx
    exact ScoreTable.get_weigh hx

end Reranker

end RankFusion
