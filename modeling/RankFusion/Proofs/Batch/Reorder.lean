import Mathlib.Data.List.Nodup
import RankFusion.Proofs.Batch.Distinct
import RankFusion.Proofs.Batch.Sort

/-!
This module contains batches with the same rows in any order. If no side repeats an identifier, the
merge of reordered sides is the merge of the sides, reordered.
-/

namespace RankFusion

section Positions

variable {α : Type} {positions : List Nat} {n : Nat}

theorem eq_of_perm_of_length_le_one {xs ys : List α} (h : xs.Perm ys)
    (hlength : ys.length ≤ 1)
    : xs = ys := by
  match ys with
  | [] => exact h.eq_nil
  | [y] => exact List.perm_singleton.1 h
  | _ :: _ :: _ =>
    rw [List.length_cons, List.length_cons] at hlength
    omega

theorem map_getD_range (xs : List α) (d : α)
    : (List.range xs.length).map (xs.getD · d) = xs := by
  apply List.ext_getElem
  . simp
  . intro i _ hi
    simp [hi]

theorem map_getD_perm {xs : List α} (h : positions.Perm (List.range xs.length)) (d : α)
    : (positions.map (xs.getD · d)).Perm xs := by
  have hmap := h.map (xs.getD · d)
  rwa [map_getD_range] at hmap

theorem lt_of_mem_positions (h : positions.Perm (List.range n)) {i : Nat} (hi : i ∈ positions)
    : i < n :=
  List.mem_range.1 (h.mem_iff.1 hi)

theorem length_positions (h : positions.Perm (List.range n)) : positions.length = n := by
  rw [h.length_eq, List.length_range]

theorem nodup_positions (h : positions.Perm (List.range n)) : positions.Nodup :=
  h.symm.nodup List.nodup_range

theorem map_idxOf {xs : List Nat} (h : xs.Nodup) : xs.map xs.idxOf = List.range xs.length := by
  apply List.ext_getElem
  . simp
  . intro i hi _
    rw [List.length_map] at hi
    simp [h.idxOf_getElem i hi]

theorem exists_inverse (h : positions.Perm (List.range n))
    : ∃ inverse : List Nat,
        inverse.Perm (List.range n) ∧ inverse.map (positions.getD · 0) = List.range n := by
  refine ⟨(List.range n).map positions.idxOf, ?_, ?_⟩
  . have hplaces := h.symm.map positions.idxOf
    rwa [map_idxOf (nodup_positions h), length_positions h] at hplaces
  . rw [List.map_map]
    conv => rhs; rw [← List.map_id (List.range n)]
    apply List.map_congr_left
    intro i hi
    rw [Function.comp_apply, List.getD_eq_getElem?_getD, List.getElem?_idxOf (h.mem_iff.2 hi)]
    rfl

theorem getD_map_getD (xs : List α) (d : α) {j : Nat} (hj : j < positions.length)
    : (positions.map (xs.getD · d)).getD j d = xs.getD (positions.getD j 0) d := by
  simp [List.getD_eq_getElem?_getD, hj]

end Positions

namespace unseenPositions

variable {seen seen' : List Int} {ids : List (Option Int)} {positions : List Nat}

theorem mem_iff_of_nodup (h : (ids.filterMap id).Nodup) {j : Nat}
    : j ∈ unseenPositions seen ids ↔ ∃ x, ids[j]? = some (some x) ∧ x ∉ seen := by
  rw [mem_unseenPositions]
  apply exists_congr
  intro x
  apply and_congr_right
  intro hx
  apply and_iff_left
  intro hbefore
  rw [← List.take_append_drop j ids, List.filterMap_append, List.nodup_append] at h
  have hbehind : some x ∈ ids.drop j := by
    apply List.mem_of_getElem? (i := 0)
    rw [List.getElem?_drop]
    exact hx
  exact h.2.2 x (List.mem_filterMap.2 ⟨_, hbefore, rfl⟩) x (List.mem_filterMap.2 ⟨_, hbehind, rfl⟩)
    rfl

theorem lt_of_mem {j : Nat} (h : j ∈ unseenPositions seen ids) : j < ids.length := by
  obtain ⟨_, hx, _⟩ := mem_unseenPositions.1 h
  exact (List.getElem?_eq_some_iff.1 hx).1

theorem getElem?_eq_some_of_getD {x : Int} {i : Nat} (h : ids.getD i none = some x)
    : ids[i]? = some (some x) := by
  rw [List.getD_eq_getElem?_getD] at h
  cases hget : ids[i]? with
  | none =>
    rw [hget] at h
    cases h
  | some y =>
    rw [hget] at h
    exact congrArg some h

theorem perm (h : (ids.filterMap id).Nodup) (hseen : ∀ x, x ∈ seen' ↔ x ∈ seen)
    (hpositions : positions.Perm (List.range ids.length))
    : ((unseenPositions seen' (positions.map (ids.getD · none))).map (positions.getD · 0)).Perm
        (unseenPositions seen ids) := by
  have hids : ((positions.map (ids.getD · none)).filterMap id).Nodup :=
    (((map_getD_perm hpositions none).filterMap id).nodup_iff).2 h
  rw [List.perm_ext_iff_of_nodup _ ((pairwise_unseenPositions seen ids).imp Nat.ne_of_lt)]
  . intro i
    rw [List.mem_map, mem_iff_of_nodup h]
    constructor
    . rintro ⟨j, hj, rfl⟩
      obtain ⟨x, hx, hnew⟩ := (mem_iff_of_nodup hids).1 hj
      rw [List.getElem?_map, Option.map_eq_some_iff] at hx
      obtain ⟨i, hi, hx⟩ := hx
      rw [List.getD_eq_getElem?_getD, hi, Option.getD_some]
      exact ⟨x, getElem?_eq_some_of_getD hx, fun hold => hnew ((hseen x).2 hold)⟩
    . rintro ⟨x, hx, hnew⟩
      have hi : i < ids.length := (List.getElem?_eq_some_iff.1 hx).1
      obtain ⟨j, hj⟩ := List.mem_iff_getElem?.1 (hpositions.mem_iff.2 (List.mem_range.2 hi))
      refine ⟨j, (mem_iff_of_nodup hids).2 ⟨x, ?_, fun hold => hnew ((hseen x).1 hold)⟩, ?_⟩
      . rw [List.getElem?_map, hj, Option.map_some, List.getD_eq_getElem?_getD, hx]
        rfl
      . rw [List.getD_eq_getElem?_getD, hj]
        rfl
  . apply List.Nodup.map_on _ ((pairwise_unseenPositions _ _).imp Nat.ne_of_lt)
    intro j hj k hk heq
    have hj' := lt_of_mem hj
    have hk' := lt_of_mem hk
    rw [List.length_map] at hj' hk'
    simp only [List.getD_eq_getElem?_getD, List.getElem?_eq_getElem hj',
      List.getElem?_eq_getElem hk', Option.getD_some] at heq
    exact (nodup_positions hpositions).getElem_inj_iff.1 heq

end unseenPositions

namespace Cells

variable {c : Cells} {positions q : List Nat}

theorem type_adopt_gather (t : ColumnType)
    : ((c.gather positions).adopt t).type = (c.adopt t).type := by
  unfold adopt gather
  dsimp only
  split
  . rfl
  . rfl

theorem cell_gather {i : Nat} (hi : i < positions.length)
    : (c.gather positions).cell i = c.cell (positions.getD i 0) := by
  unfold cell gather
  dsimp only
  rw [getD_map_getD c.values .null hi]

theorem map_cell_gather
    : (List.range positions.length).map (c.gather positions).cell = positions.map c.cell := by
  apply List.ext_getElem
  . simp
  . intro i hi _
    rw [List.length_map, List.length_range] at hi
    simp [cell_gather hi, hi]

theorem gather_range (c : Cells) : c.gather (List.range c.values.length) = c :=
  congrArg (Cells.mk c.type) (map_getD_range c.values .null)

theorem gather_gather (c : Cells) (h : ∀ i ∈ q, i < positions.length)
    : (c.gather positions).gather q = c.gather (q.map (positions.getD · 0)) := by
  unfold gather
  rw [mk.injEq, List.map_map]
  refine ⟨rfl, List.map_congr_left ?_⟩
  intro i hi
  exact getD_map_getD c.values .null (h i hi)

end Cells

namespace Column

theorem gather_range (c : Column) : c.gather (List.range c.values.length) = c :=
  congrArg (fun cells : Cells => Column.mk c.field cells.values) (c.cells.gather_range)

theorem gather_gather (c : Column) {p q : List Nat} (h : ∀ i ∈ q, i < p.length)
    : (c.gather p).gather q = c.gather (q.map (p.getD · 0)) :=
  congrArg (fun cells : Cells => Column.mk c.field cells.values) (c.cells.gather_gather h)

end Column

namespace Batch

variable {b b' b'' vector vector' fts fts' merged : Batch}
  {ids vectorIds ftsIds : List (Option Int)} {positions p q kept kept' : List Nat}

def Reordered (b b' : Batch) : Prop :=
  ∃ positions : List Nat, positions.Perm (List.range b.rows) ∧ b' = b.gather positions

section Gather

theorem rows_gather (h : positions.Perm (List.range b.rows))
    : (b.gather positions).rows = b.rows := by
  have hlength := length_positions h
  unfold rows rowCount at hlength ⊢
  unfold gather
  dsimp only
  cases hcolumns : b.columns with
  | nil => rfl
  | cons c columns =>
    rw [hcolumns] at hlength
    rw [← hlength, List.map_cons]
    exact Column.length_values_gather c positions

theorem gather_range : b.gather (List.range b.rows) = b := by
  refine eq_of_columns ?_ rfl
  conv => rhs; rw [← List.map_id b.columns]
  apply List.map_congr_left
  intro c hc
  rw [← length_values_of_mem hc]
  exact c.gather_range

theorem gather_gather (h : ∀ i ∈ q, i < p.length)
    : (b.gather p).gather q = b.gather (q.map (p.getD · 0)) := by
  refine eq_of_columns ?_ rfl
  unfold gather
  dsimp only
  rw [List.map_map]
  apply List.map_congr_left
  intro c _
  exact c.gather_gather h

end Gather

namespace Reordered

theorem of_perm (h : positions.Perm (List.range b.rows)) : b.Reordered (b.gather positions) :=
  ⟨positions, h, rfl⟩

theorem refl (b : Batch) : b.Reordered b := ⟨List.range b.rows, .refl _, gather_range.symm⟩

theorem symm (h : b.Reordered b') : b'.Reordered b := by
  obtain ⟨positions, hpositions, rfl⟩ := h
  obtain ⟨inverse, hinverse, hundone⟩ := exists_inverse hpositions
  refine ⟨inverse, ?_, ?_⟩
  . rwa [rows_gather hpositions]
  . rw [gather_gather, hundone, gather_range]
    intro i hi
    rw [length_positions hpositions]
    exact lt_of_mem_positions hinverse hi

theorem trans (h : b.Reordered b') (h' : b'.Reordered b'') : b.Reordered b'' := by
  obtain ⟨p, hp, rfl⟩ := h
  obtain ⟨q, hq, rfl⟩ := h'
  rw [rows_gather hp, ← length_positions hp] at hq
  exact ⟨_, (map_getD_perm hq 0).trans hp, gather_gather fun i => lt_of_mem_positions hq⟩

theorem rows_eq (h : b.Reordered b') : b'.rows = b.rows := by
  obtain ⟨positions, hpositions, rfl⟩ := h
  exact rows_gather hpositions

theorem schema_eq (h : b.Reordered b') : b'.schema = b.schema := by
  obtain ⟨positions, _, rfl⟩ := h
  exact schema_gather positions

theorem rowIds_eq_ok (h : b.Reordered b') (hids : b.rowIds = .ok ids)
    : ∃ ids', b'.rowIds = .ok ids' ∧ ids'.Perm ids := by
  obtain ⟨positions, hpositions, rfl⟩ := h
  rw [← length_of_rowIds hids] at hpositions
  exact ⟨_, rowIds_gather hids, map_getD_perm hpositions none⟩

theorem distinctIds (h : b.Reordered b') (hb : b.DistinctIds) : b'.DistinctIds := by
  obtain ⟨positions, hpositions, rfl⟩ := h
  intro c hc hname
  obtain ⟨d, hd, rfl⟩ := List.mem_map.1 hc
  rw [← length_values_of_mem hd] at hpositions
  exact (((map_getD_perm hpositions Value.null).filter _).nodup_iff).2 (hb d hd hname)

end Reordered

theorem DistinctIds.nodup_filterMap (hb : b.DistinctIds) (hids : b.rowIds = .ok ids)
    : (ids.filterMap id).Nodup := by
  obtain ⟨_, hcells, _, rfl⟩ := rowIds_eq_ok_iff.1 hids
  obtain ⟨_, c, hc, hname, rfl⟩ := cells_eq_ok_iff.1 hcells
  have hpresent : c.values.filterMap integer? =
      (c.values.filter fun v => !v.isNull).filterMap integer? := by
    rw [List.filterMap_filter]
    apply List.filterMap_congr
    intro v _
    cases v <;> rfl
  rw [List.filterMap_map]
  change (c.values.filterMap integer?).Nodup
  rw [hpresent]
  apply (hb c hc hname).filterMap
  intro v w x hv hw
  rw [eq_int_of_integer? hv, eq_int_of_integer? hw]

section Merge

def mergedPositions (p q kept kept' : List Nat) : List Nat :=
  p ++ kept'.map fun j => p.length + kept.idxOf (q.getD j 0)

theorem mergedPositions_perm (hp : p.Perm (List.range vector.rows))
    (hkept : (kept'.map (q.getD · 0)).Perm kept) (hnodup : kept.Nodup)
    : (mergedPositions p q kept kept').Perm (List.range (vector.rows + kept.length)) := by
  have hplaces : (kept'.map fun j => p.length + kept.idxOf (q.getD j 0)).Perm
      ((List.range kept.length).map (vector.rows + ·)) := by
    have hmap := (hkept.map kept.idxOf).map (vector.rows + ·)
    rw [map_idxOf hnodup, List.map_map, List.map_map] at hmap
    rw [length_positions hp]
    exact hmap
  rw [List.range_add]
  exact hp.append hplaces

theorem map_mergedPositions {n : Nat} (hp : p.Perm (List.range n))
    (hkept : (kept'.map (q.getD · 0)).Perm kept) (first second : Nat → Value)
    : (mergedPositions p q kept kept').map
          (((List.range n).map first ++ kept.map second).getD · .null) =
        p.map first ++ kept'.map fun j => second (q.getD j 0) := by
  unfold mergedPositions
  rw [List.map_append, List.map_map]
  congr 1
  . apply List.map_congr_left
    intro i hi
    simp [List.getD_eq_getElem?_getD, List.getElem?_append, lt_of_mem_positions hp hi]
  . apply List.map_congr_left
    intro j hj
    have hmem : q.getD j 0 ∈ kept := hkept.mem_iff.1 (List.mem_map_of_mem hj)
    rw [Function.comp_apply, length_positions hp, List.getD_eq_getElem?_getD,
      List.getElem?_append_right (by simp), List.length_map, List.length_range,
      Nat.add_sub_cancel_left, List.getElem?_map, List.getElem?_idxOf hmem]
    rfl

theorem mergeColumn_gather {f : Field} {column : Column}
    (hp : p.Perm (List.range vector.rows)) (hq : q.Perm (List.range fts.rows))
    (hkept : (kept'.map (q.getD · 0)).Perm kept) (hinside : ∀ j ∈ kept', j < fts.rows)
    (h : mergeColumn vector fts kept f = .ok column)
    : mergeColumn (vector.gather p) (fts.gather q) kept' f =
        .ok (column.gather (mergedPositions p q kept kept')) := by
  obtain ⟨first, second, cells, hfirst, hsecond, hcells, rfl⟩ := mergeColumn_eq_ok_iff.1 h
  obtain ⟨hsupported, htypes, hns, hms, rfl⟩ := Cells.concat_eq_ok_iff.1 hcells
  refine mergeColumn_eq_ok_iff.2 ⟨_, _, _, cells_gather hfirst, cells_gather hsecond,
    Cells.concat_eq_ok_iff.2 ⟨hsupported, ?_, ?_, ?_, rfl⟩, ?_⟩
  . rwa [Cells.type_adopt_gather, Cells.type_adopt_gather]
  . intro n hn
    rw [rows_gather hp, List.mem_range] at hn
    rwa [Cells.size_gather, length_positions hp]
  . intro m hm
    rw [Cells.size_gather, length_positions hq]
    exact hinside m hm
  . have hrows : (vector.gather p).rows = p.length := by
      rw [rows_gather hp, length_positions hp]
    unfold Column.gather
    rw [Cells.values_gather]
    refine congrArg (Column.mk f) ?_
    rw [hrows, Cells.map_cell_gather]
    refine Eq.trans ?_ (map_mergedPositions hp hkept first.cell second.cell).symm
    refine congrArg (p.map first.cell ++ ·) (List.map_congr_left ?_)
    intro j hj
    exact Cells.cell_gather (length_positions hq ▸ hinside j hj)

theorem mergeRows_gather (hp : p.Perm (List.range vector.rows)) (hq : q.Perm (List.range fts.rows))
    (hfts : fts.DistinctIds) (h : mergeRows vector fts = .ok merged)
    : ∃ positions : List Nat,
        positions.Perm (List.range merged.rows)
          ∧ mergeRows (vector.gather p) (fts.gather q) = .ok (merged.gather positions) := by
  obtain ⟨s, vectorIds, ftsIds, hs, hvectorIds, hftsIds, hcolumns, hmetadata⟩ :=
    mergeRows_eq_ok_iff.1 h
  have hrows : merged.rows =
      vector.rows + (unseenPositions (vectorIds.filterMap id) ftsIds).length := by
    obtain ⟨_, _, hvectorIds', hftsIds', hmerge⟩ := mergeOf_of_mergeRows h
    cases hvectorIds.symm.trans hvectorIds'
    cases hftsIds.symm.trans hftsIds'
    exact hmerge.rows_eq hvectorIds hftsIds
  have hvectorIds' := @rowIds_gather _ p _ hvectorIds
  have hftsIds' := @rowIds_gather _ q _ hftsIds
  have hseen : ∀ x, x ∈ (p.map (vectorIds.getD · none)).filterMap id ↔
      x ∈ vectorIds.filterMap id := by
    intro x
    rw [← length_of_rowIds hvectorIds] at hp
    exact ((map_getD_perm hp none).filterMap id).mem_iff
  have hkept := unseenPositions.perm (hfts.nodup_filterMap hftsIds) hseen
    (length_of_rowIds hftsIds ▸ hq)
  have hpositions :=
    mergedPositions_perm hp hkept ((pairwise_unseenPositions _ _).imp Nat.ne_of_lt)
  rw [← hrows] at hpositions
  refine ⟨_, hpositions, mergeRows_eq_ok_iff.2 ⟨s, _, _, ?_, hvectorIds', hftsIds', ?_, hmetadata⟩⟩
  . rw [schema_gather, schema_gather]
    exact hs
  . unfold gather
    dsimp only
    rw [List.forall₂_map_right_iff]
    refine hcolumns.imp fun f column hcolumn => mergeColumn_gather hp hq hkept ?_ hcolumn
    have hinside := lt_rows_of_unseenPositions hftsIds'
      ((p.map (vectorIds.getD · none)).filterMap id)
    rwa [rows_gather hq] at hinside

end Merge

theorem exists_merge_of_reordered (hvector : vector.Reordered vector') (hfts : fts.Reordered fts')
    (hdistinct : fts.DistinctIds) (h : vector.merge fts = .ok merged)
    : ∃ merged', vector'.merge fts' = .ok merged' ∧ merged.Reordered merged' := by
  have hvectorRows := hvector.rows_eq
  have hftsRows := hfts.rows_eq
  by_cases hempty : vector.rows = 0
  . rw [merge_of_rows_eq_zero hempty] at h
    cases h
    exact ⟨fts', merge_of_rows_eq_zero (hvectorRows.trans hempty), hfts⟩
  . have hempty' := hvectorRows ▸ hempty
    by_cases hlone : fts.rows = 0
    . rw [merge_of_fts_rows_eq_zero hempty hlone] at h
      cases h
      exact ⟨vector', merge_of_fts_rows_eq_zero hempty' (hftsRows.trans hlone), hvector⟩
    . have hlone' := hftsRows ▸ hlone
      rw [merge_of_rows_ne_zero hempty hlone] at h
      obtain ⟨p, hp, rfl⟩ := hvector
      obtain ⟨q, hq, rfl⟩ := hfts
      obtain ⟨positions, hpositions, hmerged⟩ := mergeRows_gather hp hq hdistinct h
      rw [← merge_of_rows_ne_zero hempty' hlone'] at hmerged
      exact ⟨_, hmerged, .of_perm hpositions⟩

end Batch

end RankFusion
