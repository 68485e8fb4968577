import RankFusion.Batch.Sort
import RankFusion.Proofs.Batch.Lookup
import RankFusion.Proofs.Column.Concat
import RankFusion.Proofs.Number.Order

/-!
This module contains the stable descending sort: the positions it computes are those of all rows,
better keys stand in front, and rows whose keys are equally good keep their order.
-/

namespace RankFusion

section Positions

variable {α : Type} {le : α → α → Bool} {xs : List α}

theorem mem_zipIdx_zipIdx {c : (α × Nat) × Nat} (h : c ∈ xs.zipIdx.zipIdx)
    : xs[c.1.2]? = some c.1.1 ∧ c.1.2 = c.2 := by
  have houter := List.mem_zipIdx_iff_getElem?.1 h
  have hinner := List.mem_zipIdx_iff_getElem?.1 (List.mem_of_getElem? houter)
  refine ⟨hinner, ?_⟩
  rw [List.getElem?_zipIdx, Option.map_eq_some_iff] at houter
  obtain ⟨_, _, hc⟩ := houter
  rw [← hc]
  exact Nat.zero_add _

theorem pairwise_mergeSort_zipIdx (trans : ∀ a b c, le a b → le b c → le a c)
    (total : ∀ a b, le a b || le b a)
    : (xs.zipIdx.mergeSort fun a b => le a.1 b.1).Pairwise fun a b =>
        xs[a.2]? = some a.1
          ∧ xs[b.2]? = some b.1
          ∧ le a.1 b.1 = true
          ∧ (le b.1 a.1 = true → a.2 ≤ b.2) := by
  let le' : α × Nat → α × Nat → Bool := fun a b => le a.1 b.1
  have trans' : ∀ a b c, le' a b → le' b c → le' a c := fun a b c => trans a.1 b.1 c.1
  have total' : ∀ a b, le' a b || le' b a := fun a b => total a.1 b.1
  -- Numbering the numbered items once more makes the order on them a strict one.
  rw [← List.mergeSort_zipIdx, List.pairwise_map]
  have hsorted := List.pairwise_mergeSort (List.zipIdxLE_trans trans')
    (List.zipIdxLE_total total') xs.zipIdx.zipIdx
  refine hsorted.imp_of_mem ?_
  intro a b ha hb hab
  obtain ⟨hax, hai⟩ := mem_zipIdx_zipIdx (List.mem_mergeSort.1 ha)
  obtain ⟨hbx, hbi⟩ := mem_zipIdx_zipIdx (List.mem_mergeSort.1 hb)
  refine ⟨hax, hbx, ?_⟩
  unfold List.zipIdxLE at hab
  split at hab
  . next hle =>
    refine ⟨hle, ?_⟩
    intro hge
    rw [if_pos hge, decide_eq_true_eq] at hab
    omega
  . cases hab

end Positions

section Keys

variable {α : Type} {key : α → Value} {xs : List α}

theorem descendingPositions_map
    : descendingPositions (xs.map key) =
        (xs.zipIdx.mergeSort fun a b => (key a.1).descends (key b.1)).map (·.2) := by
  unfold descendingPositions
  rw [List.zipIdx_map, ← List.map_mergeSort, List.map_map]
  . rfl
  . intro a _ b _
    rfl

theorem descendingPositions_perm (keys : List Value)
    : (descendingPositions keys).Perm (List.range keys.length) := by
  unfold descendingPositions
  rw [List.range_eq_range', ← List.zipIdx_map_snd 0 keys]
  exact (List.mergeSort_perm _ _).map _

theorem pairwise_descendingPositions
    (trans : ∀ a b c, (key a).descends (key b) → (key b).descends (key c) →
      (key a).descends (key c))
    (total : ∀ a b, (key a).descends (key b) || (key b).descends (key a))
    : (descendingPositions (xs.map key)).Pairwise fun i j =>
        ∃ a b,
          xs[i]? = some a
            ∧ xs[j]? = some b
            ∧ (key a).descends (key b) = true
            ∧ ((key b).descends (key a) = true → i < j) := by
  have hnodup : (descendingPositions (xs.map key)).Nodup :=
    (descendingPositions_perm _).symm.nodup List.nodup_range
  rw [descendingPositions_map] at hnodup ⊢
  rw [List.Nodup, List.pairwise_map] at hnodup
  rw [List.pairwise_map]
  refine ((pairwise_mergeSort_zipIdx trans total).and hnodup).imp ?_
  rintro a b ⟨⟨ha, hb, hle, htie⟩, hne⟩
  exact ⟨a.1, b.1, ha, hb, hle, fun hge => Nat.lt_of_le_of_ne (htie hge) hne⟩

end Keys

namespace Binary

/--
Whether a score is better than another one: it is greater, or it is a number and the other is not.
-/
def Outranks (x y : Binary) : Prop := y.lt x = true ∨ (x.isNaN = false ∧ y.isNaN = true)

def Ties (x y : Binary) : Prop := x.eq y = true ∨ (x.isNaN = true ∧ y.isNaN = true)

variable {x y : Binary}

theorem descends_real_iff
    : (Value.real x).descends (.real y) = true
        ↔
      y.isNaN = true ∨ (x.isNaN = false ∧ y.le x = true) := by
  unfold Value.descends KeyClass.ofValue
  cases hx : x.isNaN with
  | true =>
    cases hy : y.isNaN with
    | true => simp [hx, hy]
    | false => simp [hx, hy, KeyClass.place]
  | false =>
    cases hy : y.isNaN with
    | true => simp [hx, hy, KeyClass.place]
    | false => simp [hx, hy, Value.atLeast, Value.number?]

theorem descends_real_trans (a b c : Binary) (hab : (Value.real a).descends (.real b) = true)
    (hbc : (Value.real b).descends (.real c) = true)
    : (Value.real a).descends (.real c) = true := by
  rw [descends_real_iff] at hab hbc ⊢
  cases hbc with
  | inl hc => exact .inl hc
  | inr hbc =>
    cases hab with
    | inl hb =>
      rw [hbc.1] at hb
      cases hb
    | inr hab => exact .inr ⟨hab.1, le_trans hbc.2 hab.2⟩

theorem descends_real_total (a b : Binary)
    : ((Value.real a).descends (.real b) || (Value.real b).descends (.real a)) = true := by
  rw [Bool.or_eq_true, descends_real_iff, descends_real_iff]
  cases ha : a.isNaN with
  | true => exact .inr (.inl rfl)
  | false =>
    cases hb : b.isNaN with
    | true => exact .inl (.inl rfl)
    | false =>
      cases le_total ha hb with
      | inl h => exact .inr (.inr ⟨rfl, h⟩)
      | inr h => exact .inl (.inr ⟨rfl, h⟩)

theorem outranks_or_ties {P : Prop} (h : (Value.real x).descends (.real y) = true)
    (htie : (Value.real y).descends (.real x) = true → P)
    : x.Outranks y ∨ (x.Ties y ∧ P) := by
  rw [descends_real_iff] at h htie
  unfold Outranks Ties eq lt
  cases hx : x.isNaN with
  | true =>
    cases h with
    | inl hy => exact .inr ⟨.inr ⟨rfl, hy⟩, htie (.inl hx)⟩
    | inr h =>
      rw [hx] at h
      cases h.1
  | false =>
    cases h with
    | inl hy => exact .inl (.inr ⟨rfl, hy⟩)
    | inr h =>
      cases hxy : x.le y with
      | true =>
        have hy := (le_iff.1 hxy).2.1
        refine .inr ⟨.inl ?_, htie (.inr ⟨hy, hxy⟩)⟩
        rw [h.2]
        rfl
      | false =>
        refine .inl (.inl ?_)
        rw [h.2]
        rfl

theorem pairwise_descendingPositions (scores : List Binary)
    : (descendingPositions (scores.map .real)).Pairwise fun i j =>
        ∃ x y,
          scores[i]? = some x
            ∧ scores[j]? = some y
            ∧ (x.Outranks y ∨ (x.Ties y ∧ i < j)) := by
  refine (RankFusion.pairwise_descendingPositions descends_real_trans
    descends_real_total).imp ?_
  rintro i j ⟨x, y, hx, hy, hle, htie⟩
  exact ⟨x, y, hx, hy, outranks_or_ties hle htie⟩

end Binary

namespace Batch

variable {b result : Batch} {name : String} {c : Cells} {positions : List Nat}

theorem ensureTakeable_eq_ok_iff
    : b.ensureTakeable (positions.map Int.ofNat) = .ok ()
        ↔
      ∀ column ∈ b.columns,
        column.field.type.isSupported ∧ ∀ i ∈ positions, i < column.values.length := by
  unfold ensureTakeable
  rw [List.forM_eq_ok_iff]
  apply forall₂_congr
  intro column _
  rw [Except.bind_unit_eq_ok_iff, Field.ensureSupported_eq_ok_iff, Cells.positions?_ofNat]
  apply and_congr_right
  intro _
  split
  . next hinside => exact iff_of_true rfl hinside
  . next houtside => exact iff_of_false Except.throw_ne_ok houtside

theorem take_eq_ok_iff
    : b.take (positions.map Int.ofNat) = .ok result
        ↔
      (∀ column ∈ b.columns,
          column.field.type.isSupported ∧ ∀ i ∈ positions, i < column.values.length)
        ∧ b.gather positions = result := by
  unfold take
  have hmap : (positions.map Int.ofNat).map Int.toNat = positions := by
    rw [List.map_map]
    exact List.map_id' positions
  rw [Except.bind_unit_eq_ok_iff, hmap, ← ensureTakeable_eq_ok_iff, Except.pure_eq_ok_iff]

theorem gather_nil (h : b.rows = 0) : b.gather [] = b := by
  have hcolumns : b.columns.map (·.gather []) = b.columns := by
    conv => rhs; rw [← List.map_id b.columns]
    apply List.map_congr_left
    intro column hcolumn
    cases column with
    | mk field values =>
      have hvalues : values = [] := by
        rw [← List.length_eq_zero_iff, ← h]
        exact length_values_of_mem hcolumn
      subst hvalues
      rfl
  cases b with
  | mk columns metadata aligned =>
    unfold gather
    rw [mk.injEq]
    exact ⟨hcolumns, rfl⟩

theorem sortDescending_eq_ok_iff
    : b.sortDescending name = .ok result
        ↔
      ∃ keys, b.cells name = .ok keys
        ∧ (b.rows ≠ 0 → keys.type.isSortable ∧ ∀ c ∈ b.columns, c.field.type.isSupported)
        ∧ b.gather (descendingPositions keys.values) = result := by
  unfold sortDescending
  rw [Except.bind_eq_ok_iff]
  apply exists_congr
  intro keys
  apply and_congr_right
  intro hkeys
  have hlength := length_of_cells hkeys
  by_cases hrows : b.rows = 0
  . have hvalues : keys.values = [] := by
      rw [← List.length_eq_zero_iff, hlength, hrows]
    rw [if_pos hrows, Except.pure_eq_ok_iff, hvalues, (descendingPositions_perm []).eq_nil,
      gather_nil hrows]
    exact (and_iff_right (absurd hrows)).symm
  . rw [if_neg hrows]
    by_cases hsortable : keys.type.isSortable
    . have hinside : ∀ column ∈ b.columns,
          ∀ i ∈ descendingPositions keys.values, i < column.values.length := by
        intro column hcolumn i hi
        rw [length_values_of_mem hcolumn, ← hlength]
        exact List.mem_range.1 ((descendingPositions_perm _).mem_iff.1 hi)
      simp only [hsortable, Bool.not_true, Bool.false_eq_true, if_false]
      rw [take_eq_ok_iff]
      apply and_congr_left
      intro _
      constructor
      . intro h _
        exact ⟨trivial, fun column hcolumn => (h column hcolumn).1⟩
      . intro h column hcolumn
        exact ⟨(h hrows).2 column hcolumn, hinside column hcolumn⟩
    . simp only [hsortable, Bool.not_false, if_true]
      refine iff_of_false Except.throw_ne_ok ?_
      rintro ⟨h, _⟩
      cases (h hrows).1

end Batch

end RankFusion
