import RankFusion.Proofs.Batch.Associativity

/-!
This module contains the absent cells of a merge. A merged column is declared as on the vector side,
unless that has no values, and its cells come from both sides. So a column that is declared without
absent cells can get one from the text rows that join.
-/

namespace RankFusion

def Column.Complete (c : Column) : Prop := ∀ i < c.values.length, c.cells.cell i ≠ .null

theorem Column.complete_iff {c : Column}
    : c.Complete ↔ .null ∉ (List.range c.values.length).map c.cells.cell := by
  simp [Column.Complete]

namespace Batch

def Sound (b : Batch) : Prop := ∀ c ∈ b.columns, c.field.nullable = false → c.Complete

def Gains (vector fts : Batch) (j : Nat) : Prop :=
  ∃ vectorIds ftsIds x,
    vector.rowIds = .ok vectorIds
      ∧ fts.rowIds = .ok ftsIds
      ∧ ftsIds[j]? = some (some x)
      ∧ some x ∉ vectorIds
      ∧ some x ∉ ftsIds.take j

/--
Whether the text rows that join have a cell in every column that the vector batch declares without
absent cells.
-/
def Fills (fts vector : Batch) : Prop :=
  ∀ v ∈ vector.columns, v.field.nullable = false →
    ∀ f ∈ fts.columns, f.field.name = v.field.name →
      ∀ j, vector.Gains fts j → f.cells.cell j ≠ .null

variable {vector fts merged : Batch} {c v f : Column} {j : Nat}

theorem mem_kept_iff_gains {vectorIds ftsIds : List (Option Int)}
    (hvector : vector.rowIds = .ok vectorIds) (hfts : fts.rowIds = .ok ftsIds)
    : j ∈ unseenPositions (vectorIds.filterMap id) ftsIds ↔ vector.Gains fts j := by
  rw [MergeOf.mem_kept_iff]
  unfold Gains
  constructor
  . rintro ⟨x, hx⟩
    exact ⟨vectorIds, ftsIds, x, hvector, hfts, hx⟩
  . rintro ⟨_, _, x, hvector', hfts', hx⟩
    cases hvector.symm.trans hvector'
    cases hfts.symm.trans hfts'
    exact ⟨x, hx⟩

theorem lt_rows_of_gains (h : vector.Gains fts j) : j < fts.rows := by
  obtain ⟨_, _, _, _, hfts, hget, _⟩ := h
  rw [← length_of_rowIds hfts]
  exact (List.getElem?_eq_some_iff.1 hget).1

theorem type_ne_null_of_complete (hrows : vector.rows ≠ 0) (hv : v ∈ vector.columns)
    (h : v.Complete)
    : v.field.type ≠ .null := by
  intro hnull
  refine h 0 ?_ (if_pos hnull)
  rw [length_values_of_mem hv]
  exact Nat.pos_of_ne_zero hrows

theorem complete_iff_of_mergeRows (h : mergeRows vector fts = .ok merged) (hc : c ∈ merged.columns)
    : ∃ v f,
        vector.HasColumn c.field.name v
          ∧ fts.HasColumn c.field.name f
          ∧ c.field = v.field.joined f.field
          ∧ (c.Complete ↔ v.Complete ∧ ∀ j, vector.Gains fts j → f.cells.cell j ≠ .null) := by
  obtain ⟨vectorIds, ftsIds, hvectorIds, hftsIds, hmerge⟩ := mergeOf_of_mergeRows h
  obtain ⟨_, v, f, hv, hf, hfield, hvalues⟩ := hmerge.exists_columns hc
  refine ⟨v, f, hv, hf, hfield, ?_⟩
  have hcells : (List.range c.values.length).map c.cells.cell = c.values :=
    Cells.map_cell_range (type_ne_null_of_mergeRows h hc)
  have hkept : (∀ j, vector.Gains fts j → f.cells.cell j ≠ .null) ↔
      .null ∉ (unseenPositions (vectorIds.filterMap id) ftsIds).map f.cells.cell := by
    simp only [List.mem_map, not_exists, not_and, mem_kept_iff_gains hvectorIds hftsIds]
  rw [Column.complete_iff, Column.complete_iff, hcells, hvalues, List.mem_append, not_or, hkept,
    length_values_of_mem hv.2.1]

theorem sound_iff_of_mergeRows (hrows : vector.rows ≠ 0) (hvector : vector.Sound)
    (h : mergeRows vector fts = .ok merged)
    : merged.Sound ↔ fts.Fills vector := by
  constructor
  . intro hsound v hv hnullable f hf hname j hj
    have hnull := type_ne_null_of_complete hrows hv (hvector v hv hnullable)
    have hin : v.field.name ∈ merged.schema.names := by
      rw [names_of_mergeRows h, List.mem_filter, decide_eq_true_eq, names_schema, names_schema]
      exact ⟨List.mem_map_of_mem hv, hname ▸ List.mem_map_of_mem hf⟩
    rw [names_schema, List.mem_map] at hin
    obtain ⟨c, hc, hcname⟩ := hin
    obtain ⟨v', f', hv', hf', hfield, hcomplete⟩ := complete_iff_of_mergeRows h hc
    cases hv'.unique ⟨hv'.1, hv, hcname.symm⟩
    cases hf'.unique ⟨hf'.1, hf, hname.trans hcname.symm⟩
    rw [Field.joined, if_neg hnull] at hfield
    exact (hcomplete.1 (hsound c hc (hfield ▸ hnullable))).2 j hj
  . intro hfills c hc hnullable
    obtain ⟨v, f, hv, hf, hfield, hcomplete⟩ := complete_iff_of_mergeRows h hc
    unfold Field.joined at hfield
    split at hfield
    . -- What takes its definition from the text side is declared to have absent cells.
      rw [hfield] at hnullable
      cases hnullable
    . rw [hfield] at hnullable
      exact hcomplete.2 ⟨hvector v hv.2.1 hnullable,
        hfills v hv.2.1 hnullable f hf.2.1 (hf.2.2.trans hv.2.2.symm)⟩

theorem fills_of_sound (hfts : fts.Sound)
    (h : ∀ v ∈ vector.columns, v.field.nullable = false →
      ∀ f ∈ fts.columns, f.field.name = v.field.name → f.field.nullable = false)
    : fts.Fills vector := by
  intro v hv hnullable f hf hname j hj
  apply hfts f hf (h v hv hnullable f hf hname) j
  rw [length_values_of_mem hf]
  exact lt_rows_of_gains hj

theorem sound_merge_iff (hvector : vector.Sound) (hfts : fts.Sound)
    (h : vector.merge fts = .ok merged)
    : (merged.Sound ↔ vector.rows = 0 ∨ fts.rows = 0 ∨ fts.Fills vector)
        -- in particular if both sides declare the columns of the vector side alike
        ∧ ((∀ v ∈ vector.columns, v.field.nullable = false →
              ∀ f ∈ fts.columns, f.field.name = v.field.name → f.field.nullable = false) →
            merged.Sound) := by
  have hiff : merged.Sound ↔ vector.rows = 0 ∨ fts.rows = 0 ∨ fts.Fills vector := by
    by_cases hvectorRows : vector.rows = 0
    . rw [merge_of_rows_eq_zero hvectorRows] at h
      cases h
      exact iff_of_true hfts (.inl hvectorRows)
    . by_cases hftsRows : fts.rows = 0
      . rw [merge_of_fts_rows_eq_zero hvectorRows hftsRows] at h
        cases h
        exact iff_of_true hvector (.inr (.inl hftsRows))
      . rw [merge_of_rows_ne_zero hvectorRows hftsRows] at h
        rw [sound_iff_of_mergeRows hvectorRows hvector h, or_iff_right hvectorRows,
          or_iff_right hftsRows]
  refine ⟨hiff, ?_⟩
  intro hnullable
  exact hiff.2 (.inr (.inr (fills_of_sound hfts hnullable)))

def ofTitles (type : ColumnType) (nullable : Bool) (rows : List (Int × Value)) : Batch where
  columns := [
    ⟨⟨rowIdColumn, .uint64, true⟩, rows.map fun r => .int r.1⟩,
    ⟨⟨"title", type, nullable⟩, rows.map (·.2)⟩]
  metadata := none
  aligned := rowCount_eq_of_forall (n := rows.length) (by simp)

theorem sound_ofTitles {type : ColumnType} {nullable : Bool} {rows : List (Int × Value)}
    (h : nullable = true ∨ type ≠ .null ∧ ∀ r ∈ rows, r.2 ≠ .null)
    : (ofTitles type nullable rows).Sound := by
  intro c hc hnullable
  simp only [ofTitles, List.mem_cons, List.not_mem_nil, or_false] at hc
  obtain rfl | rfl := hc
  . cases hnullable
  . obtain rfl | ⟨htype, h⟩ := h
    . cases hnullable
    . rw [Column.complete_iff]
      intro hnull
      have hcells := Cells.map_cell_range (c := ⟨type, rows.map (·.2)⟩) htype
      obtain ⟨r, hr, heq⟩ := List.mem_map.1 (hcells ▸ hnull)
      exact h r hr heq

def titledSample : Batch := ofTitles .string false [(7, .text "a")]

def untitledSample : Batch := ofTitles .string true [(7, .null), (2, .text "d")]

theorem sound_titledSample : titledSample.Sound := sound_ofTitles (.inr (by simp))

theorem fills_untitledSample : untitledSample.Fills titledSample := by
  intro v hv hnullable f hf hname j hj
  simp only [titledSample, untitledSample, ofTitles, List.mem_cons, List.not_mem_nil, or_false]
    at hv hf
  obtain rfl | rfl := hv
  . cases hnullable
  . obtain rfl | rfl := hf
    . exact absurd hname (by decide)
    . obtain ⟨_, _, x, hvectorIds, hftsIds, hget, hnew, _⟩ := hj
      cases hvectorIds
      cases hftsIds
      cases j with
      | zero =>
        cases hget
        exact absurd List.mem_cons_self hnew
      | succ j =>
        cases j with
        | zero => simp [Column.cells, Cells.cell]
        | succ j => cases hget

theorem sound_merge_iff_sample
    : titledSample.Sound
        ∧ untitledSample.Sound
        ∧ ∃ merged,
            titledSample.merge untitledSample = .ok merged
              ∧ merged.rowIds = .ok [some 7, some 2]
              ∧ merged.Sound := by
  have huntitled : untitledSample.Sound := sound_ofTitles (.inl rfl)
  refine ⟨sound_titledSample, huntitled, _, rfl, rfl, ?_⟩
  exact (sound_merge_iff sound_titledSample huntitled rfl).1.2 (.inr (.inr fills_untitledSample))

/-- A column without values joins titles that are declared to be present. -/
theorem not_sound_of_merge
    : titledSample.Sound
        ∧ (ofTitles .null true [(2, .null)]).Sound
        ∧ ∃ merged,
            titledSample.merge (ofTitles .null true [(2, .null)]) = .ok merged
              ∧ ¬ merged.Sound := by
  refine ⟨sound_titledSample, sound_ofTitles (.inl rfl), _, rfl, ?_⟩
  intro h
  exact h _ (List.mem_cons_of_mem _ List.mem_cons_self) rfl 1 (by decide) rfl

end Batch

end RankFusion
