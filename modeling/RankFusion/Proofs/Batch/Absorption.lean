import RankFusion.Proofs.Batch.Associativity

/-!
This module contains the merges of a merge with the batches it was made of. They bring no identifier
and no column that it lacks, so that they leave it as it is.
-/

namespace RankFusion

theorem Field.type_joined {f g : Field} (h : f.type.Joins g.type)
    : (f.type = (f.joined g).type ∨ f.type = .null)
        ∧ (g.type = (f.joined g).type ∨ g.type = .null) := by
  unfold Field.joined
  split
  . next hnull => exact ⟨.inr hnull, .inl rfl⟩
  . next hnull =>
    refine ⟨.inl rfl, ?_⟩
    obtain ⟨heq, _⟩ | ⟨hfirst, _⟩ | ⟨hsecond, _⟩ := h
    . exact .inl heq.symm
    . exact absurd hfirst hnull
    . exact .inr hsecond

namespace Batch

/--
Whether a batch has what another could bring: its identifiers, and no column that could not be
continued by one of the other.
-/
structure Absorbs (merged other : Batch) : Prop where
  ids : ∃ ids otherIds,
    merged.rowIds = .ok ids
      ∧ other.rowIds = .ok otherIds
      ∧ ∀ x, some x ∈ otherIds → some x ∈ ids
  columns : ∀ c ∈ merged.columns,
    c.field.type.isSupported
      ∧ merged.HasColumn c.field.name c
      ∧ ∃ d, other.HasColumn c.field.name d
        ∧ (d.field.type = c.field.type ∨ d.field.type = .null)

variable {vector fts merged other result : Batch} {c : Column}

namespace Absorbs

theorem compatible (h : merged.Absorbs other) : merged.Compatible other := by
  obtain ⟨ids, otherIds, hids, hotherIds, _⟩ := h.ids
  refine ⟨exists_rowIds_iff.1 ⟨ids, hids⟩, exists_rowIds_iff.1 ⟨otherIds, hotherIds⟩, ?_⟩
  intro f hf g hg hname
  obtain ⟨c, hc, rfl⟩ := List.mem_map.1 hf
  obtain ⟨d', hd', rfl⟩ := List.mem_map.1 hg
  obtain ⟨hsupported, hcolumn, d, hd, htype⟩ := h.columns c hc
  cases hd.unique ⟨hd.1, hd', hname⟩
  refine ⟨hcolumn.1, hd.1, ?_⟩
  obtain heq | hnull := htype
  . exact .inl ⟨heq.symm, hsupported⟩
  . exact .inr (.inr ⟨hnull, hsupported⟩)

theorem names_eq (h : merged.Absorbs other)
    : merged.schema.names.filter (· ∈ other.schema.names) = merged.schema.names := by
  rw [List.filter_eq_self]
  intro name hname
  rw [names_schema, List.mem_map] at hname
  obtain ⟨c, hc, rfl⟩ := hname
  obtain ⟨_, _, d, hd, _⟩ := h.columns c hc
  rw [decide_eq_true_eq]
  exact List.count_pos_iff.1 (Nat.lt_of_lt_of_eq Nat.zero_lt_one hd.1.symm)

theorem column_eq (h : merged.Absorbs other) {ids otherIds resultIds : List (Option Int)}
    {v f : Column} (hids : merged.rowIds = .ok ids) (hotherIds : other.rowIds = .ok otherIds)
    (hjoins : Joins merged other ids otherIds resultIds v f c)
    : c = v := by
  have hnull : v.field.type ≠ .null :=
    ColumnType.ne_null_of_isSupported (h.columns v hjoins.vector.2.1).1
  have hfield : c.field = v.field := by
    rw [hjoins.field, Field.joined, if_neg hnull]
  have hjoined : joinEntries (v.entries ids) (f.entries otherIds) = v.entries ids := by
    obtain ⟨_, _, hids', hotherIds', hsubset⟩ := h.ids
    cases hids.symm.trans hids'
    cases hotherIds.symm.trans hotherIds'
    apply joinEntries_eq_self
    intro x
    simpa [Column.identifiers_entries] using hsubset x
  have hlength : ids.length = v.values.length :=
    (length_of_rowIds hids).trans (length_values_of_mem hjoins.vector.2.1).symm
  have hvalues : c.values = v.values := by
    rw [hjoins.values, hjoins.entries, hjoined, Column.entries_of_ne_null hnull hlength,
      List.map_snd_zip]
    exact Nat.le_of_eq hlength.symm
  cases c
  cases v
  cases hfield
  cases hvalues
  rfl

theorem mergeRows_eq (h : merged.Absorbs other) : mergeRows merged other = .ok merged := by
  obtain ⟨result, hresult⟩ := h.compatible.exists_mergeRows
  have heq : result = merged := by
    apply eq_of_names
    . rw [names_of_mergeRows hresult, h.names_eq]
    . exact metadata_of_mergeRows hresult
    . intro c hc c' hc' hname
      obtain ⟨_, _, _, hids, hotherIds, _, hcolumns⟩ := exists_joins hresult
      obtain ⟨v, _, hjoins⟩ := hcolumns c hc
      rw [h.column_eq hids hotherIds hjoins]
      exact hjoins.vector.unique ⟨hjoins.vector.1, hc', hname.symm⟩
  rw [hresult, heq]

end Absorbs

theorem absorbs_of_mergeRows (h : mergeRows vector fts = .ok merged)
    : merged.Absorbs vector ∧ merged.Absorbs fts := by
  obtain ⟨vectorIds, ftsIds, hvectorIds, hftsIds, hmerge⟩ := mergeOf_of_mergeRows h
  have hids := hmerge.rowIds_eq hvectorIds hftsIds
  have hcolumns : ∀ c ∈ merged.columns,
      merged.HasColumn c.field.name c
        ∧ ∃ v f,
            vector.HasColumn c.field.name v
              ∧ fts.HasColumn c.field.name f
              ∧ (v.field.type = c.field.type ∨ v.field.type = .null)
              ∧ (f.field.type = c.field.type ∨ f.field.type = .null) := by
    intro c hc
    obtain ⟨hcolumn, v, f, hv, hf, hfield, _⟩ := hmerge.exists_columns hc
    obtain ⟨_, _, htype⟩ := (compatible_of_mergeRows h).joins v.field (List.mem_map_of_mem hv.2.1)
      f.field (List.mem_map_of_mem hf.2.1) (hf.2.2.trans hv.2.2.symm)
    have hjoined := Field.type_joined htype
    rw [← hfield] at hjoined
    exact ⟨hcolumn, v, f, hv, hf, hjoined⟩
  have hsupported := supported_of_mergeRows h
  constructor
  . refine ⟨⟨_, vectorIds, hids, hvectorIds, ?_⟩, ?_⟩
    . intro x hx
      exact MergeOf.mem_append_kept_iff.2 (.inl hx)
    . intro c hc
      obtain ⟨hcolumn, v, _, hv, _, hvtype, _⟩ := hcolumns c hc
      exact ⟨hsupported c hc, hcolumn, v, hv, hvtype⟩
  . refine ⟨⟨_, ftsIds, hids, hftsIds, ?_⟩, ?_⟩
    . intro x hx
      exact MergeOf.mem_append_kept_iff.2 (.inr hx)
    . intro c hc
      obtain ⟨hcolumn, _, f, _, hf, _, hftype⟩ := hcolumns c hc
      exact ⟨hsupported c hc, hcolumn, f, hf, hftype⟩

theorem merge_absorb (hvector : vector.rows ≠ 0) (hfts : fts.rows ≠ 0)
    (h : vector.merge fts = .ok merged)
    : merged.merge fts = .ok merged
        ∧ merged.merge vector = .ok merged
        ∧ ∀ bs : List Batch, (∀ b ∈ bs, b = vector ∨ b = fts) →
            bs.foldlM Batch.merge merged = .ok merged := by
  rw [merge_of_rows_ne_zero hvector hfts] at h
  have hrows := rows_ne_zero_of_mergeRows hvector h
  obtain ⟨habsorbsVector, habsorbsFts⟩ := absorbs_of_mergeRows h
  have hmergeVector : merged.merge vector = .ok merged := by
    rw [merge_of_rows_ne_zero hrows hvector]
    exact habsorbsVector.mergeRows_eq
  have hmergeFts : merged.merge fts = .ok merged := by
    rw [merge_of_rows_ne_zero hrows hfts]
    exact habsorbsFts.mergeRows_eq
  refine ⟨hmergeFts, hmergeVector, ?_⟩
  intro bs hbs
  apply List.foldlM_eq_self
  intro b hb
  obtain rfl | rfl := hbs b hb
  . exact hmergeVector
  . exact hmergeFts

theorem merge_absorb_sample
    : vectorSample.rows ≠ 0
        ∧ ftsSample.rows ≠ 0
        ∧ ∃ merged,
            vectorSample.merge ftsSample = .ok merged
              ∧ merged.rowIds = .ok [some 7, none, some 7, some 2]
              ∧ merged.merge ftsSample = .ok merged
              ∧ merged.merge vectorSample = .ok merged
              ∧ [ftsSample, vectorSample, ftsSample].foldlM Batch.merge merged = .ok merged := by
  have hvector : vectorSample.rows ≠ 0 := by decide
  have hfts : ftsSample.rows ≠ 0 := by decide
  obtain ⟨hmergeFts, hmergeVector, hruns⟩ := merge_absorb hvector hfts rfl
  refine ⟨hvector, hfts, _, rfl, rfl, hmergeFts, hmergeVector, hruns _ ?_⟩
  simp

end Batch

end RankFusion
