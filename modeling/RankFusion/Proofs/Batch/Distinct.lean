import Mathlib.Data.List.Nodup
import RankFusion.Proofs.Batch.Associativity

/-!
This module contains the identifiers of a merge. If those of the vector batch are distinct, those of
the merge are, too, unless the vector batch has no rows: then the text batch is handed back with all
its repetitions.
-/

namespace RankFusion

def Identified (es : List (Option Int × Value)) : Prop := ∀ e ∈ es, e.1 = Batch.integer? e.2

variable {seen : List Int} {es fs : List (Option Int × Value)}

theorem Batch.eq_int_of_integer? {v : Value} {x : Int} (h : integer? v = some x) : v = .int x := by
  cases v with
  | int n =>
    cases h
    rfl
  | _ => cases h

theorem int_mem_of_mem_identifiers {x : Int} (h : Identified es) (hx : .int x ∈ es.map (·.2))
    : x ∈ identifiers es := by
  obtain ⟨e, he, hvalue⟩ := List.mem_map.1 hx
  refine List.mem_filterMap.2 ⟨e, he, ?_⟩
  rw [h e he, hvalue]
  rfl

theorem map_snd_unseen (h : Identified es)
    : (unseen seen es).map (·.2) = (identifiers (unseen seen es)).map .int := by
  induction es generalizing seen with
  | nil => rfl
  | cons e es ih =>
    obtain ⟨he, htail⟩ := List.forall_mem_cons.1 h
    obtain ⟨_ | x, v⟩ := e
    . exact ih htail
    . rw [unseen_some]
      split
      . exact ih htail
      . have hv : v = .int x := Batch.eq_int_of_integer? he.symm
        have hhead : identifiers ((some x, v) :: unseen (x :: seen) es) =
            x :: identifiers (unseen (x :: seen) es) := rfl
        rw [List.map_cons, ih htail, hhead, List.map_cons, hv]

theorem nodup_joinEntries (hes : Identified es) (hfs : Identified fs)
    (h : ((es.map (·.2)).filter fun v => !v.isNull).Nodup)
    : (((joinEntries es fs).map (·.2)).filter fun v => !v.isNull).Nodup := by
  unfold joinEntries
  rw [List.map_append, List.filter_append, map_snd_unseen hfs, List.nodup_append]
  refine ⟨h, ?_, ?_⟩
  . apply List.Nodup.filter
    apply nodup_identifiers_unseen.map
    intro x y hxy
    cases hxy
    rfl
  . intro v hv w hw heq
    obtain ⟨x, hx, rfl⟩ := List.mem_map.1 (List.mem_of_mem_filter hw)
    subst heq
    have hin := int_mem_of_mem_identifiers hes (List.mem_of_mem_filter hv)
    exact (mem_identifiers_unseen.1 hx).2 hin

namespace Batch

/--
Whether no identifier that is present stands in two rows.
-/
def DistinctIds (b : Batch) : Prop :=
  ∀ c ∈ b.columns, c.field.name = rowIdColumn → (c.values.filter fun v => !v.isNull).Nodup

variable {b vector fts merged : Batch} {c : Column} {ids : List (Option Int)}

theorem entries_eq_of_rowIds (h : b.rowIds = .ok ids) (hc : b.HasColumn rowIdColumn c)
    : c.entries ids = c.values.map fun v => (integer? v, v) := by
  obtain ⟨_, hcells, htype, rfl⟩ := rowIds_eq_ok_iff.1 h
  obtain ⟨hcount, d, hd, hdname, rfl⟩ := cells_eq_ok_iff.1 hcells
  cases hc.unique ⟨hcount, hd, hdname⟩
  have hnull : c.field.type ≠ .null := by
    intro hnull
    cases hnull.symm.trans htype
  have hzip : (c.values.map integer?).zip (c.values.map id) =
      c.values.map fun v => (integer? v, v) := List.zip_map'
  rw [List.map_id] at hzip
  exact (Column.entries_of_ne_null hnull (List.length_map _)).trans hzip

theorem distinctIds_of_mergeRows (hvector : vector.DistinctIds)
    (h : mergeRows vector fts = .ok merged)
    : merged.DistinctIds := by
  intro c hc hname
  obtain ⟨_, _, _, hvectorIds, hftsIds, _, hcolumns⟩ := exists_joins h
  obtain ⟨v, f, hjoins⟩ := hcolumns c hc
  have hv := hname ▸ hjoins.vector
  have hf := hname ▸ hjoins.fts
  rw [hjoins.values, hjoins.entries, entries_eq_of_rowIds hvectorIds hv,
    entries_eq_of_rowIds hftsIds hf]
  have hidentified : ∀ vs : List Value, Identified (vs.map fun v => (integer? v, v)) := by
    intro vs e he
    obtain ⟨_, _, rfl⟩ := List.mem_map.1 he
    rfl
  apply nodup_joinEntries (hidentified _) (hidentified _)
  rw [List.map_map]
  have hsnd : ((·.2) ∘ fun v : Value => (integer? v, v)) = id := rfl
  rw [hsnd, List.map_id]
  exact hvector v hv.2.1 hv.2.2

theorem distinctIds_merge (hvector : vector.DistinctIds) (h : vector.merge fts = .ok merged)
    : -- each identifier at most once, if the vector side has rows
      (vector.rows ≠ 0 → merged.DistinctIds)
        -- the text batch itself, if it has none
        ∧ (vector.rows = 0 → merged = fts)
        ∧ (merged.DistinctIds ↔ vector.rows ≠ 0 ∨ fts.DistinctIds) := by
  have hrows : vector.rows ≠ 0 → merged.DistinctIds := by
    intro hrows
    by_cases hfts : fts.rows = 0
    . rw [merge_of_fts_rows_eq_zero hrows hfts] at h
      cases h
      exact hvector
    . rw [merge_of_rows_ne_zero hrows hfts] at h
      exact distinctIds_of_mergeRows hvector h
  have hempty : vector.rows = 0 → merged = fts := by
    intro hempty
    rw [merge_of_rows_eq_zero hempty] at h
    exact (Except.ok.inj h).symm
  refine ⟨hrows, hempty, ?_⟩
  by_cases hvectorRows : vector.rows = 0
  . rw [hempty hvectorRows]
    simp [hvectorRows]
  . exact iff_of_true (hrows hvectorRows) (.inl hvectorRows)

def ofIds (ids : List (Option Int)) : Batch where
  columns := [⟨⟨rowIdColumn, .uint64, true⟩, ids.map fun
    | some x => .int x
    | none => .null⟩]
  metadata := none
  aligned := rowCount_eq_of_forall (n := ids.length) (by simp)

theorem distinctIds_merge_sample
    : (ofIds [some 7, none, some 3]).DistinctIds
        ∧ ∃ merged,
            (ofIds [some 7, none, some 3]).merge (ofIds [some 9, some 3, none, some 9]) = .ok merged
              ∧ merged.DistinctIds
              ∧ merged.rowIds = .ok [some 7, none, some 3, some 9] := by
  have hvector : (ofIds [some 7, none, some 3]).DistinctIds := by
    intro c hc _
    cases List.mem_singleton.1 hc
    simp [Value.isNull]
  refine ⟨hvector, _, rfl, ?_, rfl⟩
  exact (@distinctIds_merge _ (ofIds [some 9, some 3, none, some 9]) _ hvector rfl).1 (by decide)

/-- A vector batch without rows leaves the repetitions of the text batch in the merge. -/
theorem repeated_ids_of_merge
    : (ofIds []).DistinctIds
        ∧ ∃ merged,
            (ofIds []).merge (ofIds [some 7, some 7]) = .ok merged
              ∧ merged.rowIds = .ok [some 7, some 7]
              ∧ ¬ merged.DistinctIds := by
  refine ⟨?_, ofIds [some 7, some 7], rfl, rfl, ?_⟩
  . intro c hc _
    cases List.mem_singleton.1 hc
    exact .nil
  . intro h
    have hnodup := h _ List.mem_cons_self rfl
    simp [Value.isNull] at hnodup

end Batch

end RankFusion
