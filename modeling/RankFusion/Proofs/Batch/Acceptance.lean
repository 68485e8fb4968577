import RankFusion.Proofs.Batch.Merge

/-!
This module contains the condition under which two batches can be merged. It is told by their
schemas and by whether they have rows; the cells have no part in it.
-/

namespace RankFusion

namespace ColumnType

def Joins (s t : ColumnType) : Prop :=
  (s = t ∧ s.isSupported) ∨ (s = .null ∧ t.isSupported) ∨ (t = .null ∧ s.isSupported)

end ColumnType

namespace Batch

def HasOne (b : Batch) (name : String) (kind : ColumnType → Prop) : Prop :=
  b.schema.names.count name = 1 ∧ ∃ f ∈ b.schema.fields, f.name = name ∧ kind f.type

def Keyed (b : Batch) : Prop := b.HasOne rowIdColumn (· = .uint64)

/--
Whether the rows of a batch can be continued by those of another: both have identifiers, and the
columns that both have are joined.
-/
structure Compatible (vector fts : Batch) : Prop where
  vectorKeyed : vector.Keyed
  ftsKeyed : fts.Keyed
  joins : ∀ f ∈ vector.schema.fields, ∀ g ∈ fts.schema.fields, g.name = f.name →
    vector.schema.names.count f.name = 1
      ∧ fts.schema.names.count f.name = 1
      ∧ f.type.Joins g.type

variable {b vector fts merged : Batch} {name : String} {kind : ColumnType → Prop}

theorem exists_cells_iff
    : (∃ c, b.cells name = .ok c ∧ kind c.type) ↔ b.HasOne name kind := by
  unfold HasOne
  constructor
  . rintro ⟨c, hc, hkind⟩
    obtain ⟨hcount, column, hmem, hname, rfl⟩ := cells_eq_ok_iff.1 hc
    exact ⟨hcount, column.field, List.mem_map_of_mem hmem, hname, hkind⟩
  . rintro ⟨hcount, f, hf, hname, hkind⟩
    obtain ⟨column, hmem, rfl⟩ := List.mem_map.1 hf
    exact ⟨column.cells, cells_eq_ok_iff.2 ⟨hcount, column, hmem, hname, rfl⟩, hkind⟩

theorem exists_rowIds_iff : (∃ ids, b.rowIds = .ok ids) ↔ b.Keyed := by
  unfold Keyed
  rw [← exists_cells_iff]
  simp only [rowIds_eq_ok_iff]
  constructor
  . rintro ⟨_, c, hc, htype, _⟩
    exact ⟨c, hc, htype⟩
  . rintro ⟨c, hc, htype⟩
    exact ⟨_, c, hc, htype, rfl⟩

theorem exists_numbers_iff
    : (∃ values, b.numbers name = .ok values) ↔ b.HasOne name (·.isNumeric) := by
  rw [← exists_cells_iff]
  unfold numbers
  simp only [Except.bind_eq_ok_iff]
  constructor
  . rintro ⟨values, c, hc, hvalues⟩
    refine ⟨c, hc, ?_⟩
    split at hvalues
    . assumption
    . exact absurd hvalues Except.throw_ne_ok
  . rintro ⟨c, hc, htype⟩
    exact ⟨c.values, c, hc, if_pos htype⟩

theorem exists_field_of_count {s : Schema} (h : s.names.count name = 1)
    : ∃ f, s.field name = .ok f := by
  have hlength : (s.fields.filter fun f => f.name == name).length = 1 := by
    rw [Schema.names, List.count, List.countP_map, List.countP_eq_length_filter] at h
    exact h
  obtain ⟨f, hf⟩ := List.length_eq_one_iff.1 hlength
  unfold Schema.field
  rw [hf]
  exact ⟨f, rfl⟩

theorem exists_commonField_iff {f : Field}
    : (∃ kept, fts.schema.commonField f = .ok kept)
        ↔
      (f.type = .null → ∃ g, fts.schema.field f.name = .ok g) := by
  unfold Schema.commonField
  split
  . next hnull =>
    simp only [Except.bind_eq_ok_iff, Except.pure_eq_ok_iff, hnull, true_imp_iff]
    constructor
    . rintro ⟨_, g, hg, _⟩
      exact ⟨g, hg⟩
    . rintro ⟨g, hg⟩
      exact ⟨_, g, hg, rfl⟩
  . next hnull =>
    exact iff_of_true ⟨f, rfl⟩ fun h => absurd h hnull

theorem lt_rows_of_unseenPositions {ids : List (Option Int)} (h : b.rowIds = .ok ids)
    (seen : List Int)
    : ∀ j ∈ unseenPositions seen ids, j < b.rows := by
  intro j hj
  obtain ⟨x, hx, _⟩ := mem_unseenPositions.1 hj
  rw [← length_of_rowIds h]
  exact (List.getElem?_eq_some_iff.1 hx).1

theorem exists_mergeColumn_iff {kept : List Nat} {f : Field} (hkept : ∀ j ∈ kept, j < fts.rows)
    : (∃ column, mergeColumn vector fts kept f = .ok column)
        ↔
      ∃ first second, vector.cells f.name = .ok first
        ∧ fts.cells f.name = .ok second
        ∧ f.type.isSupported
        ∧ (second.adopt f.type).type = (first.adopt f.type).type := by
  simp only [mergeColumn_eq_ok_iff, Cells.concat_eq_ok_iff]
  constructor
  . rintro ⟨_, first, second, _, hfirst, hsecond, ⟨hsupported, htype, _⟩, _⟩
    exact ⟨first, second, hfirst, hsecond, hsupported, htype⟩
  . rintro ⟨first, second, hfirst, hsecond, hsupported, htype⟩
    refine ⟨_, first, second, _, hfirst, hsecond, ⟨hsupported, htype, ?_, ?_, rfl⟩, rfl⟩
    . intro i hi
      unfold Cells.size
      rw [length_of_cells hfirst]
      exact List.mem_range.1 hi
    . intro j hj
      unfold Cells.size
      rw [length_of_cells hsecond]
      exact hkept j hj

theorem joins_iff {first second : Cells} {type : ColumnType}
    (hkept : (first.type ≠ .null ∧ type = first.type) ∨ (first.type = .null ∧ type = second.type))
    : (type.isSupported ∧ (second.adopt type).type = (first.adopt type).type)
        ↔
      first.type.Joins second.type := by
  have hunsupported : ColumnType.null.isSupported = false := by rfl
  unfold ColumnType.Joins Cells.adopt
  obtain ⟨hfirst, rfl⟩ | ⟨hfirst, rfl⟩ := hkept
  . by_cases hsecond : second.type = .null
    . simp [hfirst, hsecond]
    . simp only [hfirst, hsecond, if_false, false_and, or_false]
      exact ⟨fun ⟨h, heq⟩ => ⟨heq.symm, h⟩, fun ⟨heq, h⟩ => ⟨h, heq.symm⟩⟩
  . by_cases hsecond : second.type = .null
    . simp [hfirst, hsecond, hunsupported]
    . simp [hfirst, hsecond, hunsupported]

theorem type_of_keeps {f kept : Field} {first second : Cells} (hkeeps : fts.schema.Keeps f kept)
    (hf : f ∈ vector.schema.fields) (hfirst : vector.cells f.name = .ok first)
    (hsecond : fts.cells f.name = .ok second)
    : (first.type ≠ .null ∧ kept.type = first.type)
        ∨ (first.type = .null ∧ kept.type = second.type) := by
  rw [← type_of_cells hfirst hf rfl]
  obtain ⟨hnull, rfl⟩ | ⟨hnull, g, hg, hname, rfl⟩ := hkeeps
  . exact .inl ⟨hnull, rfl⟩
  . have hkept : g.type = second.type := type_of_cells hsecond hg hname
    exact .inr ⟨hnull, hkept⟩

theorem compatible_of_mergeRows (h : mergeRows vector fts = .ok merged)
    : vector.Compatible fts := by
  obtain ⟨s, vectorIds, ftsIds, hs, hvector, hfts, hcolumns, _⟩ := mergeRows_eq_ok_iff.1 h
  refine ⟨exists_rowIds_iff.1 ⟨_, hvector⟩, exists_rowIds_iff.1 ⟨_, hfts⟩, ?_⟩
  intro f hf g hg hname
  have hshared : f ∈ vector.schema.shared fts.schema := by
    rw [Schema.shared, List.mem_filter, decide_eq_true_eq, ← hname]
    exact ⟨hf, List.mem_map_of_mem hg⟩
  obtain ⟨kept, hkept, hkeeps⟩ := List.exists_right_of_forall₂ (Schema.common_eq_ok hs).1 hshared
  obtain ⟨column, _, hcolumn⟩ := List.exists_right_of_forall₂ hcolumns hkept
  obtain ⟨first, second, _, hfirst, hsecond, hcells, _⟩ := mergeColumn_eq_ok_iff.1 hcolumn
  obtain ⟨hsupported, htype, _⟩ := Cells.concat_eq_ok_iff.1 hcells
  rw [hkeeps.name_eq] at hfirst hsecond
  refine ⟨(cells_eq_ok_iff.1 hfirst).1, (cells_eq_ok_iff.1 hsecond).1, ?_⟩
  rw [type_of_cells hfirst hf rfl, type_of_cells hsecond hg hname]
  exact (joins_iff (type_of_keeps hkeeps hf hfirst hsecond)).1 ⟨hsupported, htype⟩

theorem length_of_mergeColumn {kept : List Nat} {f : Field} {column : Column}
    (h : mergeColumn vector fts kept f = .ok column)
    : column.values.length = vector.rows + kept.length := by
  obtain ⟨_, _, _, _, _, hcells, rfl⟩ := mergeColumn_eq_ok_iff.1 h
  obtain ⟨_, _, _, _, rfl⟩ := Cells.concat_eq_ok_iff.1 hcells
  rw [List.length_append, List.length_map, List.length_map, List.length_range]

namespace Compatible

variable {f : Field}

theorem cells_of_shared (h : vector.Compatible fts) (hf : f ∈ vector.schema.shared fts.schema)
    : ∃ first second, vector.cells f.name = .ok first
        ∧ fts.cells f.name = .ok second
        ∧ first.type.Joins second.type := by
  rw [Schema.shared, List.mem_filter, decide_eq_true_eq] at hf
  obtain ⟨hf, hin⟩ := hf
  obtain ⟨g, hg, hname⟩ := List.mem_map.1 hin
  obtain ⟨hvector, hfts, hjoins⟩ := h.joins f hf g hg hname
  have hfirst : vector.HasOne f.name fun _ => True := ⟨hvector, f, hf, rfl, trivial⟩
  have hsecond : fts.HasOne f.name fun _ => True := ⟨hfts, g, hg, hname, trivial⟩
  obtain ⟨first, hfirst, _⟩ := exists_cells_iff.2 hfirst
  obtain ⟨second, hsecond, _⟩ := exists_cells_iff.2 hsecond
  refine ⟨first, second, hfirst, hsecond, ?_⟩
  rw [← type_of_cells hfirst hf rfl, ← type_of_cells hsecond hg hname]
  exact hjoins

theorem exists_common (h : vector.Compatible fts)
    : ∃ s, vector.schema.common fts.schema = .ok s := by
  have hkept : ∀ f ∈ vector.schema.shared fts.schema,
      ∃ kept, fts.schema.commonField f = .ok kept := by
    intro f hf
    obtain ⟨_, second, _, hsecond, _⟩ := h.cells_of_shared hf
    exact exists_commonField_iff.2 fun _ => exists_field_of_count (cells_eq_ok_iff.1 hsecond).1
  obtain ⟨fields, hfields⟩ := List.exists_mapM_iff.2 hkept
  unfold Schema.common
  exact ⟨_, Except.bind_eq_ok_iff.2 ⟨fields, hfields, rfl⟩⟩

theorem exists_mergeColumn (h : vector.Compatible fts) {kept : List Nat}
    (hkept : ∀ j ∈ kept, j < fts.rows) {s : Schema} (hs : vector.schema.common fts.schema = .ok s)
    (hf : f ∈ s.fields)
    : ∃ column, mergeColumn vector fts kept f = .ok column := by
  obtain ⟨g, hg, hkeeps⟩ := List.exists_left_of_forall₂ (Schema.common_eq_ok hs).1 hf
  obtain ⟨first, second, hfirst, hsecond, hjoins⟩ := h.cells_of_shared hg
  obtain ⟨hsupported, htype⟩ := (joins_iff
    (type_of_keeps hkeeps (List.mem_of_mem_filter hg) hfirst hsecond)).2 hjoins
  rw [← hkeeps.name_eq] at hfirst hsecond
  exact (exists_mergeColumn_iff hkept).2 ⟨first, second, hfirst, hsecond, hsupported, htype⟩

theorem exists_mergeRows (h : vector.Compatible fts)
    : ∃ merged, mergeRows vector fts = .ok merged := by
  obtain ⟨vectorIds, hvector⟩ := exists_rowIds_iff.2 h.vectorKeyed
  obtain ⟨ftsIds, hfts⟩ := exists_rowIds_iff.2 h.ftsKeyed
  obtain ⟨s, hs⟩ := h.exists_common
  have hkept := lt_rows_of_unseenPositions hfts (vectorIds.filterMap id)
  obtain ⟨columns, hcolumns⟩ :=
    List.exists_mapM_iff.2 fun f hf => h.exists_mergeColumn hkept hs (f := f) hf
  rw [List.mapM_eq_ok_iff] at hcolumns
  refine ⟨⟨columns, s.metadata, ?_⟩, mergeRows_eq_ok_iff.2
    ⟨s, vectorIds, ftsIds, hs, hvector, hfts, hcolumns, rfl⟩⟩
  apply rowCount_eq_of_forall
  intro column hcolumn
  obtain ⟨f, _, hf⟩ := List.exists_left_of_forall₂ hcolumns hcolumn
  exact length_of_mergeColumn hf

end Compatible

theorem exists_merge_iff
    : (∃ merged, vector.merge fts = .ok merged)
        ↔
      vector.rows = 0 ∨ fts.rows = 0 ∨ vector.Compatible fts := by
  unfold merge loneSide?
  by_cases hvector : vector.rows = 0
  . rw [if_pos hvector]
    exact iff_of_true ⟨fts, rfl⟩ (.inl hvector)
  . by_cases hfts : fts.rows = 0
    . rw [if_neg hvector, if_pos hfts]
      exact iff_of_true ⟨vector, rfl⟩ (.inr (.inl hfts))
    . rw [if_neg hvector, if_neg hfts, or_iff_right hvector, or_iff_right hfts]
      exact ⟨fun ⟨_, h⟩ => compatible_of_mergeRows h, Compatible.exists_mergeRows⟩

theorem supported_of_mergeRows (h : mergeRows vector fts = .ok merged)
    : ∀ c ∈ merged.columns, c.field.type.isSupported := by
  intro column hcolumn
  obtain ⟨_, _, _, _, _, _, hcolumns, _⟩ := mergeRows_eq_ok_iff.1 h
  obtain ⟨f, _, hf⟩ := List.exists_left_of_forall₂ hcolumns hcolumn
  obtain ⟨_, _, _, _, _, hcells, rfl⟩ := mergeColumn_eq_ok_iff.1 hf
  exact (Cells.concat_eq_ok_iff.1 hcells).1

end Batch

end RankFusion
