import RankFusion.Batch.Basic
import RankFusion.Proofs.Except

/-!
This module contains the lookup of columns by name. A lookup returns exactly if the name occurs
once, and then returns the cells of the column of that name.
-/

namespace RankFusion

theorem Schema.index_eq_ok_iff {s : Schema} {name : String} {i : Nat}
    : s.index name = .ok i ↔ s.names.count name = 1 ∧ s.names.idxOf name = i := by
  unfold Schema.index Schema.index?
  by_cases h : s.names.count name = 1
  . simp [h]
  . simp [h]

namespace Batch

variable {b : Batch} {name : String} {c : Cells}

theorem names_schema (b : Batch) : b.schema.names = b.columns.map (·.field.name) := by
  simp [schema, Schema.names]

theorem length_values_of_mem {column : Column} (h : column ∈ b.columns)
    : column.values.length = b.rows :=
  b.aligned column h

theorem eq_of_count_eq_one (h : b.schema.names.count name = 1) {c d : Column}
    (hc : c ∈ b.columns) (hd : d ∈ b.columns) (hcn : c.field.name = name)
    (hdn : d.field.name = name)
    : c = d := by
  have hlen : (b.columns.filter fun e => e.field.name == name).length = 1 := by
    rw [names_schema, List.count, List.countP_map, List.countP_eq_length_filter] at h
    exact h
  obtain ⟨e, he⟩ := List.length_eq_one_iff.1 hlen
  have hmem : ∀ x ∈ b.columns, x.field.name = name → x = e := by
    intro x hx hxn
    have : x ∈ b.columns.filter fun e => e.field.name == name := by
      rw [List.mem_filter]
      simp [hx, hxn]
    rw [he] at this
    exact List.mem_singleton.1 this
  rw [hmem c hc hcn, hmem d hd hdn]

theorem name_of_index {i : Nat} {column : Column} (hi : b.schema.index name = .ok i)
    (h : b.columns[i]? = some column)
    : column.field.name = name := by
  obtain ⟨hcount, rfl⟩ := Schema.index_eq_ok_iff.1 hi
  have hmem : name ∈ b.schema.names := List.count_pos_iff.1 (by omega)
  have hget := List.getElem?_idxOf hmem
  rw [names_schema, List.getElem?_map, ← names_schema, h, Option.map_some] at hget
  exact Option.some.inj hget

theorem cells_eq_ok_iff
    : b.cells name = .ok c
        ↔
      b.schema.names.count name = 1
        ∧ ∃ column ∈ b.columns, column.field.name = name ∧ column.cells = c := by
  unfold cells
  rw [Except.bind_eq_ok_iff]
  constructor
  . rintro ⟨i, hi, hget⟩
    refine ⟨(Schema.index_eq_ok_iff.1 hi).1, ?_⟩
    split at hget
    . next column hcolumn =>
      rw [Except.pure_eq_ok_iff] at hget
      exact ⟨column, List.mem_of_getElem? hcolumn, name_of_index hi hcolumn, hget⟩
    . exact absurd hget Except.throw_ne_ok
  . rintro ⟨hcount, column, hmem, hname, rfl⟩
    have hi : b.schema.index name = .ok (b.schema.names.idxOf name) :=
      Schema.index_eq_ok_iff.2 ⟨hcount, rfl⟩
    refine ⟨_, hi, ?_⟩
    -- The column at the position of the name is the only one of that name.
    cases hd : b.columns[b.schema.names.idxOf name]? with
    | none =>
      have hin : name ∈ b.schema.names := List.count_pos_iff.1 (by omega)
      have hlt := List.idxOf_lt_length_of_mem hin
      rw [List.getElem?_eq_none_iff] at hd
      rw [names_schema, List.length_map, ← names_schema] at hlt
      omega
    | some d =>
      rw [eq_of_count_eq_one hcount hmem (List.mem_of_getElem? hd) hname (name_of_index hi hd)]
      rfl

theorem mem_names_of_cells (h : b.cells name = .ok c) : name ∈ b.schema.names := by
  have := (cells_eq_ok_iff.1 h).1
  exact List.count_pos_iff.1 (by omega)

theorem type_of_cells (h : b.cells name = .ok c) {f : Field} (hf : f ∈ b.schema.fields)
    (hname : f.name = name)
    : f.type = c.type := by
  obtain ⟨hcount, column, hmem, hcolumn, rfl⟩ := cells_eq_ok_iff.1 h
  obtain ⟨other, hother, rfl⟩ := List.mem_map.1 hf
  rw [eq_of_count_eq_one hcount hother hmem hname hcolumn]
  rfl

theorem rowIds_eq_ok_iff {ids : List (Option Int)}
    : b.rowIds = .ok ids
        ↔
      ∃ c, b.cells rowIdColumn = .ok c ∧ c.type = .uint64 ∧ c.values.map integer? = ids := by
  unfold rowIds
  rw [Except.bind_eq_ok_iff]
  constructor
  . rintro ⟨c, hc, hids⟩
    split at hids
    . next htype => exact ⟨c, hc, htype, Except.pure_eq_ok_iff.1 hids⟩
    . exact absurd hids Except.throw_ne_ok
  . rintro ⟨c, hc, htype, rfl⟩
    refine ⟨c, hc, ?_⟩
    rw [if_pos htype]
    rfl

theorem length_of_cells (h : b.cells name = .ok c) : c.values.length = b.rows := by
  obtain ⟨_, column, hmem, _, rfl⟩ := cells_eq_ok_iff.1 h
  exact length_values_of_mem hmem

theorem length_of_rowIds {ids : List (Option Int)} (h : b.rowIds = .ok ids)
    : ids.length = b.rows := by
  obtain ⟨c, hc, _, rfl⟩ := rowIds_eq_ok_iff.1 h
  rw [List.length_map]
  exact length_of_cells hc

theorem names_dropColumn (b : Batch) (name : String)
    : (b.dropColumn name).schema.names = b.schema.names.filter (· != name) := by
  rw [names_schema, names_schema, List.filter_map]
  rfl

theorem cells_dropColumn_of_ne {other : String} (hne : name ≠ other) (h : b.cells name = .ok c)
    : (b.dropColumn other).cells name = .ok c := by
  obtain ⟨hcount, column, hmem, hname, rfl⟩ := cells_eq_ok_iff.1 h
  have hstays : (name != other) = true := bne_iff_ne.2 hne
  refine cells_eq_ok_iff.2 ⟨?_, column, ?_, hname, rfl⟩
  . rw [names_dropColumn, List.count_filter (p := (· != other)) hstays, hcount]
  . exact List.mem_filter.2 ⟨hmem, hname ▸ hstays⟩

section Gather

variable {positions : List Nat}

theorem schema_gather (positions : List Nat) : (b.gather positions).schema = b.schema := by
  unfold gather schema
  rw [List.map_map]
  rfl

theorem cells_gather (h : b.cells name = .ok c)
    : (b.gather positions).cells name = .ok (c.gather positions) := by
  obtain ⟨hcount, column, hmem, hname, rfl⟩ := cells_eq_ok_iff.1 h
  refine cells_eq_ok_iff.2 ⟨?_, column.gather positions, List.mem_map_of_mem hmem, hname, rfl⟩
  rw [schema_gather]
  exact hcount

theorem rowIds_gather {ids : List (Option Int)} (h : b.rowIds = .ok ids)
    : (b.gather positions).rowIds = .ok (positions.map fun i => ids.getD i none) := by
  obtain ⟨c, hc, htype, rfl⟩ := rowIds_eq_ok_iff.1 h
  refine rowIds_eq_ok_iff.2 ⟨c.gather positions, cells_gather hc, htype, ?_⟩
  unfold Cells.gather
  rw [List.map_map]
  apply List.map_congr_left
  intro i _
  rw [Function.comp_apply, List.getD_eq_getElem?_getD, List.getD_eq_getElem?_getD,
    List.getElem?_map]
  cases c.values[i]? with
  | none => rfl
  | some v => rfl

end Gather

section Append

variable {scores : List Binary} {result : Batch}

theorem append_eq_ok (h : b.append name scores = .ok result)
    : ∃ hlength, result = b.withScores name (scores.map Format.single.convert) hlength := by
  unfold append at h
  dsimp only at h
  split at h
  . next hlength =>
    cases h
    exact ⟨hlength, rfl⟩
  . cases h

theorem columns_gather_withScores {hlength : scores.length = b.rows} (positions : List Nat)
    : ((b.withScores name scores hlength).gather positions).columns =
        b.columns.map (·.gather positions)
          ++ [⟨⟨name, .float32, false⟩, positions.map fun i => (scores.map .real).getD i .null⟩] :=
  List.map_append

theorem names_withScores {hlength : scores.length = b.rows}
    : (b.withScores name scores hlength).schema.names = b.schema.names ++ [name] := by
  rw [names_schema, names_schema]
  unfold withScores
  rw [List.map_append]
  rfl

theorem cells_withScores_self {hlength : scores.length = b.rows} (h : name ∉ b.schema.names)
    : (b.withScores name scores hlength).cells name = .ok ⟨.float32, scores.map .real⟩ := by
  refine cells_eq_ok_iff.2 ⟨?_, ⟨⟨name, .float32, false⟩, scores.map .real⟩, ?_, rfl, rfl⟩
  . rw [names_withScores, List.count_append, List.count_singleton_self, List.count_eq_zero.2 h]
  . exact List.mem_append_right _ (List.mem_singleton.2 rfl)

theorem not_mem_names_of_cells_withScores {hlength : scores.length = b.rows}
    (h : (b.withScores name scores hlength).cells name = .ok c)
    : name ∉ b.schema.names := by
  have hcount := (cells_eq_ok_iff.1 h).1
  rw [names_withScores, List.count_append, List.count_singleton_self] at hcount
  exact List.count_eq_zero.1 (by omega)

theorem cells_withScores_of_ne {hlength : scores.length = b.rows} {other : String}
    (hne : other ≠ name) (h : b.cells other = .ok c)
    : (b.withScores name scores hlength).cells other = .ok c := by
  obtain ⟨hcount, column, hmem, hname, rfl⟩ := cells_eq_ok_iff.1 h
  refine cells_eq_ok_iff.2 ⟨?_, column, List.mem_append_left _ hmem, hname, rfl⟩
  rw [names_withScores, List.count_append, hcount, List.count_singleton,
    if_neg (by simpa using hne.symm)]

theorem rowIds_withScores {hlength : scores.length = b.rows} {ids : List (Option Int)}
    (hne : rowIdColumn ≠ name) (h : b.rowIds = .ok ids)
    : (b.withScores name scores hlength).rowIds = .ok ids := by
  obtain ⟨c, hc, htype, hids⟩ := rowIds_eq_ok_iff.1 h
  exact rowIds_eq_ok_iff.2 ⟨c, cells_withScores_of_ne hne hc, htype, hids⟩

end Append

end Batch

end RankFusion
