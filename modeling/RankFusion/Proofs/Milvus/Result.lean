import RankFusion.Proofs.Batch.Merge
import RankFusion.Proofs.Column.Admission
import RankFusion.Proofs.Milvus.Hit

/-!
This module contains the batches that hits turn into: a column for every field of the projection, of
its declared type, the row identifiers, and the rank values.
-/

namespace RankFusion

namespace Value

theorem requireKey_eq_ok_iff {v : Value} : v.requireKey = .ok () ↔ v.notKey? = none := by
  unfold requireKey
  cases v.notKey? with
  | none => simp
  | some kind => simp

theorem extent_of_key {v : Value} (h : v.notKey? = none) : v.extent = .scalar ∧ v.leaves = [v] := by
  cases v with
  | list vs => cases h
  | _ => exact ⟨by unfold extent; rfl, by unfold leaves; rfl⟩

theorem extentOfItems_keys {vs : List Value} (h : ∀ v ∈ vs, v.notKey? = none)
    : extentOfItems .scalar vs = .scalar := by
  induction vs with
  | nil =>
    unfold extentOfItems
    rfl
  | cons v vs ih =>
    rw [List.forall_mem_cons] at h
    unfold extentOfItems
    rw [(extent_of_key h.1).1]
    exact ih h.2

theorem leavesOfItems_keys {vs : List Value} (h : ∀ v ∈ vs, v.notKey? = none)
    : leavesOfItems vs = vs := by
  induction vs with
  | nil =>
    unfold leavesOfItems
    rfl
  | cons v vs ih =>
    rw [List.forall_mem_cons] at h
    unfold leavesOfItems
    rw [(extent_of_key h.1).2, ih h.2]
    rfl

theorem toShape_keys {vs : List Value} (h : ∀ v ∈ vs, v.notKey? = none)
    : (Value.list vs).extent.toShape = .ok [vs.length] := by
  cases vs with
  | nil => rfl
  | cons v vs =>
    rw [List.forall_mem_cons] at h
    unfold extent
    rw [(extent_of_key h.1).1, extentOfItems_keys h.2]
    rfl

theorem words_keys {vs : List Value} (h : ∀ v ∈ vs, v.notKey? = none)
    : (Value.list vs).words = vs.mapM toWord := by
  unfold words elements
  rw [toShape_keys h]
  unfold leaves
  rw [leavesOfItems_keys h]
  change (vs.mapM toWord >>= fun ns => _) = _
  cases vs.mapM toWord <;> rfl

theorem words_ints {ns : List Int} (h : ∀ n ∈ ns, isWord n = true)
    : (Value.list (ns.map .int)).words = .ok ns := by
  rw [words_keys (by simp [notKey?]), List.mapM_eq_ok_iff, List.forall₂_map_left_iff,
    List.forall₂_same]
  intro n hn
  exact if_pos (h n hn)

end Value

namespace Milvus

abbrev Projected := String × ColumnType

namespace Hit

/--
The datum of a field in a hit. A field that the hit comes without is absent.
-/
def datum (h : Hit) (name : String) : Value := Value.lookup name h.entity

def cell (f : Projected) (h : Hit) : Value := f.2.shown (h.datum f.1)

def rowId (h : Hit) : Int := unsignedWord h.id

def column (hits : List Hit) (f : Projected) : Column := ⟨⟨f.1, f.2, true⟩, hits.map (cell f)⟩

def batch (fields : List Projected) (side : Side) (value : Hit → Binary) (hits : List Hit) :
    Batch where
  columns := fields.map (column hits) ++
    [⟨⟨rowIdColumn, .uint64, false⟩, hits.map fun h => .int h.rowId⟩,
     ⟨⟨rankColumnName side, .float32, true⟩,
      hits.map fun h => .real (Format.single.convert (value h))⟩]
  metadata := none
  aligned := rowCount_eq_of_forall (n := hits.length) (by
    intro c hc
    simp only [List.mem_append, List.mem_map, List.mem_cons, List.not_mem_nil, or_false] at hc
    obtain ⟨f, _, rfl⟩ | rfl | rfl := hc <;> simp [column])

variable {fields : List Projected} {hits : List Hit} {types : FieldTypes}

def Typed (fields : List Projected) (hits : List Hit) : Prop :=
  ∀ h ∈ hits, ∀ f ∈ fields, f.2.Admits (h.datum f.1)

def projection (fields : List Projected) : Projection := ⟨fields.map fun f => .text f.1, []⟩

theorem fieldColumn_eq {f : Projected} (htyped : Typed fields hits) (hf : f ∈ fields)
    (htypes : types.lookup? f.1 = some f.2)
    : fieldColumn types (projection fields) (hits.map (·.value)) (.text f.1) =
        .ok (column hits f) := by
  have hfound : (hits.map (·.value)).mapM (fun v => fieldValue (.text f.1) (entityOf v)) =
      .ok (hits.map fun h => h.datum f.1) := by
    apply List.mapM_map_eq_ok
    intro h _
    rw [h.entity_eq]
    rfl
  have hcells : (hits.map fun h => h.datum f.1).mapM f.2.convert = .ok (hits.map (cell f)) := by
    apply List.mapM_map_eq_ok
    intro h hh
    exact ColumnType.convert_of_admits (htyped h hh f hf)
  unfold fieldColumn
  refine Except.bind_eq_ok_iff.2 ⟨_, hfound, Except.bind_unit_eq_ok_iff.2 ⟨rfl, ?_⟩⟩
  dsimp only
  refine Except.bind_eq_ok_iff.2 ⟨⟨f.2, hits.map (cell f)⟩, ?_, rfl⟩
  unfold Cells.ofValues
  rw [htypes]
  exact Except.bind_eq_ok_iff.2 ⟨_, rfl, Except.bind_eq_ok_iff.2 ⟨_, hcells, rfl⟩⟩

theorem rowIdColumnOf_eq (collection : String) (hits : List Hit)
    : rowIdColumnOf collection (hits.map (·.value)) =
        .ok ⟨⟨rowIdColumn, .uint64, false⟩, hits.map fun h => .int h.rowId⟩ := by
  have hids : (hits.map (·.value)).mapM (fun v => v.part "id") =
      .ok ((hits.map (·.id)).map .int) := by
    rw [List.map_map]
    apply List.mapM_map_eq_ok
    intro h _
    exact h.id_eq
  have hwords : ∀ n ∈ hits.map (·.id), Value.isWord n = true := by
    intro n hn
    obtain ⟨h, _, rfl⟩ := List.mem_map.1 hn
    exact h.isWord
  unfold rowIdColumnOf
  refine Except.bind_eq_ok_iff.2 ⟨_, hids, Except.bind_eq_ok_iff.2 ⟨hits.map (·.id), ?_, ?_⟩⟩
  . rw [Value.words_ints hwords]
    rfl
  . rw [List.map_map]
    rfl

theorem toBatch_eq {c : CollectionConfig} {s : SubSearch} {lists : Value} {value : Hit → Binary}
    (hfields : fields ≠ []) (htyped : Typed fields hits)
    (htypes : ∀ f ∈ fields, types.lookup? f.1 = some f.2) (hrowId : s.withRowId.isTruthy = true)
    (hrank : rank c s lists = .ok (hits.map fun h => ⟨h.value, value h⟩))
    : toBatch c types s (projection fields) lists = .ok (batch fields s.side value hits) := by
  have hhits : (hits.map fun h => (⟨h.value, value h⟩ : RankedHit)).map (·.hit) =
      hits.map (·.value) := by
    rw [List.map_map]
    rfl
  have hshown : shownFields (projection fields) (hits.map (·.value)) =
      .ok (fields.map fun f => .text f.1) := by
    unfold shownFields projection
    cases fields with
    | nil => exact absurd rfl hfields
    | cons f fields => rfl
  have hcolumns : (fields.map fun f => Value.text f.1).mapM
      (fieldColumn types (projection fields) (hits.map (·.value))) =
        .ok (fields.map (column hits)) := by
    apply List.mapM_map_eq_ok
    intro f hf
    exact fieldColumn_eq htyped hf (htypes f hf)
  unfold toBatch
  refine Except.bind_eq_ok_iff.2 ⟨_, hrank, ?_⟩
  dsimp only
  rw [hhits]
  refine Except.bind_eq_ok_iff.2 ⟨_, hshown, Except.bind_eq_ok_iff.2 ⟨_, hcolumns, ?_⟩⟩
  rw [if_pos hrowId]
  refine Except.bind_eq_ok_iff.2 ⟨_, rowIdColumnOf_eq _ hits, ?_⟩
  refine Except.bind_eq_ok_iff.2 ⟨_, rfl, ?_⟩
  have hbatch : fields.map (column hits) ++
      [⟨⟨rowIdColumn, .uint64, false⟩, hits.map fun h => .int h.rowId⟩] ++
        [rankColumn s.side (hits.map fun h => ⟨h.value, value h⟩)] =
      (batch fields s.side value hits).columns := by
    unfold rankColumn
    rw [List.map_map, List.append_assoc]
    rfl
  have haligned : Batch.ofColumns? (batch fields s.side value hits).columns none =
      some (batch fields s.side value hits) :=
    Batch.ofColumns?_eq_some_iff.2 ⟨(batch fields s.side value hits).aligned, rfl, rfl⟩
  rw [hbatch, haligned]
  rfl

def columnTypes : List ColumnType := scalarTypes.map (·.2.2)

theorem supported_of_columnTypes {t : ColumnType} (h : t ∈ columnTypes) : t.isSupported = true := by
  have hall : ∀ t ∈ columnTypes, t.isSupported = true := by decide
  exact hall t h

/--
Whether fields can be projected on: there are some, their names are distinct and not taken, and
their types are those of a collection.
-/
structure Projectable (fields : List Projected) : Prop where
  ne_nil : fields ≠ []
  nodup : (fields.map (·.1)).Nodup
  free : ∀ f ∈ fields, f.1 ∉ [rowIdColumn, distanceColumn, scoreColumn, relevanceColumn]
  typed : ∀ f ∈ fields, f.2 ∈ columnTypes

theorem Projectable.ne_reserved (h : Projectable fields) {f : Projected} (hf : f ∈ fields)
    : f.1 ≠ rowIdColumn ∧ f.1 ≠ distanceColumn ∧ f.1 ≠ scoreColumn ∧ f.1 ≠ relevanceColumn := by
  have hfree := h.free f hf
  simpa only [List.mem_cons, List.not_mem_nil, or_false, not_or] using hfree

section Batch

variable (side : Side) (value : Hit → Binary) (hits : List Hit)

theorem fields_batch
    : (batch fields side value hits).schema.fields =
        (fields.map fun f => ⟨f.1, f.2, true⟩) ++
          [⟨rowIdColumn, .uint64, false⟩, ⟨rankColumnName side, .float32, true⟩] := by
  unfold Batch.schema batch
  rw [List.map_append, List.map_map]
  rfl

theorem names_batch
    : (batch fields side value hits).schema.names =
        fields.map (·.1) ++ [rowIdColumn, rankColumnName side] := by
  unfold Schema.names
  rw [fields_batch, List.map_append, List.map_map]
  rfl

theorem nodup_names_batch (h : Projectable fields)
    : (batch fields side value hits).schema.names.Nodup := by
  rw [names_batch, List.nodup_append]
  refine ⟨h.nodup, ?_, ?_⟩
  . cases side <;> decide
  . intro a ha c hc
    obtain ⟨f, hf, rfl⟩ := List.mem_map.1 ha
    have hfree := h.free f hf
    rintro rfl
    cases side <;> simp_all [rankColumnName]

theorem rows_batch : (batch fields side value hits).rows = hits.length := by
  have hmem : (⟨⟨rowIdColumn, .uint64, false⟩, hits.map fun h => .int h.rowId⟩ : Column) ∈
      (batch fields side value hits).columns :=
    List.mem_append_right _ List.mem_cons_self
  rw [← Batch.length_values_of_mem hmem, List.length_map]

theorem cells_batch (h : Projectable fields) {column : Column}
    (hcolumn : column ∈ (batch fields side value hits).columns)
    : (batch fields side value hits).cells column.field.name = .ok column.cells := by
  refine Batch.cells_eq_ok_iff.2 ⟨?_, column, hcolumn, rfl, rfl⟩
  apply List.count_eq_one_of_mem (nodup_names_batch side value hits h)
  rw [Batch.names_schema]
  exact List.mem_map_of_mem hcolumn

theorem rowIds_batch (h : Projectable fields)
    : (batch fields side value hits).rowIds = .ok (hits.map fun h => some h.rowId) := by
  refine Batch.rowIds_eq_ok_iff.2 ⟨_, cells_batch side value hits h
    (List.mem_append_right _ List.mem_cons_self), rfl, ?_⟩
  unfold Column.cells
  rw [List.map_map]
  rfl

theorem supported_batch (h : Projectable fields)
    : ∀ f ∈ (batch fields side value hits).schema.fields, f.type.isSupported = true := by
  intro f hf
  rw [fields_batch] at hf
  simp only [List.mem_append, List.mem_map, List.mem_cons, List.not_mem_nil, or_false] at hf
  obtain ⟨g, hg, rfl⟩ | rfl | rfl := hf
  . exact supported_of_columnTypes (h.typed g hg)
  . rfl
  . rfl

end Batch

end Hit

end Milvus

end RankFusion
