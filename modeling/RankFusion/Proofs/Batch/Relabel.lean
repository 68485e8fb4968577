import RankFusion.Batch.Sort
import RankFusion.Proofs.Batch.Merge

/-!
This module contains the exchange of row identifiers for others. Operations on batches compare
identifiers for equality only, so an injective exchange before an operation is one after it.
-/

namespace RankFusion

def Value.relabel (p : Int → Int) : Value → Value
  | .int n => .int (p n)
  | v => v

namespace Cells

def map (g : Value → Value) (c : Cells) : Cells := ⟨c.type, c.values.map g⟩

variable {g : Value → Value} {c first second : Cells}

theorem size_map : (c.map g).size = c.size := List.length_map g

theorem map_id : c.map id = c := by
  unfold map
  rw [List.map_id]

theorem adopt_map (hg : g .null = .null) (t : ColumnType)
    : (c.map g).adopt t = (c.adopt t).map g := by
  unfold adopt
  rw [size_map]
  unfold map
  dsimp only
  split
  . rw [List.map_replicate, hg]
  . rfl

theorem gather_map (hg : g .null = .null) (positions : List Nat)
    : (c.map g).gather positions = (c.gather positions).map g := by
  unfold gather map
  rw [mk.injEq, List.map_map]
  refine ⟨rfl, List.map_congr_left ?_⟩
  intro i _
  rw [Function.comp_apply, List.getD_eq_getElem?_getD, List.getD_eq_getElem?_getD,
    List.getElem?_map]
  cases c.values[i]? with
  | none => exact hg.symm
  | some v => rfl

theorem take_map (hg : g .null = .null) (indices : List Int)
    : (c.map g).take indices = map g <$> c.take indices := by
  unfold take
  rw [size_map]
  cases positions? c.size indices with
  | none => rfl
  | some positions => exact congrArg Except.ok (gather_map hg positions)

theorem append_map : (first.map g).append (second.map g) = (first.append second).map g := by
  unfold append map
  rw [List.map_append]

theorem align_map (hg : g .null = .null) (f : Field)
    : align f (first.map g) (second.map g) = Prod.map (map g) (map g) <$> align f first second := by
  unfold align
  rw [map_bind, adopt_map hg, adopt_map hg]
  apply Except.bind_congr_of_ok
  intro _ _
  unfold map
  dsimp only
  split
  . rfl
  . rfl

theorem concat_map (hg : g .null = .null) (f : Field) (is js : List Int)
    : concat f (first.map g) is (second.map g) js = map g <$> concat f first is second js := by
  unfold concat
  rw [align_map hg, bind_map_left, map_bind]
  apply Except.bind_congr_of_ok
  rintro ⟨first, second⟩ _
  simp only [Prod.map_apply, take_map hg, bind_map_left, map_bind, map_pure, append_map]

end Cells

/--
The exchange of the cells of a column. It concerns row identifiers only.
-/
def relabelCell (p : Int → Int) (name : String) (type : ColumnType) : Value → Value :=
  if name = rowIdColumn ∧ type = .uint64 then Value.relabel p else id

def Column.relabel (p : Int → Int) (c : Column) : Column :=
  { c with values := c.values.map (relabelCell p c.field.name c.field.type) }

/--
The batch with its row identifiers exchanged. Rows without one stay without one.
-/
def Batch.relabel (p : Int → Int) (b : Batch) : Batch where
  columns := b.columns.map (·.relabel p)
  metadata := b.metadata
  aligned := rowCount_eq_of_forall (n := b.rows) (by
    intro c hc
    obtain ⟨d, hd, rfl⟩ := List.mem_map.1 hc
    exact (List.length_map _).trans (b.aligned d hd))

variable {p : Int → Int} {name : String}

theorem relabelCell_null (type : ColumnType) : relabelCell p name type .null = .null := by
  unfold relabelCell
  split
  . rfl
  . rfl

theorem relabelCell_of_ne (h : name ≠ rowIdColumn) (type : ColumnType)
    : relabelCell p name type = id :=
  if_neg fun hrowId => h hrowId.1

theorem relabelCell_rowId : relabelCell p rowIdColumn .uint64 = Value.relabel p :=
  if_pos ⟨rfl, rfl⟩

theorem Column.length_values_relabel (c : Column)
    : (c.relabel p).values.length = c.values.length :=
  List.length_map _

theorem filterMap_id_relabel (ids : List (Option Int))
    : (ids.map (Option.map p)).filterMap id = (ids.filterMap id).map p := by
  induction ids with
  | nil => rfl
  | cons x ids ih =>
    cases x with
    | none => exact ih
    | some x => exact congrArg (p x :: ·) ih

theorem unseenPositions.go_relabel (hp : Function.Injective p) (seen : List Int) (start : Nat)
    (ids : List (Option Int))
    : go (seen.map p) start (ids.map (Option.map p)) = go seen start ids := by
  induction ids generalizing seen start with
  | nil => rfl
  | cons x ids ih =>
    cases x with
    | none => exact ih seen (start + 1)
    | some x =>
      have htail := ih (x :: seen) (start + 1)
      rw [List.map_cons] at htail
      simp only [List.map_cons, Option.map_some, go, List.mem_map_of_injective hp, ih, htail]

namespace Batch

variable {b vector fts : Batch}

theorem integer?_relabel (v : Value) : integer? (v.relabel p) = (integer? v).map p := by
  cases v <;> rfl

theorem ext {b c : Batch} (hcolumns : b.columns = c.columns) (hmetadata : b.metadata = c.metadata)
    : b = c := by
  cases b
  cases c
  rw [mk.injEq]
  exact ⟨hcolumns, hmetadata⟩

theorem schema_relabel : (b.relabel p).schema = b.schema := by
  unfold relabel schema
  rw [List.map_map]
  rfl

theorem rowCount_map {columns : List Column} {f : Column → Column}
    (hf : ∀ c, (f c).values.length = c.values.length)
    : rowCount (columns.map f) = rowCount columns := by
  cases columns with
  | nil => rfl
  | cons c columns => exact hf c

theorem rows_relabel : (b.relabel p).rows = b.rows :=
  rowCount_map Column.length_values_relabel

theorem cells_relabel
    : (b.relabel p).cells name = (fun c => c.map (relabelCell p name c.type)) <$> b.cells name := by
  unfold cells
  rw [schema_relabel, map_bind]
  apply Except.bind_congr_of_ok
  intro i hi
  have hcolumn : (b.relabel p).columns[i]? = (b.columns[i]?).map (·.relabel p) := List.getElem?_map
  rw [hcolumn]
  cases hc : b.columns[i]? with
  | none => rfl
  | some c =>
    rw [← name_of_index hi hc]
    rfl

theorem rowIds_relabel : (b.relabel p).rowIds = List.map (Option.map p) <$> b.rowIds := by
  unfold rowIds
  rw [cells_relabel, bind_map_left, map_bind]
  apply Except.bind_congr_of_ok
  intro c _
  unfold Cells.map
  dsimp only
  split
  . next htype =>
    rw [htype, relabelCell_rowId, map_pure, List.map_map, List.map_map]
    congr 2
    funext v
    exact integer?_relabel v
  . rfl

theorem numbers_relabel (hname : name ≠ rowIdColumn)
    : (b.relabel p).numbers name = b.numbers name := by
  unfold numbers
  rw [cells_relabel]
  simp only [relabelCell_of_ne hname, Cells.map_id, id_map']

theorem gather_relabel (positions : List Nat)
    : (b.relabel p).gather positions = (b.gather positions).relabel p := by
  have hcolumns : (b.columns.map (·.relabel p)).map (·.gather positions) =
      (b.columns.map (·.gather positions)).map (·.relabel p) := by
    rw [List.map_map, List.map_map]
    apply List.map_congr_left
    intro c _
    have hcells := Cells.gather_map (c := c.cells)
      (g := relabelCell p c.field.name c.field.type) (relabelCell_null _) positions
    exact congrArg (Column.mk c.field) (Cells.mk.inj hcells).2
  exact ext hcolumns rfl

theorem mergeColumn_relabel {kept : List Nat} {f : Field}
    (hvector : f.name = rowIdColumn → ∀ c, vector.cells f.name = .ok c → c.type = f.type)
    (hfts : f.name = rowIdColumn → ∀ c, fts.cells f.name = .ok c → c.type = f.type)
    : mergeColumn (vector.relabel p) (fts.relabel p) kept f =
        Column.relabel p <$> mergeColumn vector fts kept f := by
  have hcell : ∀ {c : Cells}, (f.name = rowIdColumn → c.type = f.type) →
      relabelCell p f.name c.type = relabelCell p f.name f.type := by
    intro c hc
    -- Cells other than row identifiers stay, whatever the types are.
    by_cases hname : f.name = rowIdColumn
    . rw [hc hname]
    . rw [relabelCell_of_ne hname, relabelCell_of_ne hname]
  unfold mergeColumn
  rw [cells_relabel, cells_relabel, rows_relabel, map_bind, bind_map_left]
  apply Except.bind_congr_of_ok
  intro first hfirst
  rw [map_bind, bind_map_left]
  apply Except.bind_congr_of_ok
  intro second hsecond
  rw [hcell fun hname => hvector hname first hfirst, hcell fun hname => hfts hname second hsecond,
    Cells.concat_map (relabelCell_null _), map_bind, bind_map_left]
  apply Except.bind_congr_of_ok
  intro cells _
  rfl

theorem ofColumns?_relabel (columns : List Column) (metadata : Option (List (String × String)))
    : ofColumns? (columns.map (·.relabel p)) metadata =
        (ofColumns? columns metadata).map (·.relabel p) := by
  have haligned : (∀ c ∈ columns.map (·.relabel p),
      c.values.length = rowCount (columns.map (·.relabel p))) ↔
        ∀ c ∈ columns, c.values.length = rowCount columns := by
    rw [List.forall_mem_map, rowCount_map Column.length_values_relabel]
    apply forall₂_congr
    intro c _
    rw [Column.length_values_relabel]
  unfold ofColumns?
  by_cases h : ∀ c ∈ columns, c.values.length = rowCount columns
  . rw [dif_pos h, dif_pos (haligned.2 h)]
    rfl
  . rw [dif_neg h, dif_neg (haligned.not.2 h)]
    rfl

theorem type_of_common {s : Schema} {f : Field} {ids : List (Option Int)}
    (hs : vector.schema.common fts.schema = .ok s) (hf : f ∈ s.fields)
    (hname : f.name = rowIdColumn) (hids : vector.rowIds = .ok ids)
    : f.type = .uint64 := by
  obtain ⟨c, hc, htype, _⟩ := rowIds_eq_ok_iff.1 hids
  obtain ⟨g, hg, hkeeps⟩ := List.exists_left_of_forall₂ (Schema.common_eq_ok hs).1 hf
  have hg : g.type = .uint64 := by
    rw [← htype]
    exact type_of_cells hc (List.mem_of_mem_filter hg) (hkeeps.name_eq.symm.trans hname)
  obtain ⟨_, rfl⟩ | ⟨hnull, _⟩ := hkeeps
  . exact hg
  . rw [hnull] at hg
    cases hg

theorem mergeRows_relabel (hp : Function.Injective p)
    : mergeRows (vector.relabel p) (fts.relabel p) = relabel p <$> mergeRows vector fts := by
  unfold mergeRows
  rw [schema_relabel, schema_relabel, rowIds_relabel, rowIds_relabel, map_bind]
  apply Except.bind_congr_of_ok
  intro s hs
  rw [map_bind, bind_map_left]
  apply Except.bind_congr_of_ok
  intro vectorIds hvectorIds
  rw [map_bind, bind_map_left]
  apply Except.bind_congr_of_ok
  intro ftsIds hftsIds
  -- The scan compares identifiers for equality only, so it keeps the same rows.
  have hkept : unseenPositions ((vectorIds.map (Option.map p)).filterMap id)
      (ftsIds.map (Option.map p)) = unseenPositions (vectorIds.filterMap id) ftsIds := by
    rw [filterMap_id_relabel]
    exact unseenPositions.go_relabel hp _ 0 ftsIds
  dsimp only
  rw [hkept]
  generalize unseenPositions (vectorIds.filterMap id) ftsIds = kept
  rw [List.mapM_eq_map_mapM (k := Column.relabel p), map_bind, bind_map_left]
  . apply Except.bind_congr_of_ok
    intro columns _
    rw [ofColumns?_relabel]
    cases ofColumns? columns s.metadata with
    | none => rfl
    | some merged => rfl
  . intro f hf
    have htype : ∀ {b : Batch} {ids : List (Option Int)}, b.rowIds = .ok ids →
        f.name = rowIdColumn → ∀ c, b.cells f.name = .ok c → c.type = f.type := by
      intro b ids hids hname c hc
      obtain ⟨d, hd, hdtype, _⟩ := rowIds_eq_ok_iff.1 hids
      rw [type_of_common hs hf hname hvectorIds]
      rw [hname, hd] at hc
      cases hc
      exact hdtype
    exact mergeColumn_relabel (htype hvectorIds) (htype hftsIds)

theorem merge_relabel (hp : Function.Injective p)
    : (vector.relabel p).merge (fts.relabel p) = relabel p <$> vector.merge fts := by
  unfold merge loneSide?
  rw [rows_relabel, rows_relabel, mergeRows_relabel hp]
  split
  . rfl
  . rfl
  . rfl

theorem append_relabel (hname : name ≠ rowIdColumn) (scores : List Binary)
    : (b.relabel p).append name scores = relabel p <$> b.append name scores := by
  have hscores : Column.relabel p
      ⟨⟨name, .float32, false⟩, (scores.map Format.single.convert).map .real⟩ =
        ⟨⟨name, .float32, false⟩, (scores.map Format.single.convert).map .real⟩ := by
    unfold Column.relabel
    rw [relabelCell_of_ne hname, List.map_id]
  unfold append
  dsimp only
  by_cases hlength : (scores.map Format.single.convert).length = b.rows
  . rw [dif_pos hlength, dif_pos (hlength.trans rows_relabel.symm)]
    refine congrArg Except.ok (ext ?_ rfl)
    unfold relabel withScores
    dsimp only
    rw [List.map_append, List.map_singleton, hscores]
  . rw [dif_neg hlength, dif_neg fun h => hlength (h.trans rows_relabel), rows_relabel]
    rfl

theorem take_relabel (indices : List Int)
    : (b.relabel p).take indices = relabel p <$> b.take indices := by
  have htakeable : (b.relabel p).ensureTakeable indices = b.ensureTakeable indices := by
    unfold ensureTakeable relabel
    dsimp only
    rw [List.forM_eq_forM, List.forM_map]
    have hcheck : ∀ c : Column, (c.relabel p).cells.size = c.cells.size :=
      fun c => Column.length_values_relabel c
    simp only [hcheck]
    rfl
  unfold take
  rw [htakeable, map_bind, gather_relabel]
  rfl

theorem sortDescending_relabel (hname : name ≠ rowIdColumn)
    : (b.relabel p).sortDescending name = relabel p <$> b.sortDescending name := by
  unfold sortDescending
  rw [cells_relabel, rows_relabel, map_bind, bind_map_left]
  apply Except.bind_congr_of_ok
  intro keys _
  rw [relabelCell_of_ne hname, Cells.map_id]
  split
  . rfl
  . split
    . rfl
    . exact take_relabel _

end Batch

end RankFusion
