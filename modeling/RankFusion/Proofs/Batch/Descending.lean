import RankFusion.Proofs.Batch.Reorder
import RankFusion.Proofs.Column.Order

/-!
This module contains the sort of a whole batch by one column. Whole rows move, the better key stands
in front, and equally good ones keep their order. A second sort by the same column changes nothing,
and one by another column leaves the first to decide where the second does not.
-/

namespace RankFusion

namespace ColumnType

variable {t : ColumnType}

theorem isSortable_of_isSupported (h : t.isSupported) : t.isSortable = true := by
  have hall : ∀ t ∈ supported, t.isSortable = true := by decide
  exact hall t (of_decide_eq_true h)

end ColumnType

/--
Whether a row has a better key than another one, or an equally good one and comes before it anyway.
-/
def Precedes (keys : List Value) (before : Nat → Nat → Prop) (i j : Nat) : Prop :=
  (keys.getD i .null).Outranks (keys.getD j .null)
    ∨ ((keys.getD i .null).Ties (keys.getD j .null) ∧ before i j)

def Descending (keys : List Value) (before : Nat → Nat → Prop) (positions : List Nat) : Prop :=
  positions.Pairwise (Precedes keys before)

section Positions

variable {t : ColumnType} {keys : List Value}

theorem pairwise_descends (h : ∀ v ∈ keys, t.Admits v)
    : (descendingPositions keys).Pairwise fun i j =>
        (keys.getD i .null).descends (keys.getD j .null) = true
          ∧ ((keys.getD j .null).descends (keys.getD i .null) = true → i < j) := by
  -- Cells compare among those that the type admits, so the order is one on these.
  have hsorted := @pairwise_descendingPositions _ Subtype.val (keys.attachWith _ h)
    (fun a b c => Value.descends_trans a.2 b.2 c.2) (fun a b => Value.descends_total a.2 b.2)
  rw [List.attachWith_map_subtype_val] at hsorted
  refine hsorted.imp ?_
  rintro i j ⟨a, b, ha, hb, hab⟩
  have hget {i : Nat} {a : {v // t.Admits v}} (ha : (keys.attachWith _ h)[i]? = some a) :
      keys.getD i .null = a.val := by
    have hval := congrArg (Option.map Subtype.val) ha
    rw [← List.getElem?_map, List.attachWith_map_subtype_val] at hval
    rw [List.getD_eq_getElem?_getD, hval]
    rfl
  rw [hget ha, hget hb]
  exact hab

theorem admits_getD (h : ∀ v ∈ keys, t.Admits v) (i : Nat) : t.Admits (keys.getD i .null) := by
  rw [List.getD_eq_getElem?_getD]
  cases hi : keys[i]? with
  | none => exact .absent t
  | some v => exact h v (List.mem_of_getElem? hi)

theorem descending_descendingPositions (h : ∀ v ∈ keys, t.Admits v)
    : Descending keys (· < ·) (descendingPositions keys) := by
  refine (pairwise_descends h).imp ?_
  rintro i j ⟨hle, htie⟩
  exact Value.outranks_or_ties (admits_getD h i) (admits_getD h j) hle htie

theorem descendingPositions_eq_range (h : keys.Pairwise fun v w => v.descends w = true)
    : descendingPositions keys = List.range keys.length := by
  have hnumbered : keys.zipIdx.Pairwise fun a b => a.1.descends b.1 = true := by
    rwa [← List.pairwise_map (R := fun v w => Value.descends v w = true), List.zipIdx_map_fst]
  unfold descendingPositions
  rw [List.mergeSort_of_pairwise hnumbered, List.zipIdx_map_snd, List.range_eq_range']

theorem descendingPositions_sorted (h : ∀ v ∈ keys, t.Admits v)
    : descendingPositions ((descendingPositions keys).map (keys.getD · .null)) =
        List.range keys.length := by
  rw [descendingPositions_eq_range, List.length_map, (descendingPositions_perm keys).length_eq,
    List.length_range]
  rw [List.pairwise_map]
  exact (pairwise_descends h).imp And.left

theorem descending_map {before : Nat → Nat → Prop} {p q : List Nat} {first second : List Value}
    (hp : Descending first before p)
    (hq : Descending (p.map (second.getD · .null)) (· < ·) q) (hin : ∀ i ∈ q, i < p.length)
    : Descending second (Precedes first before) (q.map (p.getD · 0)) := by
  unfold Descending at hp hq ⊢
  rw [List.pairwise_map]
  refine hq.imp_of_mem ?_
  intro i j hi hj hij
  unfold Precedes at hij
  rw [getD_map_getD second .null (hin i hi), getD_map_getD second .null (hin j hj)] at hij
  refine hij.imp_right (And.imp_right fun hlt => ?_)
  simpa [hin i hi, hin j hj] using List.pairwise_iff_getElem.1 hp i j (hin i hi) (hin j hj) hlt

end Positions

namespace Batch

variable {b : Batch} {name other : String} {keys : Cells}

def WellTyped (b : Batch) : Prop := ∀ c ∈ b.columns, ∀ v ∈ c.values, c.field.type.Admits v

theorem WellTyped.admits (hb : b.WellTyped) (h : b.cells name = .ok keys)
    : ∀ v ∈ keys.values, keys.type.Admits v := by
  obtain ⟨_, c, hc, _, rfl⟩ := cells_eq_ok_iff.1 h
  exact hb c hc

theorem exists_cells (h : b.schema.names.count name = 1) : ∃ keys, b.cells name = .ok keys := by
  have hmem : name ∈ b.schema.names := List.count_pos_iff.1 (by omega)
  rw [names_schema, List.mem_map] at hmem
  obtain ⟨c, hc, hname⟩ := hmem
  exact ⟨c.cells, cells_eq_ok_iff.2 ⟨h, c, hc, hname, rfl⟩⟩

theorem sortDescending_eq_ok (hsupported : ∀ c ∈ b.columns, c.field.type.isSupported)
    (h : b.cells name = .ok keys)
    : b.sortDescending name = .ok (b.gather (descendingPositions keys.values)) := by
  refine sortDescending_eq_ok_iff.2 ⟨keys, h, fun _ => ⟨?_, hsupported⟩, rfl⟩
  obtain ⟨_, c, hc, _, rfl⟩ := cells_eq_ok_iff.1 h
  exact ColumnType.isSortable_of_isSupported (hsupported c hc)

theorem sortDescending_stable (htyped : b.WellTyped)
    (hsupported : ∀ c ∈ b.columns, c.field.type.isSupported)
    (hname : b.schema.names.count name = 1)
    : ∃ (keys : Cells) (positions : List Nat) (sorted : Batch),
        b.cells name = .ok keys
          ∧ b.sortDescending name = .ok sorted
          -- whole rows move
          ∧ sorted.schema = b.schema
          ∧ positions.Perm (List.range b.rows)
          ∧ sorted.columns = b.columns.map (·.gather positions)
          ∧ Descending keys.values (· < ·) positions
          -- a second sort by the same column
          ∧ sorted.sortDescending name = .ok sorted
          -- a second sort by another column
          ∧ ∀ other, b.schema.names.count other = 1 →
              ∃ (otherKeys : Cells) (positions' : List Nat) (twice : Batch),
                b.cells other = .ok otherKeys
                  ∧ sorted.sortDescending other = .ok twice
                  ∧ twice.schema = b.schema
                  ∧ positions'.Perm (List.range b.rows)
                  ∧ twice.columns = b.columns.map (·.gather positions')
                  ∧ Descending otherKeys.values (Precedes keys.values (· < ·)) positions' := by
  obtain ⟨keys, hkeys⟩ := exists_cells hname
  have hadmits := htyped.admits hkeys
  have hrows := length_of_cells hkeys
  have hperm : (descendingPositions keys.values).Perm (List.range b.rows) :=
    hrows ▸ descendingPositions_perm keys.values
  let sorted := b.gather (descendingPositions keys.values)
  have hsorted : ∀ c ∈ sorted.columns, c.field.type.isSupported := by
    intro c hc
    obtain ⟨column, hcolumn, rfl⟩ := List.mem_map.1 hc
    exact hsupported column hcolumn
  refine ⟨keys, _, sorted, hkeys, sortDescending_eq_ok hsupported hkeys, schema_gather _, hperm,
    rfl, descending_descendingPositions hadmits, ?again, ?other⟩
  case again =>
    rw [sortDescending_eq_ok hsorted (cells_gather hkeys)]
    change Except.ok (sorted.gather (descendingPositions
      ((descendingPositions keys.values).map (keys.values.getD · .null)))) = _
    rw [descendingPositions_sorted hadmits, hrows, ← rows_gather hperm, gather_range]
  case other =>
    intro other hother
    obtain ⟨otherKeys, hotherKeys⟩ := exists_cells hother
    let moved := otherKeys.gather (descendingPositions keys.values)
    have hcells : sorted.cells other = .ok moved := cells_gather hotherKeys
    have hperm' := descendingPositions_perm moved.values
    rw [length_of_cells hcells, rows_gather hperm, ← length_positions hperm] at hperm'
    have hin := fun i => lt_of_mem_positions hperm' (i := i)
    have hadmits' : ∀ v ∈ moved.values, otherKeys.type.Admits v := by
      intro v hv
      obtain ⟨i, _, rfl⟩ := List.mem_map.1 hv
      exact admits_getD (htyped.admits hotherKeys) i
    refine ⟨otherKeys, _, _, hotherKeys, sortDescending_eq_ok hsorted hcells, ?_,
      (map_getD_perm hperm' 0).trans hperm, ?_,
      descending_map (descending_descendingPositions hadmits)
        (descending_descendingPositions hadmits') hin⟩
    . rw [schema_gather, schema_gather]
    . rw [gather_gather hin]
      rfl

def gradedSample : Batch where
  columns := [
    ⟨⟨"grade", .real .double, true⟩,
      [.null, .real .negZero, .real .nan, .real .one, .real .zero]⟩,
    ⟨⟨"title", .string, true⟩, [.text "b", .text "a", .null, .text "é", .text "a"]⟩]
  metadata := none
  aligned := by decide

theorem sortDescending_stable_graded
    : gradedSample.WellTyped
        ∧ (∀ c ∈ gradedSample.columns, c.field.type.isSupported)
        ∧ gradedSample.schema.names.count "grade" = 1
        ∧ ∃ (positions : List Nat) (sorted twice : Batch),
            gradedSample.sortDescending "grade" = .ok sorted
              ∧ positions.Perm (List.range 5)
              ∧ sorted.columns = gradedSample.columns.map (·.gather positions)
              ∧ Descending [.null, .real .negZero, .real .nan, .real .one, .real .zero] (· < ·)
                  positions
              ∧ sorted.sortDescending "grade" = .ok sorted
              ∧ sorted.sortDescending "title" = .ok twice
              ∧ twice.schema = gradedSample.schema := by
  have htyped : gradedSample.WellTyped := by
    unfold WellTyped gradedSample
    simp only [List.forall_mem_cons]
    exact ⟨⟨.absent _, .real _ _, .real _ _, .real _ _, .real _ _, nofun⟩,
      ⟨.text _, .text _, .absent _, .text _, .text _, nofun⟩, nofun⟩
  have hsupported : ∀ c ∈ gradedSample.columns, c.field.type.isSupported := by decide
  have hname : gradedSample.schema.names.count "grade" = 1 := by decide
  obtain ⟨keys, positions, sorted, hkeys, hsorted, _, hperm, hcolumns, horder, hagain, hother⟩ :=
    sortDescending_stable htyped hsupported hname
  obtain ⟨_, _, twice, _, htwice, hschema, _⟩ := hother "title" (by decide)
  cases hkeys
  exact ⟨htyped, hsupported, hname, positions, sorted, twice, hsorted, hperm, hcolumns, horder,
    hagain, htwice, hschema⟩

end Batch

end RankFusion
