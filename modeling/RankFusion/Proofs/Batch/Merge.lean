import RankFusion.Batch.Merge
import RankFusion.Proofs.Batch.Lookup
import RankFusion.Proofs.Column.Concat

/-!
This module contains what a merge of two batches is made of: its fields, its rows and its cells. All
vector rows come first, and then the text rows that bring a new identifier.
-/

namespace RankFusion

namespace unseenPositions

theorem mem_go {seen : List Int} {start j : Nat} {ids : List (Option Int)}
    : j ∈ go seen start ids
        ↔
      ∃ n id, j = start + n ∧ ids[n]? = some (some id) ∧ id ∉ seen ∧ some id ∉ ids.take n := by
  induction ids generalizing seen start with
  | nil => simp [go]
  | cons x ids ih =>
    -- The identifiers behind the first one are looked at with the positions moved by one.
    have hcons : ∀ (P : Nat → Int → Prop),
        (∃ n id, P n id) ↔ (∃ id, P 0 id) ∨ ∃ n id, P (n + 1) id := by
      intro P
      constructor
      . rintro ⟨n, id, h⟩
        cases n with
        | zero => exact .inl ⟨id, h⟩
        | succ n => exact .inr ⟨n, id, h⟩
      . rintro (⟨id, h⟩ | ⟨n, id, h⟩)
        . exact ⟨0, id, h⟩
        . exact ⟨n + 1, id, h⟩
    rw [hcons]
    cases x with
    | none =>
      rw [go, ih]
      simp only [List.getElem?_cons_zero, List.getElem?_cons_succ, List.take_succ_cons]
      simp [Nat.add_assoc, Nat.add_comm 1]
    | some a =>
      rw [go]
      split
      . next hseen =>
        rw [ih]
        simp only [List.getElem?_cons_zero, List.getElem?_cons_succ, List.take_succ_cons]
        grind
      . next hseen =>
        rw [List.mem_cons, ih]
        simp only [List.getElem?_cons_zero, List.getElem?_cons_succ, List.take_succ_cons]
        grind

theorem pairwise_go {seen : List Int} {start : Nat} {ids : List (Option Int)}
    : (go seen start ids).Pairwise (· < ·) := by
  induction ids generalizing seen start with
  | nil => exact .nil
  | cons x ids ih =>
    cases x with
    | none => exact ih
    | some a =>
      rw [go]
      split
      . exact ih
      . refine List.pairwise_cons.2 ⟨?_, ih⟩
        intro j hj
        obtain ⟨n, _, rfl, _⟩ := mem_go.1 hj
        omega

theorem map_go {α β : Type} {key : α → Int} {xs : List α} (h : (xs.map key).Nodup)
    (seen : List Int) (start : Nat) (f : α → β) (g : Nat → β)
    (hg : ∀ n x, xs[n]? = some x → g (start + n) = f x)
    : (go seen start (xs.map fun x => some (key x))).map g =
        (xs.filter fun x => key x ∉ seen).map f := by
  induction xs generalizing seen start with
  | nil => rfl
  | cons x xs ih =>
    rw [List.map_cons, List.nodup_cons] at h
    have htail : ∀ n y, xs[n]? = some y → g (start + 1 + n) = f y := by
      intro n y hy
      rw [Nat.add_right_comm]
      exact hg (n + 1) y hy
    rw [List.map_cons, go]
    split
    . next hseen =>
      rw [ih h.2 seen (start + 1) htail, List.filter_cons_of_neg (by simpa using hseen)]
    . next hseen =>
      have hhead : g start = f x := hg 0 x rfl
      rw [List.map_cons, ih h.2 _ (start + 1) htail, List.filter_cons_of_pos (by simpa using hseen),
        List.map_cons, hhead]
      congr 2
      apply List.filter_congr
      intro y hy
      have hne : key y ≠ key x := by
        intro heq
        exact h.1 (List.mem_map.2 ⟨y, hy, heq⟩)
      simp [hne]

end unseenPositions

theorem map_unseenPositions {α β : Type} {key : α → Int} {seen xs : List α}
    (h : (xs.map key).Nodup) (f : α → β) (d : β)
    : (unseenPositions ((seen.map fun x => some (key x)).filterMap id)
          (xs.map fun x => some (key x))).map (fun j => (xs.map f).getD j d) =
        (xs.filter fun x => key x ∉ seen.map key).map f := by
  have hseen : (seen.map fun x => some (key x)).filterMap id = seen.map key := by
    rw [List.filterMap_map]
    exact congrFun (List.filterMap_eq_map (f := key)) seen
  rw [hseen]
  apply unseenPositions.map_go h
  intro n x hx
  rw [Nat.zero_add, List.getD_eq_getElem?_getD, List.getElem?_map, hx]
  rfl

theorem mem_unseenPositions {seen : List Int} {j : Nat} {ids : List (Option Int)}
    : j ∈ unseenPositions seen ids
        ↔
      ∃ id, ids[j]? = some (some id) ∧ id ∉ seen ∧ some id ∉ ids.take j := by
  unfold unseenPositions
  rw [unseenPositions.mem_go]
  simp

theorem pairwise_unseenPositions (seen : List Int) (ids : List (Option Int))
    : (unseenPositions seen ids).Pairwise (· < ·) :=
  unseenPositions.pairwise_go

namespace Schema

/--
Whether a merge keeps a field of the first schema as the given one. A column without values takes
the definition of the second side, and may then have absent cells.
-/
def Keeps (second : Schema) (f kept : Field) : Prop :=
  (f.type ≠ .null ∧ kept = f)
    ∨ (f.type = .null ∧ ∃ g ∈ second.fields, g.name = f.name ∧ kept = { g with nullable := true })

theorem Keeps.name_eq {second : Schema} {f kept : Field} (h : second.Keeps f kept)
    : kept.name = f.name := by
  obtain ⟨_, rfl⟩ | ⟨_, g, _, hname, rfl⟩ := h
  . rfl
  . exact hname

theorem names_of_keeps {second : Schema} {fields kept : List Field}
    (h : List.Forall₂ second.Keeps fields kept)
    : kept.map (·.name) = fields.map (·.name) :=
  (List.map_eq_map_of_forall₂ h fun _ _ hkeeps => hkeeps.name_eq.symm).symm

theorem mem_of_field {s : Schema} {name : String} {f : Field} (h : s.field name = .ok f)
    : f ∈ s.fields ∧ f.name = name := by
  unfold field at h
  split at h
  . next g hfilter =>
    cases h
    have : f ∈ s.fields.filter fun f => f.name == name := by
      rw [hfilter]
      exact List.mem_singleton.2 rfl
    simpa using this
  . cases h

theorem keeps_of_commonField {second : Schema} {f kept : Field}
    (h : commonField second f = .ok kept)
    : second.Keeps f kept := by
  unfold commonField at h
  split at h
  . next htype =>
    obtain ⟨g, hg, hkept⟩ := Except.bind_eq_ok_iff.1 h
    obtain ⟨hmem, hname⟩ := mem_of_field hg
    exact .inr ⟨htype, g, hmem, hname, (Except.pure_eq_ok_iff.1 hkept).symm⟩
  . next htype => exact .inl ⟨htype, (Except.pure_eq_ok_iff.1 h).symm⟩

def shared (first second : Schema) : List Field :=
  first.fields.filter fun f => f.name ∈ second.names

theorem names_shared (first second : Schema)
    : (first.shared second).map (·.name) = first.names.filter (· ∈ second.names) := by
  unfold shared names
  rw [List.filter_map]
  rfl

theorem names_of_keeps_shared {first second : Schema} {fields : List Field}
    (h : List.Forall₂ second.Keeps (first.shared second) fields)
    : fields.map (·.name) = first.names.filter (· ∈ second.names) :=
  (names_of_keeps h).trans (names_shared _ _)

theorem common_eq_ok {first second s : Schema} (h : first.common second = .ok s)
    : List.Forall₂ second.Keeps (first.shared second) s.fields ∧ s.metadata = first.metadata := by
  unfold common at h
  obtain ⟨fields, hfields, hs⟩ := Except.bind_eq_ok_iff.1 h
  rw [Except.pure_eq_ok_iff] at hs
  subst hs
  refine ⟨?_, rfl⟩
  exact (List.mapM_eq_ok_iff.1 hfields).imp fun _ _ => keeps_of_commonField

end Schema

namespace Batch

variable {vector fts merged : Batch}

/--
What a merged batch is made of if the text rows at the given positions are kept.
-/
structure MergeOf (vector fts : Batch) (kept : List Nat) (merged : Batch) : Prop where
  fields :
    List.Forall₂ fts.schema.Keeps (vector.schema.shared fts.schema) merged.schema.fields
  metadata : merged.schema.metadata = vector.schema.metadata
  /-- The cells of a column are those of the columns of the same name. -/
  cells : ∀ name ∈ merged.schema.names, ∃ first second cells,
    vector.cells name = .ok first
      ∧ fts.cells name = .ok second
      ∧ merged.cells name = .ok cells
      ∧ cells.values = (List.range vector.rows).map first.cell ++ kept.map second.cell

theorem mergeColumn_eq_ok_iff {kept : List Nat} {f : Field} {column : Column}
    : mergeColumn vector fts kept f = .ok column
        ↔
      ∃ first second cells,
        vector.cells f.name = .ok first
          ∧ fts.cells f.name = .ok second
          ∧ Cells.concat f first ((List.range vector.rows).map Int.ofNat) second
              (kept.map Int.ofNat) = .ok cells
          ∧ ⟨f, cells.values⟩ = column := by
  unfold mergeColumn
  simp only [Except.bind_eq_ok_iff, Except.pure_eq_ok_iff]
  constructor
  . rintro ⟨first, hfirst, second, hsecond, cells, hcells, h⟩
    exact ⟨first, second, cells, hfirst, hsecond, hcells, h⟩
  . rintro ⟨first, second, cells, hfirst, hsecond, hcells, h⟩
    exact ⟨first, hfirst, second, hsecond, cells, hcells, h⟩

theorem ofColumns?_eq_some_iff {columns : List Column} {metadata}
    : ofColumns? columns metadata = some merged
        ↔
      (∀ c ∈ columns, c.values.length = rowCount columns)
        ∧ merged.columns = columns
        ∧ merged.metadata = metadata := by
  unfold ofColumns?
  cases merged with
  | mk cs m aligned =>
    split
    . next h =>
      simp only [Option.some.injEq, mk.injEq]
      constructor
      . rintro ⟨rfl, rfl⟩
        exact ⟨h, rfl, rfl⟩
      . rintro ⟨_, rfl, rfl⟩
        exact ⟨rfl, rfl⟩
    . next h => simp [h]

theorem mergeRows_eq_ok_iff
    : mergeRows vector fts = .ok merged
        ↔
      ∃ s vectorIds ftsIds,
        vector.schema.common fts.schema = .ok s
          ∧ vector.rowIds = .ok vectorIds
          ∧ fts.rowIds = .ok ftsIds
          ∧ List.Forall₂
              (fun f column =>
                mergeColumn vector fts (unseenPositions (vectorIds.filterMap id) ftsIds) f
                  = .ok column)
              s.fields merged.columns
          ∧ merged.metadata = s.metadata := by
  unfold mergeRows
  simp only [Except.bind_eq_ok_iff, List.mapM_eq_ok_iff]
  constructor
  . rintro ⟨s, hs, vectorIds, hvector, ftsIds, hfts, columns, hcolumns, h⟩
    refine ⟨s, vectorIds, ftsIds, hs, hvector, hfts, ?_⟩
    split at h
    . next b hb =>
      rw [Except.pure_eq_ok_iff] at h
      subst h
      obtain ⟨_, rfl, hmetadata⟩ := ofColumns?_eq_some_iff.1 hb
      exact ⟨hcolumns, hmetadata⟩
    . exact absurd h Except.throw_ne_ok
  . rintro ⟨s, vectorIds, ftsIds, hs, hvector, hfts, hcolumns, hmetadata⟩
    refine ⟨s, hs, vectorIds, hvector, ftsIds, hfts, merged.columns, hcolumns, ?_⟩
    rw [ofColumns?_eq_some_iff.2 ⟨merged.aligned, rfl, hmetadata⟩]
    rfl

theorem mergeOf_of_mergeRows (h : mergeRows vector fts = .ok merged)
    : ∃ vectorIds ftsIds,
        vector.rowIds = .ok vectorIds
          ∧ fts.rowIds = .ok ftsIds
          ∧ MergeOf vector fts (unseenPositions (vectorIds.filterMap id) ftsIds) merged := by
  obtain ⟨s, vectorIds, ftsIds, hs, hvector, hfts, hcolumns, hmetadata⟩ :=
    mergeRows_eq_ok_iff.1 h
  refine ⟨vectorIds, ftsIds, hvector, hfts, ?_⟩
  obtain ⟨hkeeps, hsmetadata⟩ := Schema.common_eq_ok hs
  have hfields : merged.schema.fields = s.fields := by
    have := List.map_eq_map_of_forall₂ (f := id) (g := Column.field) hcolumns (by
      intro f column hcolumn
      obtain ⟨_, _, _, _, _, _, rfl⟩ := mergeColumn_eq_ok_iff.1 hcolumn
      rfl)
    rw [List.map_id] at this
    exact this.symm
  rw [← hfields] at hkeeps
  refine ⟨hkeeps, hmetadata.trans hsmetadata, ?_⟩
  intro name hname
  rw [names_schema, List.mem_map] at hname
  obtain ⟨column, hmem, rfl⟩ := hname
  obtain ⟨f, _, hcolumn⟩ := List.exists_left_of_forall₂ hcolumns hmem
  obtain ⟨first, second, cells, hfirst, hsecond, hcells, rfl⟩ :=
    mergeColumn_eq_ok_iff.1 hcolumn
  have hin : f.name ∈ fts.schema.names := mem_names_of_cells hsecond
  -- The name occurs once in the merged batch, since it does on the vector side.
  have hcount : merged.schema.names.count f.name = 1 := by
    unfold Schema.names
    rw [Schema.names_of_keeps_shared hkeeps, List.count_filter (by simpa using hin)]
    exact (cells_eq_ok_iff.1 hfirst).1
  refine ⟨first, second, _, hfirst, hsecond, cells_eq_ok_iff.2 ⟨hcount, _, hmem, rfl, rfl⟩, ?_⟩
  obtain ⟨_, _, _, _, rfl⟩ := Cells.concat_eq_ok_iff.1 hcells
  rfl

namespace MergeOf

variable {vectorIds ftsIds : List (Option Int)} {kept : List Nat}

theorem names_eq (h : MergeOf vector fts kept merged)
    : merged.schema.names = vector.schema.names.filter (· ∈ fts.schema.names) :=
  Schema.names_of_keeps_shared h.fields

theorem type_eq (h : MergeOf vector fts kept merged) {name : String} {first cells : Cells}
    (hfirst : vector.cells name = .ok first) (hnull : first.type ≠ .null)
    (hcells : merged.cells name = .ok cells)
    : cells.type = first.type := by
  obtain ⟨f, hf, hfname⟩ := List.mem_map.1 (mem_names_of_cells hcells)
  obtain ⟨g, hg, hkeeps⟩ := List.exists_left_of_forall₂ h.fields hf
  have hgtype := type_of_cells hfirst (List.mem_of_mem_filter hg)
    (hkeeps.name_eq.symm.trans hfname)
  obtain ⟨_, rfl⟩ | ⟨hgnull, _⟩ := hkeeps
  . rw [← type_of_cells hcells hf hfname, hgtype]
  . exact absurd (hgtype.symm.trans hgnull) hnull

theorem rowIds_eq (h : MergeOf vector fts kept merged) (hvector : vector.rowIds = .ok vectorIds)
    (hfts : fts.rowIds = .ok ftsIds)
    : merged.rowIds = .ok (vectorIds ++ kept.map fun j => ftsIds.getD j none) := by
  obtain ⟨first, hfirst, hfirstType, rfl⟩ := rowIds_eq_ok_iff.1 hvector
  obtain ⟨second, hsecond, hsecondType, rfl⟩ := rowIds_eq_ok_iff.1 hfts
  have hname : rowIdColumn ∈ merged.schema.names := by
    rw [h.names_eq, List.mem_filter]
    exact ⟨mem_names_of_cells hfirst, decide_eq_true (mem_names_of_cells hsecond)⟩
  obtain ⟨first', second', cells, hfirst', hsecond', hcells, hvalues⟩ := h.cells _ hname
  cases hfirst.symm.trans hfirst'
  cases hsecond.symm.trans hsecond'
  have hfirstNull : first.type ≠ .null := by
    rw [hfirstType]
    decide
  have hsecondNull : second.type ≠ .null := by
    rw [hsecondType]
    decide
  have htype : cells.type = .uint64 := (h.type_eq hfirst hfirstNull hcells).trans hfirstType
  refine rowIds_eq_ok_iff.2 ⟨cells, hcells, htype, ?_⟩
  rw [hvalues, ← length_of_cells hfirst, Cells.map_cell_range hfirstNull, List.map_append,
    List.map_map]
  congr 1
  apply List.map_congr_left
  intro j _
  simp only [Function.comp, Cells.cell_of_type_ne_null hsecondNull, List.getD_eq_getElem?_getD,
    List.getElem?_map]
  cases second.values[j]? with
  | none => rfl
  | some v => rfl

theorem rows_eq (h : MergeOf vector fts kept merged) (hvector : vector.rowIds = .ok vectorIds)
    (hfts : fts.rowIds = .ok ftsIds)
    : merged.rows = vector.rows + kept.length := by
  rw [← length_of_rowIds (h.rowIds_eq hvector hfts), ← length_of_rowIds hvector]
  simp

theorem mem_kept_iff {j : Nat}
    : j ∈ unseenPositions (vectorIds.filterMap id) ftsIds
        ↔
      ∃ x, ftsIds[j]? = some (some x) ∧ some x ∉ vectorIds ∧ some x ∉ ftsIds.take j := by
  simp [mem_unseenPositions]

theorem idxOf_mem_kept {x : Int} (hfts : some x ∈ ftsIds) (hvector : some x ∉ vectorIds)
    : ftsIds.idxOf (some x) ∈ unseenPositions (vectorIds.filterMap id) ftsIds := by
  rw [mem_kept_iff]
  refine ⟨x, List.getElem?_idxOf hfts, hvector, ?_⟩
  rw [List.mem_take_iff_idxOf_lt hfts]
  omega

theorem mem_append_kept_iff {x : Int}
    : some x ∈ vectorIds ++
          (unseenPositions (vectorIds.filterMap id) ftsIds).map (fun j => ftsIds.getD j none)
        ↔
      some x ∈ vectorIds ∨ some x ∈ ftsIds := by
  rw [List.mem_append]
  constructor
  . rintro (hx | hx)
    . exact .inl hx
    . obtain ⟨j, hj, hget⟩ := List.mem_map.1 hx
      obtain ⟨y, hy, _⟩ := mem_kept_iff.1 hj
      rw [List.getD_eq_getElem?_getD, hy, Option.getD_some] at hget
      exact .inr (hget ▸ List.mem_of_getElem? hy)
  . intro h
    by_cases hvector : some x ∈ vectorIds
    . exact .inl hvector
    . have hfts := h.resolve_left hvector
      refine .inr (List.mem_map.2 ⟨_, idxOf_mem_kept hfts hvector, ?_⟩)
      rw [List.getD_eq_getElem?_getD, List.getElem?_idxOf hfts]
      rfl

theorem not_mem_take_of_kept {m : Nat}
    (hm : m < (unseenPositions (vectorIds.filterMap id) ftsIds).length)
    : let ids := vectorIds ++
        (unseenPositions (vectorIds.filterMap id) ftsIds).map fun j => ftsIds.getD j none
      ∃ x, ids[vectorIds.length + m]? = some (some x)
        ∧ some x ∉ ids.take (vectorIds.length + m) := by
  have hsorted := pairwise_unseenPositions (vectorIds.filterMap id) ftsIds
  have hkept : ∀ j ∈ unseenPositions (vectorIds.filterMap id) ftsIds, _ :=
    fun j => mem_kept_iff.1
  generalize unseenPositions (vectorIds.filterMap id) ftsIds = kept at hm hsorted hkept
  intro ids
  obtain ⟨x, hget, hvector, htake⟩ := hkept _ (List.getElem_mem hm)
  refine ⟨x, ?_, ?_⟩
  . simp [ids, hm, hget]
  . simp only [ids, List.take_length_add_append, List.mem_append, not_or]
    refine ⟨hvector, ?_⟩
    rw [← List.map_take, List.mem_map]
    rintro ⟨j, hj, hjx⟩
    obtain ⟨n, hn, rfl⟩ := List.mem_take_iff_getElem.1 hj
    have hlt := List.pairwise_iff_getElem.1 hsorted n m (by omega) hm (by omega)
    obtain ⟨y, hy, _⟩ := hkept _ (List.getElem_mem (by omega : n < kept.length))
    rw [List.getD_eq_getElem?_getD, hy, Option.getD_some] at hjx
    rw [hjx] at hy
    exact htake (List.mem_iff_getElem?.2 ⟨_, by rw [List.getElem?_take_of_lt hlt, hy]⟩)

end MergeOf

theorem names_of_mergeRows (h : mergeRows vector fts = .ok merged)
    : merged.schema.names = vector.schema.names.filter (· ∈ fts.schema.names) := by
  obtain ⟨_, _, _, _, hmerge⟩ := mergeOf_of_mergeRows h
  exact hmerge.names_eq

theorem metadata_of_mergeRows (h : mergeRows vector fts = .ok merged)
    : merged.metadata = vector.metadata := by
  obtain ⟨_, _, _, _, hmerge⟩ := mergeOf_of_mergeRows h
  exact hmerge.metadata

theorem rows_ne_zero_of_mergeRows (hvector : vector.rows ≠ 0)
    (h : mergeRows vector fts = .ok merged)
    : merged.rows ≠ 0 := by
  obtain ⟨_, _, hvectorIds, hftsIds, hmerge⟩ := mergeOf_of_mergeRows h
  rw [hmerge.rows_eq hvectorIds hftsIds]
  omega

theorem merge_of_rows_eq_zero (h : vector.rows = 0) : vector.merge fts = .ok fts := by
  unfold merge loneSide?
  rw [if_pos h]

theorem merge_of_fts_rows_eq_zero (hvector : vector.rows ≠ 0) (h : fts.rows = 0)
    : vector.merge fts = .ok vector := by
  unfold merge loneSide?
  rw [if_neg hvector, if_pos h]

theorem merge_of_rows_ne_zero (hvector : vector.rows ≠ 0) (h : fts.rows ≠ 0)
    : vector.merge fts = mergeRows vector fts := by
  unfold merge loneSide?
  rw [if_neg hvector, if_neg h]

theorem merge_exact (hvector : vector.rows ≠ 0) (hfts : fts.rows ≠ 0)
    (h : vector.merge fts = .ok merged)
    : ∃ (vectorIds ftsIds ids : List (Option Int)) (kept : List Nat),
        vector.rowIds = .ok vectorIds
          ∧ fts.rowIds = .ok ftsIds
          ∧ merged.rowIds = .ok ids
          -- the fields
          ∧ List.Forall₂ fts.schema.Keeps (vector.schema.shared fts.schema) merged.schema.fields
          ∧ merged.schema.metadata = vector.schema.metadata
          -- the text rows that join the vector rows, in their order
          ∧ kept.Pairwise (· < ·)
          ∧ (∀ j, j ∈ kept ↔
              ∃ x, ftsIds[j]? = some (some x) ∧ some x ∉ vectorIds ∧ some x ∉ ftsIds.take j)
          -- the cells, which are those of the same rows in all columns
          ∧ merged.rows = vector.rows + kept.length
          ∧ (∀ name ∈ merged.schema.names, ∃ first second cells,
              vector.cells name = .ok first
                ∧ fts.cells name = .ok second
                ∧ merged.cells name = .ok cells
                ∧ cells.values
                    = (List.range vector.rows).map first.cell ++ kept.map second.cell)
          -- no identifier is lost, and none comes in a second time
          ∧ (∀ x, some x ∈ ftsIds → some x ∈ ids)
          ∧ (∀ i, vector.rows ≤ i → i < merged.rows →
              ∃ x, ids[i]? = some (some x) ∧ some x ∉ ids.take i) := by
  unfold merge loneSide? at h
  rw [if_neg hvector, if_neg hfts] at h
  obtain ⟨vectorIds, ftsIds, hvectorIds, hftsIds, hmerge⟩ := mergeOf_of_mergeRows h
  have hids := hmerge.rowIds_eq hvectorIds hftsIds
  have hrows := hmerge.rows_eq hvectorIds hftsIds
  refine ⟨vectorIds, ftsIds, _, _, hvectorIds, hftsIds, hids, hmerge.fields, hmerge.metadata,
    pairwise_unseenPositions _ _, fun j => MergeOf.mem_kept_iff, hrows, hmerge.cells, ?_, ?_⟩
  . intro x hx
    rw [List.mem_append]
    by_cases hin : some x ∈ vectorIds
    . exact .inl hin
    . refine .inr (List.mem_map.2 ⟨_, MergeOf.idxOf_mem_kept hx hin, ?_⟩)
      rw [List.getD_eq_getElem?_getD, List.getElem?_idxOf hx]
      rfl
  . intro i hle hlt
    obtain ⟨m, rfl⟩ := Nat.exists_eq_add_of_le hle
    rw [← length_of_rowIds hvectorIds]
    exact MergeOf.not_mem_take_of_kept (by omega)

def vectorSample : Batch where
  columns := [
    ⟨⟨rowIdColumn, .uint64, true⟩, [.int 7, .null, .int 7]⟩,
    ⟨⟨"note", .null, true⟩, [.null, .null, .null]⟩,
    ⟨⟨"title", .string, false⟩, [.text "a", .text "b", .text "c"]⟩]
  metadata := some [("side", "vector")]
  aligned := by decide

def ftsSample : Batch where
  columns := [
    ⟨⟨"title", .string, true⟩, [.text "d", .text "e", .null, .text "g"]⟩,
    ⟨⟨"note", .bool, false⟩, [.bool true, .null, .null, .bool false]⟩,
    ⟨⟨rowIdColumn, .uint64, true⟩, [.int 2, .int 7, .null, .int 2]⟩]
  metadata := none
  aligned := by decide

theorem merge_exact_sample
    : vectorSample.rows ≠ 0
        ∧ ftsSample.rows ≠ 0
        ∧ ∃ merged ids,
            vectorSample.merge ftsSample = .ok merged
              ∧ merged.rowIds = .ok ids
              ∧ merged.rows = 4
              ∧ (∀ x, some x ∈ [some 2, some 7, none, some 2] → some x ∈ ids)
              ∧ (∀ i, 3 ≤ i → i < 4 → ∃ x, ids[i]? = some (some x) ∧ some x ∉ ids.take i) := by
  have hvector : vectorSample.rows ≠ 0 := by decide
  have hfts : ftsSample.rows ≠ 0 := by decide
  refine ⟨hvector, hfts, _, _, rfl, rfl, rfl, ?_⟩
  obtain ⟨_, _, _, _, _, hftsIds, hids, _, _, _, _, _, _, hlost, hnew⟩ :=
    merge_exact hvector hfts rfl
  cases hftsIds
  cases hids
  exact ⟨hlost, hnew⟩

end Batch

end RankFusion
