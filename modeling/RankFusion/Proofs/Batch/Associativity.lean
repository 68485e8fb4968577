import RankFusion.Proofs.Batch.Entry
import RankFusion.Proofs.Batch.Slice

/-!
This module contains the merge of three batches. If both ways to merge them return, they return the
same batch: fields, identified rows and cells are joined associatively.
-/

namespace RankFusion

/--
The field that a merge makes of the fields of both sides. A column without values takes the
definition of the second side, and may then have absent cells.
-/
def Field.joined (f g : Field) : Field := if f.type = .null then { g with nullable := true } else f

theorem Field.joined_assoc (f g h : Field) : (f.joined g).joined h = f.joined (g.joined h) := by
  unfold Field.joined
  by_cases hf : f.type = .null
  . by_cases hg : g.type = .null
    . simp [hf, hg]
    . simp [hf, hg]
  . simp [hf]

theorem ColumnType.ne_null_of_isSupported {t : ColumnType} (h : t.isSupported) : t ≠ .null := by
  rintro rfl
  cases h

namespace Column

def entries (c : Column) (ids : List (Option Int)) : List (Option Int × Value) :=
  ids.zip ((List.range ids.length).map c.cells.cell)

variable {c : Column} {ids : List (Option Int)}

theorem entries_of_ne_null (htype : c.field.type ≠ .null) (hlength : ids.length = c.values.length)
    : c.entries ids = ids.zip c.values := by
  unfold entries
  rw [hlength]
  exact congrArg _ (Cells.map_cell_range (c := c.cells) htype)

theorem identifiers_entries : identifiers (c.entries ids) = ids.filterMap id := by
  have hmap : ids.filterMap id = ((c.entries ids).map (·.1)).filterMap id := by
    unfold entries
    rw [List.map_fst_zip]
    simp
  rw [hmap, List.filterMap_map]
  rfl

theorem unseen_entries {seen : List Int}
    : unseen seen (c.entries ids) =
        (unseenPositions seen ids).map fun j => (ids.getD j none, c.cells.cell j) := by
  have hfst : (c.entries ids).map (·.1) = ids := by
    unfold entries
    rw [List.map_fst_zip]
    simp
  have hget : ∀ n e, (c.entries ids)[n]? = some e → (ids.getD n none, c.cells.cell n) = e := by
    intro n e he
    unfold entries at he
    obtain ⟨hid, hcell⟩ := List.getElem?_zip_eq_some.1 he
    rw [List.getElem?_map, Option.map_eq_some_iff] at hcell
    obtain ⟨m, hm, hcell⟩ := hcell
    rw [List.getElem?_eq_some_iff] at hm
    obtain ⟨_, hm⟩ := hm
    rw [List.getElem_range] at hm
    rw [List.getD_eq_getElem?_getD, hid, hm, hcell]
    rfl
  rw [unseen_eq_map hget, hfst]

end Column

namespace Batch

variable {vector fts merged : Batch} {vectorIds ftsIds ids : List (Option Int)} {v f c : Column}

def HasColumn (b : Batch) (name : String) (c : Column) : Prop :=
  b.schema.names.count name = 1 ∧ c ∈ b.columns ∧ c.field.name = name

theorem HasColumn.unique {b : Batch} {name : String} {d : Column} (hc : b.HasColumn name c)
    (hd : b.HasColumn name d)
    : c = d :=
  eq_of_count_eq_one hc.1 hc.2.1 hd.2.1 hc.2.2 hd.2.2

theorem eq_of_names {b d : Batch} (hnames : b.schema.names = d.schema.names)
    (hmetadata : b.metadata = d.metadata)
    (hcolumns : ∀ c ∈ b.columns, ∀ c' ∈ d.columns, c.field.name = c'.field.name → c = c')
    : b = d := by
  rw [names_schema, names_schema] at hnames
  apply eq_of_columns _ hmetadata
  apply List.ext_getElem
  . simpa using congrArg List.length hnames
  . intro i hi hi'
    apply hcolumns _ (List.getElem_mem hi) _ (List.getElem_mem hi')
    simpa [hi, hi'] using congrArg (·[i]?) hnames

/--
Whether a column of a merge is made of the columns of its name on both sides.
-/
structure Joins (vector fts : Batch) (vectorIds ftsIds ids : List (Option Int)) (v f c : Column) :
    Prop where
  vector : vector.HasColumn c.field.name v
  fts : fts.HasColumn c.field.name f
  field : c.field = v.field.joined f.field
  values : c.values = (c.entries ids).map (·.2)
  entries : c.entries ids = joinEntries (v.entries vectorIds) (f.entries ftsIds)

theorem MergeOf.field_eq {kept : List Nat} (h : MergeOf vector fts kept merged)
    (hc : c ∈ merged.columns) (hv : vector.HasColumn c.field.name v)
    (hf : fts.HasColumn c.field.name f)
    : c.field = v.field.joined f.field := by
  obtain ⟨g, hg, hkeeps⟩ := List.exists_left_of_forall₂ h.fields (List.mem_map_of_mem hc)
  obtain ⟨v', hv', rfl⟩ := List.mem_map.1 (List.mem_of_mem_filter hg)
  cases hv.unique ⟨hv.1, hv', hkeeps.name_eq.symm⟩
  unfold Field.joined
  obtain ⟨hnull, heq⟩ | ⟨hnull, k, hk, hkname, heq⟩ := hkeeps
  . rw [if_neg hnull]
    exact heq
  . obtain ⟨f', hf', rfl⟩ := List.mem_map.1 hk
    cases hf.unique ⟨hf.1, hf', hkname.trans hv.2.2⟩
    rw [if_pos hnull]
    exact heq

theorem MergeOf.exists_columns {kept : List Nat} (h : MergeOf vector fts kept merged)
    (hc : c ∈ merged.columns)
    : merged.HasColumn c.field.name c
        ∧ ∃ v f,
            vector.HasColumn c.field.name v
              ∧ fts.HasColumn c.field.name f
              ∧ c.field = v.field.joined f.field
              ∧ c.values = (List.range vector.rows).map v.cells.cell ++ kept.map f.cells.cell := by
  have hname : c.field.name ∈ merged.schema.names := by
    rw [names_schema]
    exact List.mem_map_of_mem hc
  obtain ⟨first, second, cells, hfirst, hsecond, hcells, hvalues⟩ := h.cells _ hname
  obtain ⟨hcount, v, hv, hvname, rfl⟩ := cells_eq_ok_iff.1 hfirst
  obtain ⟨hcount', f, hf, hfname, rfl⟩ := cells_eq_ok_iff.1 hsecond
  obtain ⟨hcount'', d, hd, hdname, rfl⟩ := cells_eq_ok_iff.1 hcells
  cases eq_of_count_eq_one hcount'' hc hd rfl hdname
  have hvcolumn : vector.HasColumn c.field.name v := ⟨hcount, hv, hvname⟩
  have hfcolumn : fts.HasColumn c.field.name f := ⟨hcount', hf, hfname⟩
  exact ⟨⟨hcount'', hc, rfl⟩, v, f, hvcolumn, hfcolumn, h.field_eq hc hvcolumn hfcolumn, hvalues⟩

theorem type_ne_null_of_mergeRows (h : mergeRows vector fts = .ok merged)
    (hc : c ∈ merged.columns)
    : c.field.type ≠ .null :=
  ColumnType.ne_null_of_isSupported (supported_of_mergeRows h c hc)

theorem zip_eq_joinEntries (hlength : vectorIds.length = vector.rows)
    : let kept := unseenPositions (vectorIds.filterMap id) ftsIds
      (vectorIds ++ kept.map fun j => ftsIds.getD j none).zip
          ((List.range vector.rows).map v.cells.cell ++ kept.map f.cells.cell) =
        joinEntries (v.entries vectorIds) (f.entries ftsIds) := by
  intro kept
  unfold joinEntries
  rw [Column.identifiers_entries, Column.unseen_entries, ← hlength, List.zip_append,
    List.zip_map']
  . rfl
  . simp

theorem exists_joins (h : mergeRows vector fts = .ok merged)
    : ∃ vectorIds ftsIds ids,
        vector.rowIds = .ok vectorIds
          ∧ fts.rowIds = .ok ftsIds
          ∧ merged.rowIds = .ok ids
          ∧ ∀ c ∈ merged.columns, ∃ v f, Joins vector fts vectorIds ftsIds ids v f c := by
  obtain ⟨vectorIds, ftsIds, hvectorIds, hftsIds, hmerge⟩ := mergeOf_of_mergeRows h
  have hids := hmerge.rowIds_eq hvectorIds hftsIds
  refine ⟨vectorIds, ftsIds, _, hvectorIds, hftsIds, hids, ?_⟩
  intro c hc
  obtain ⟨_, v, f, hv, hf, hfield, hvalues⟩ := hmerge.exists_columns hc
  have hlength := (length_of_rowIds hids).trans (length_values_of_mem hc).symm
  have hentries := Column.entries_of_ne_null (type_ne_null_of_mergeRows h hc) hlength
  refine ⟨v, f, hv, hf, hfield, ?_, ?_⟩
  . rw [hentries, List.map_snd_zip]
    exact Nat.le_of_eq hlength.symm
  . rw [hentries, hvalues]
    exact zip_eq_joinEntries (length_of_rowIds hvectorIds)

variable {first second third firstSecond secondThird left right : Batch}

theorem Joins.assoc {firstIds secondIds thirdIds bothIds bothIds' leftIds rightIds}
    {a b c b' ab bc l r : Column} {a' c' : Column}
    (hl : Joins firstSecond third bothIds thirdIds leftIds ab c l)
    (hab : Joins first second firstIds secondIds bothIds a b ab)
    (hr : Joins first secondThird firstIds bothIds' rightIds a' bc r)
    (hbc : Joins second third secondIds thirdIds bothIds' b' c' bc)
    (hname : l.field.name = r.field.name)
    : l = r := by
  have hlname := hl.vector.2.2
  have hrname := hr.fts.2.2.trans hname.symm
  cases (hlname ▸ hab.vector).unique (hname ▸ hr.vector)
  cases (hlname ▸ hab.fts).unique (hrname ▸ hbc.vector)
  cases hl.fts.unique (hrname ▸ hbc.fts)
  have hfield : l.field = r.field := by
    rw [hl.field, hab.field, hr.field, hbc.field, Field.joined_assoc]
  have hvalues : l.values = r.values := by
    rw [hl.values, hl.entries, hab.entries, hr.values, hr.entries, hbc.entries, joinEntries_assoc]
  cases l
  cases r
  cases hfield
  cases hvalues
  rfl

theorem mergeRows_assoc (hfirst : mergeRows first second = .ok firstSecond)
    (hleft : mergeRows firstSecond third = .ok left)
    (hsecond : mergeRows second third = .ok secondThird)
    (hright : mergeRows first secondThird = .ok right)
    : left = right := by
  apply eq_of_names
  . rw [names_of_mergeRows hleft, names_of_mergeRows hright, names_of_mergeRows hfirst,
      names_of_mergeRows hsecond, List.filter_filter]
    apply List.filter_congr
    intro name _
    simp [Bool.and_comm]
  . rw [metadata_of_mergeRows hleft, metadata_of_mergeRows hright, metadata_of_mergeRows hfirst]
  . intro l hl r hr hname
    obtain ⟨_, _, _, hfirstIds, hsecondIds, hbothIds, hbothColumns⟩ := exists_joins hfirst
    obtain ⟨_, _, _, hbothIds', hthirdIds, _, hleftColumns⟩ := exists_joins hleft
    obtain ⟨_, _, _, hsecondIds', hthirdIds', hrestIds, hrestColumns⟩ := exists_joins hsecond
    obtain ⟨_, _, _, hfirstIds', hrestIds', _, hrightColumns⟩ := exists_joins hright
    cases hbothIds.symm.trans hbothIds'
    cases hsecondIds.symm.trans hsecondIds'
    cases hthirdIds.symm.trans hthirdIds'
    cases hfirstIds.symm.trans hfirstIds'
    cases hrestIds.symm.trans hrestIds'
    obtain ⟨both, _, hl⟩ := hleftColumns l hl
    obtain ⟨_, _, hboth⟩ := hbothColumns both hl.vector.2.1
    obtain ⟨_, rest, hr⟩ := hrightColumns r hr
    obtain ⟨_, _, hrest⟩ := hrestColumns rest hr.fts.2.1
    exact hl.assoc hboth hr hrest hname

theorem merge_assoc (hleft : (first.merge second >>= fun m => m.merge third) = .ok left)
    (hright : (second.merge third >>= fun m => first.merge m) = .ok right)
    : left = right := by
  obtain ⟨firstSecond, hfirst, hleft⟩ := Except.bind_eq_ok_iff.1 hleft
  obtain ⟨secondThird, hsecond, hright⟩ := Except.bind_eq_ok_iff.1 hright
  by_cases h₁ : first.rows = 0
  . rw [merge_of_rows_eq_zero h₁] at hfirst hright
    cases hfirst
    cases hright
    exact Except.ok.inj (hleft.symm.trans hsecond)
  . by_cases h₂ : second.rows = 0
    . rw [merge_of_fts_rows_eq_zero h₁ h₂] at hfirst
      rw [merge_of_rows_eq_zero h₂] at hsecond
      cases hfirst
      cases hsecond
      exact Except.ok.inj (hleft.symm.trans hright)
    . rw [merge_of_rows_ne_zero h₁ h₂] at hfirst
      have h₁₂ := rows_ne_zero_of_mergeRows h₁ hfirst
      by_cases h₃ : third.rows = 0
      . rw [merge_of_fts_rows_eq_zero h₁₂ h₃] at hleft
        rw [merge_of_fts_rows_eq_zero h₂ h₃] at hsecond
        cases hleft
        cases hsecond
        rw [merge_of_rows_ne_zero h₁ h₂] at hright
        exact Except.ok.inj (hfirst.symm.trans hright)
      . rw [merge_of_rows_ne_zero h₁₂ h₃] at hleft
        rw [merge_of_rows_ne_zero h₂ h₃] at hsecond
        have h₂₃ := rows_ne_zero_of_mergeRows h₂ hsecond
        rw [merge_of_rows_ne_zero h₁ h₂₃] at hright
        exact mergeRows_assoc hfirst hleft hsecond hright

def restSample : Batch where
  columns := [
    ⟨⟨"note", .null, true⟩, [.null, .null, .null, .null]⟩,
    ⟨⟨rowIdColumn, .uint64, false⟩, [.int 9, .int 2, .null, .int 9]⟩,
    ⟨⟨"title", .null, true⟩, [.null, .null, .null, .null]⟩]
  metadata := some [("side", "rest")]
  aligned := by decide

theorem merge_assoc_sample
    : ∃ left right,
        (vectorSample.merge ftsSample >>= fun m => m.merge restSample) = .ok left
          ∧ (ftsSample.merge restSample >>= fun m => vectorSample.merge m) = .ok right
          ∧ left = right
          ∧ left.rowIds = .ok [some 7, none, some 7, some 2, some 9] :=
  ⟨_, _, rfl, rfl, @merge_assoc vectorSample ftsSample restSample _ _ rfl rfl, rfl⟩

end Batch

end RankFusion
