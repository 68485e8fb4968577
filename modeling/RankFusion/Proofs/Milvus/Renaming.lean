import RankFusion.Proofs.Milvus.Acceptance
import RankFusion.Proofs.Milvus.Call

/-!
This module contains the batches of projections that rename fields. There is a column for every
output name, with the data of the field that the name stands for. A field that several names stand
for is shown under the last of them every time.
-/

namespace RankFusion.Milvus

section Names

variable {es : List (String × String)}

def lastName (es : List (String × String)) (field : String) : Option String :=
  (es.reverse.find? fun r => r.2 == field).map (·.1)

theorem exists_lastName {r : String × String} (hr : r ∈ es)
    : ∃ r' ∈ es, r'.2 = r.2 ∧ lastName es r.2 = some r'.1 := by
  have hsome : (es.reverse.find? fun r' => r'.2 == r.2).isSome = true := by
    rw [List.find?_isSome]
    exact ⟨r, List.mem_reverse.2 hr, beq_self_eq_true r.2⟩
  obtain ⟨r', hr'⟩ := Option.isSome_iff_exists.1 hsome
  refine ⟨r', List.mem_reverse.1 (List.mem_of_find?_eq_some hr'), ?_, ?_⟩
  . have hfield := List.find?_some hr'
    rwa [beq_iff_eq] at hfield
  . unfold lastName
    rw [hr']
    rfl

theorem lastName_eq_iff (h : (es.map (·.1)).Nodup)
    : (∀ r ∈ es, lastName es r.2 = some r.1) ↔ (es.map (·.2)).Nodup := by
  constructor
  . intro hlast
    apply List.Nodup.map_on _ h.of_map
    intro r hr r' hr' hfield
    have hname : some r.1 = some r'.1 := by rw [← hlast r hr, ← hlast r' hr', hfield]
    exact Prod.ext (Option.some.inj hname) hfield
  . intro hfields r hr
    obtain ⟨r', hr', hfield, hname⟩ := exists_lastName hr
    rw [hname, List.inj_on_of_nodup_map hfields hr' hr hfield]

def Projection.ofNames (es : List (String × String)) : Projection :=
  ⟨es.map fun r => .text r.2, es.map fun r => (r.2, r.1)⟩

theorem ofColumns_dict (h : ∀ r ∈ es, isIdentifier r.2 = true)
    : Projection.ofColumns (.dict (es.map fun r => (r.1, .text r.2))) =
        .ok (Projection.ofNames es) := by
  have hnames : (es.map fun r => (r.1, Value.text r.2)).mapM
      (fun e => Projection.requireField e.2) = .ok (es.map (·.2)) := by
    apply List.mapM_map_eq_ok
    intro r hr
    exact if_pos (h r hr)
  unfold Projection.ofColumns Projection.ofNames
  refine Except.bind_eq_ok_iff.2 ⟨_, hnames, ?_⟩
  rw [List.map_map, List.map_map, List.zip_map']
  rfl

theorem outputName_ofNames {r : String × String} (hr : r ∈ es)
    : some ((Projection.ofNames es).outputName r.2) = lastName es r.2 := by
  obtain ⟨r', _, _, hname⟩ := exists_lastName hr
  unfold lastName at hname ⊢
  unfold Projection.outputName Projection.ofNames
  dsimp only
  rw [← List.map_reverse, List.find?_map, Option.map_map]
  change some (((es.reverse.find? fun r' => r'.2 == r.2).map (·.1)).getD r.2) = _
  rw [hname]
  rfl

end Names

/--
Whether the hits of a sub-search turn into ranked rows that show the data of fields.
-/
structure Converts (c : CollectionConfig) (types : FieldTypes) (s : SubSearch)
    (fields : List String) (lists : Value) (ranked : List RankedHit) : Prop where
  ranks : rank c s lists = .ok ranked
  entity : ∀ r ∈ ranked, ∃ es, entityOf r.hit = .dict es
  data : ∀ name ∈ fields, ∃ cells,
    Cells.ofValues (types.lookup? name) (ranked.map fun r => datum name r.hit) = .ok cells
  keys : s.withRowId.isTruthy = true → ∀ r ∈ ranked, ∃ id n,
    r.hit.part "id" = .ok id ∧ id.notKey? = none ∧ id.toWord = .ok n

def addedNames (s : SubSearch) : List String :=
  if s.withRowId.isTruthy then [rowIdColumn, rankColumnName s.side] else [rankColumnName s.side]

/--
Whether a column shows what an output name stands for: the data of the field in the ranked rows,
under the last name of the field.
-/
structure Shows (types : FieldTypes) (es : List (String × String)) (ranked : List RankedHit)
    (r : String × String) (column : Column) : Prop where
  name : lastName es r.2 = some column.field.name
  data : Cells.ofValues (types.lookup? r.2) (ranked.map fun h => datum r.2 h.hit) =
    .ok column.cells

section Batch

variable {c : CollectionConfig} {types : FieldTypes} {s : SubSearch} {es : List (String × String)}
  {lists : Value} {ranked : List RankedHit} {hits : List Value} {shown : List Column}

theorem exists_rowIdColumnOf (collection : String)
    (h : ∀ hit ∈ hits, ∃ id n, hit.part "id" = .ok id ∧ id.notKey? = none ∧ id.toWord = .ok n)
    : ∃ values, rowIdColumnOf collection hits = .ok ⟨⟨rowIdColumn, .uint64, false⟩, values⟩
        ∧ values.length = hits.length := by
  obtain ⟨ids, hids⟩ := List.exists_mapM_iff.2 fun hit hhit =>
    (h hit hhit).imp fun _ ⟨_, hid, _⟩ => hid
  have hforall := List.mapM_eq_ok_iff.1 hids
  have hkeys : ∀ id ∈ ids, id.notKey? = none ∧ ∃ n, id.toWord = .ok n := by
    intro id hid
    obtain ⟨hit, hhit, hpart⟩ := List.exists_left_of_forall₂ hforall hid
    obtain ⟨id', n, hid', hkey, hword⟩ := h hit hhit
    rw [hpart] at hid'
    cases hid'
    exact ⟨hkey, n, hword⟩
  obtain ⟨words, hwords⟩ := List.exists_mapM_iff.2 fun id hid => (hkeys id hid).2
  refine ⟨words.map fun n => .int (unsignedWord n), ?_, ?_⟩
  . unfold rowIdColumnOf
    refine Except.bind_eq_ok_iff.2 ⟨ids, hids, Except.bind_eq_ok_iff.2 ⟨words, ?_, rfl⟩⟩
    rw [Value.words_keys fun id hid => (hkeys id hid).1, hwords]
    rfl
  . rw [List.length_map, ← (List.mapM_eq_ok_iff.1 hwords).length_eq, hforall.length_eq]

theorem Shows.length_eq {r : String × String} {column : Column}
    (h : Shows types es ranked r column)
    : column.values.length = ranked.length := by
  have hlength := Cells.length_of_ofValues h.data
  rwa [List.length_map] at hlength

theorem exists_shows (h : Converts c types s (es.map (·.2)) lists ranked)
    : ∃ shown, (es.map fun r => Value.text r.2).mapM
          (fieldColumn types (.ofNames es) (ranked.map (·.hit))) = .ok shown
        ∧ List.Forall₂ (Shows types es ranked) es shown := by
  have hentity : ∀ hit ∈ ranked.map (·.hit), ∃ es, entityOf hit = .dict es := by
    rw [List.forall_mem_map]
    exact h.entity
  have hcolumn : ∀ r ∈ es, ∃ column,
      fieldColumn types (.ofNames es) (ranked.map (·.hit)) (.text r.2) = .ok column
        ∧ Shows types es ranked r column := by
    intro r hr
    obtain ⟨cells, hcells⟩ := h.data r.2 (List.mem_map_of_mem hr)
    refine ⟨_, fieldColumn_of_ofValues hentity ?_, (outputName_ofNames hr).symm, hcells⟩
    rw [List.map_map]
    exact hcells
  obtain ⟨shown, hshown⟩ := List.exists_mapM_iff.2 (List.forall_mem_map.2 fun r hr =>
    (hcolumn r hr).imp fun _ h => h.1)
  refine ⟨shown, hshown, ?_⟩
  have hforall := List.forall₂_map_left_iff.1 (List.mapM_eq_ok_iff.1 hshown)
  refine ((List.forall₂_and_left es shown).2 ⟨fun r hr => hr, hforall⟩).imp ?_
  rintro r column ⟨hr, heq⟩
  obtain ⟨column', heq', hshows⟩ := hcolumn r hr
  rw [heq] at heq'
  cases heq'
  exact hshows

theorem length_of_shows (h : List.Forall₂ (Shows types es ranked) es shown) {column : Column}
    (hcolumn : column ∈ shown)
    : column.values.length = ranked.length := by
  obtain ⟨r, _, hshows⟩ := List.exists_left_of_forall₂ h hcolumn
  exact hshows.length_eq

theorem exists_addedColumns (h : Converts c types s (es.map (·.2)) lists ranked)
    : ∃ ids : List Column,
        (s.withRowId.isTruthy = true
            ∧ (∃ column, rowIdColumnOf c.collection (ranked.map (·.hit)) = .ok column
              ∧ ids = [column])
            ∨ ¬ s.withRowId.isTruthy = true ∧ ids = [])
          ∧ (∀ column ∈ ids, column.values.length = ranked.length)
          ∧ (ids ++ [rankColumn s.side ranked]).map (·.field.name) = addedNames s := by
  unfold addedNames
  split
  . next hrowId =>
    obtain ⟨values, hids, hlength⟩ := exists_rowIdColumnOf c.collection
      (List.forall_mem_map.2 (h.keys hrowId))
    refine ⟨_, .inl ⟨hrowId, _, hids, rfl⟩, ?_, rfl⟩
    rw [List.forall_mem_singleton, hlength, List.length_map]
  . next hrowId => exact ⟨[], .inr ⟨hrowId, rfl⟩, List.forall_mem_nil _, rfl⟩

theorem exists_toBatch (hne : es ≠ []) (h : Converts c types s (es.map (·.2)) lists ranked)
    : ∃ (b : Batch) (shown added : List Column), toBatch c types s (.ofNames es) lists = .ok b
        ∧ b.columns = shown ++ added
        ∧ added.map (·.field.name) = addedNames s
        ∧ List.Forall₂ (Shows types es ranked) es shown := by
  obtain ⟨shown, hcolumns, hshows⟩ := exists_shows h
  have hfields : shownFields (.ofNames es) (ranked.map (·.hit)) =
      .ok (es.map fun r => .text r.2) := by
    unfold shownFields Projection.ofNames
    cases es with
    | nil => exact absurd rfl hne
    | cons r es => rfl
  obtain ⟨ids, hids, hlengths, hnames⟩ := exists_addedColumns h
  have haligned : ∀ column ∈ shown ++ ids ++ [rankColumn s.side ranked],
      column.values.length = ranked.length := by
    intro column hmem
    simp only [List.mem_append, List.mem_singleton] at hmem
    obtain (hmem | hmem) | rfl := hmem
    . exact length_of_shows hshows hmem
    . exact hlengths column hmem
    . exact List.length_map _
  have haligned' := rowCount_eq_of_forall haligned
  have hbatch : Batch.ofColumns? (shown ++ ids ++ [rankColumn s.side ranked]) none =
      some ⟨_, none, haligned'⟩ :=
    Batch.ofColumns?_eq_some_iff.2 ⟨haligned', rfl, rfl⟩
  refine ⟨⟨_, none, haligned'⟩, shown, ids ++ [rankColumn s.side ranked], ?_,
    List.append_assoc shown ids _, hnames, hshows⟩
  unfold toBatch
  refine Except.bind_eq_ok_iff.2 ⟨_, h.ranks, ?_⟩
  refine Except.bind_eq_ok_iff.2 ⟨_, hfields, Except.bind_eq_ok_iff.2 ⟨_, hcolumns, ?_⟩⟩
  dsimp only
  obtain ⟨hrowId, column, hcolumn, rfl⟩ | ⟨hrowId, rfl⟩ := hids
  . rw [if_pos hrowId, hcolumn]
    refine Except.bind_eq_ok_iff.2 ⟨column, rfl, ?_⟩
    rw [pure_bind, hbatch]
    rfl
  . rw [if_neg hrowId, pure_bind, hbatch]
    rfl

theorem names_eq_iff (h : List.Forall₂ (Shows types es ranked) es shown)
    : shown.map (·.field.name) = es.map (·.1) ↔ ∀ r ∈ es, lastName es r.2 = some r.1 := by
  have hnames : (shown.map (·.field.name)).map some = es.map fun r => lastName es r.2 := by
    rw [List.map_map]
    exact (List.map_eq_map_of_forall₂ h fun _ _ hshows => hshows.name).symm
  rw [← (Option.some_injective String).list_map.eq_iff, hnames, List.map_map]
  exact List.map_inj_left

theorem searchCall_dict {part : SideCall} (h : ∀ r ∈ es, isIdentifier r.2 = true)
    (hcolumns : s.columns = .dict (es.map fun r => (r.1, .text r.2)))
    (hpart : sideCall c s = .ok part)
    : ∃ call, searchCall c s = .ok (call, .ofNames es) := by
  unfold searchCall
  rw [hcolumns, ofColumns_dict h]
  exact ⟨_, Except.bind_eq_ok_iff.2 ⟨part, hpart, Except.bind_eq_ok_iff.2 ⟨_, rfl, rfl⟩⟩⟩

end Batch

namespace MilvusExecutor

variable {e : MilvusExecutor} {client : Client} {types : FieldTypes} {s : SubSearch}
  {es : List (String × String)} {lists : Value} {ranked : List RankedHit} {part : SideCall}

/-- A projection that renames fields gives a column for every output name, in the order of the
names and with the data of the field that the name stands for. The names are those that were asked
for just if no two of them stand for one field. -/
theorem execute_renamed (hne : es ≠ []) (hdistinct : (es.map (·.1)).Nodup)
    (hfields : ∀ r ∈ es, isIdentifier r.2 = true)
    (hcolumns : s.columns = .dict (es.map fun r => (r.1, .text r.2)))
    (hpart : sideCall e.config s = .ok part) (hready : e.Ready client e.config types)
    (hdeadline : deadlineFailure? s = none)
    (hanswer : ∀ call, searchCall e.config s = .ok (call, .ofNames es) →
      client.search call = .hits lists)
    (hconverts : Converts e.config types s (es.map (·.2)) lists ranked)
    : ∃ (b : Batch) (shown added : List Column),
        (e.execute client s).reply.outcome = .ok b
          ∧ b.columns = shown ++ added
          ∧ added.map (·.field.name) = addedNames s
          ∧ List.Forall₂ (Shows types es ranked) es shown
          ∧ (shown.map (·.field.name) = es.map (·.1) ↔ (es.map (·.2)).Nodup) := by
  obtain ⟨call, hcall⟩ := searchCall_dict hfields hcolumns hpart
  obtain ⟨b, shown, added, hbatch, happend, hadded, hshows⟩ := exists_toBatch hne hconverts
  refine ⟨b, shown, added, ?_, happend, hadded, hshows, ?_⟩
  . rw [(hready.execute hcall hdeadline (hanswer call hcall)).1, hbatch]
  . rw [names_eq_iff hshows, lastName_eq_iff hdistinct]

def articleEngine : MilvusExecutor where
  config := { collection := "articles" }
  fieldTypes := some [("title", .string), ("body", .string)]

def articleClient : Client where
  describe := .ok (.dict [])
  search _ := .hits (.list [.list [.dict [("id", .int 1), ("distance", .int 2),
    ("entity", .dict [("title", .text "t"), ("body", .text "b")])]]])

def articleSearch (es : List (String × String)) : SubSearch where
  side := .fts
  queryText := .text "q"
  columns := .dict (es.map fun r => (r.1, .text r.2))

/-- Two fields take the names of each other. -/
theorem execute_renamed_swapped
    : ∃ (b : Batch) (shown added : List Column),
        (articleEngine.execute articleClient
            (articleSearch [("title", "body"), ("body", "title")])).reply.outcome = .ok b
          ∧ b.columns = shown ++ added
          ∧ added.map (·.field.name) = [rowIdColumn, scoreColumn]
          ∧ shown.map (·.field.name) = ["title", "body"] := by
  have hidentifiers : ∀ r ∈ [("title", "body"), ("body", "title")], isIdentifier r.2 = true := by
    decide +kernel
  have hdata : ∀ name ∈ ["body", "title"], ∃ cells,
      Cells.ofValues (FieldTypes.lookup? [("title", .string), ("body", .string)] name)
        [datum name (.dict [("id", .int 1), ("distance", .int 2),
          ("entity", .dict [("title", .text "t"), ("body", .text "b")])])] = .ok cells := by
    simp only [List.forall_mem_cons]
    exact ⟨⟨_, rfl⟩, ⟨_, rfl⟩, List.forall_mem_nil _⟩
  have hready : articleEngine.Ready articleClient articleEngine.config
      [("title", .string), ("body", .string)] :=
    ⟨rfl, rfl, .inl rfl⟩
  obtain ⟨b, shown, added, hbatch, happend, hadded, _, hnames⟩ :=
    execute_renamed (s := articleSearch [("title", "body"), ("body", "title")])
      (List.cons_ne_nil _ _) (by decide) hidentifiers rfl rfl hready rfl (fun _ _ => rfl)
      ⟨rfl, List.forall_mem_singleton.2 ⟨_, rfl⟩, hdata,
        fun _ => List.forall_mem_singleton.2 ⟨_, _, rfl, rfl, rfl⟩⟩
  exact ⟨b, shown, added, hbatch, happend, hadded, hnames.2 (by decide)⟩

/-- One of two names for a field is lost, and the other one is there twice. -/
theorem name_lost_of_repeated
    : let es := [("a", "title"), ("b", "title")]
      (es.map (·.1)).Nodup
        ∧ (∀ r ∈ es, isIdentifier r.2 = true)
        ∧ ((articleEngine.execute articleClient (articleSearch es)).reply.outcome.map
            (·.schema.names)).toOption = some ["b", "b", rowIdColumn, scoreColumn]
        ∧ ["b", "b"] ≠ es.map (·.1) := by
  intro es
  refine ⟨by decide, by decide +kernel, by decide +kernel, by decide⟩

end MilvusExecutor

end RankFusion.Milvus
