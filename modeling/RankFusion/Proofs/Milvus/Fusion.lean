import RankFusion.Proofs.Milvus.Result
import RankFusion.Proofs.Number.Interval
import RankFusion.Proofs.Rerank.Acceptance

/-!
This module contains the fusion of the hits of both sides. It never fails, and every row is shown
once, with the hit of the vector side if there is one.
-/

namespace RankFusion

theorem filterMap_getElem?_range {α : Type} (xs : List α)
    : (List.range xs.length).filterMap (xs[·]?) = xs := by
  have hmap : (List.range xs.length).map (xs[·]?) = xs.map some := by
    apply List.ext_getElem
    . simp
    . intro i _ hi
      rw [List.length_map] at hi
      simp [hi]
  change (List.range xs.length).filterMap (id ∘ (xs[·]?)) = xs
  rw [← List.filterMap_map, hmap, List.filterMap_map]
  exact List.filterMap_some

theorem map_getD_eq {α β : Type} {xs : List α} {positions : List Nat} (f : α → β) (d : β)
    (h : ∀ i ∈ positions, i < xs.length)
    : (positions.map fun i => (xs.map f).getD i d) = (positions.filterMap (xs[·]?)).map f := by
  induction positions with
  | nil => rfl
  | cons i positions ih =>
    rw [List.forall_mem_cons] at h
    rw [List.map_cons, ih h.2, List.filterMap_cons_some (List.getElem?_eq_getElem h.1),
      List.map_cons, List.getD_eq_getElem?_getD, List.getElem?_map, List.getElem?_eq_getElem h.1]
    rfl

namespace Milvus.Hit

variable {fields : List Projected} {hits : List Hit} {b : Batch}

/--
Whether the rows of a batch are those of hits: they have their identifiers, and their cells.
-/
structure Shows (fields : List Projected) (hits : List Hit) (b : Batch) : Prop where
  rowIds : b.rowIds = .ok (hits.map fun h => some h.rowId)
  cells : ∀ f ∈ fields, b.cells f.1 = .ok ⟨f.2, hits.map (cell f)⟩

theorem shows_batch (h : Projectable fields) (side : Side) (value : Hit → Binary)
    (hits : List Hit)
    : Shows fields hits (batch fields side value hits) := by
  refine ⟨rowIds_batch side value hits h, ?_⟩
  intro f hf
  have hcolumn : column hits f ∈ (batch fields side value hits).columns :=
    List.mem_append_left _ (List.mem_map_of_mem hf)
  exact cells_batch side value hits h hcolumn

theorem Shows.gather {positions : List Nat} (h : Shows fields hits b)
    (hperm : positions.Perm (List.range hits.length))
    : ∃ moved : List Hit, moved.Perm hits ∧ Shows fields moved (b.gather positions) := by
  have hinside : ∀ i ∈ positions, i < hits.length :=
    fun i hi => List.mem_range.1 (hperm.mem_iff.1 hi)
  refine ⟨positions.filterMap (hits[·]?), ?_, ?_, ?_⟩
  . have hmoved := hperm.filterMap (hits[·]?)
    rwa [filterMap_getElem?_range] at hmoved
  . rw [Batch.rowIds_gather h.rowIds, map_getD_eq _ _ hinside]
  . intro f hf
    rw [Batch.cells_gather (h.cells f hf)]
    unfold Cells.gather
    rw [map_getD_eq _ _ hinside]

theorem Shows.withScores {scores : List Binary} {hlength : scores.length = b.rows}
    (h : Shows fields hits b) (hfields : Projectable fields)
    : Shows fields hits (b.withScores relevanceColumn scores hlength) := by
  refine ⟨Batch.rowIds_withScores (by decide) h.rowIds, ?_⟩
  intro f hf
  apply Batch.cells_withScores_of_ne
  . exact (hfields.ne_reserved hf).2.2.2
  . exact h.cells f hf

section Merge

variable {found texts : List Hit} {value score : Hit → Binary}

theorem compatible_batches (h : Projectable fields)
    : (batch fields .vector value found).Compatible (batch fields .fts score texts) := by
  refine ⟨Batch.exists_rowIds_iff.1 ⟨_, rowIds_batch _ _ _ h⟩,
    Batch.exists_rowIds_iff.1 ⟨_, rowIds_batch _ _ _ h⟩, ?_⟩
  intro f hf g hg hname
  have hsupported := supported_batch _ _ _ h f hf
  refine ⟨List.count_eq_one_of_mem (nodup_names_batch _ _ _ h) (List.mem_map_of_mem hf), ?_,
    .inl ⟨?_, hsupported⟩⟩
  . rw [← hname]
    exact List.count_eq_one_of_mem (nodup_names_batch _ _ _ h) (List.mem_map_of_mem hg)
  . rw [fields_batch] at hf hg
    simp only [List.mem_append, List.mem_map, List.mem_cons, List.not_mem_nil, or_false] at hf hg
    -- Two columns of one name are of one field, or both hold the row identifiers.
    obtain ⟨x, hx, rfl⟩ | rfl | rfl := hf
    . obtain ⟨hrowId, _, hscore, _⟩ := h.ne_reserved hx
      obtain ⟨y, hy, rfl⟩ | rfl | rfl := hg
      . rw [List.inj_on_of_nodup_map h.nodup hx hy hname.symm]
      . exact absurd hname.symm hrowId
      . exact absurd hname.symm hscore
    . obtain ⟨y, hy, rfl⟩ | rfl | rfl := hg
      . exact absurd hname (h.ne_reserved hy).1
      . rfl
      . exact absurd hname (by decide)
    . obtain ⟨y, hy, rfl⟩ | rfl | rfl := hg
      . exact absurd hname (h.ne_reserved hy).2.1
      . exact absurd hname (by decide)
      . exact absurd hname (by decide)

def others (found texts : List Hit) : List Hit :=
  texts.filter fun h => h.id ∉ found.map (·.id)

theorem rowId_inj {g h : Hit} : g.rowId = h.rowId ↔ g.id = h.id := by
  have hg := g.isWord
  have hh := h.isWord
  unfold Value.isWord at hg hh
  unfold rowId unsignedWord
  simp only [Bool.and_eq_true, decide_eq_true_eq] at hg hh
  constructor
  . intro heq
    split at heq <;> split at heq <;> omega
  . intro heq
    rw [heq]

section Closer

variable {m : DistanceMetric}

/--
Whether a reported value is closer than another one: it is smaller if the metric is a distance, and
greater if it is a similarity. Similarities are the same if they lack the same to one in double
precision.
-/
def closer (m : DistanceMetric) (x y : Binary) : Bool :=
  match m with
  | .l2 | .hamming => x.lt y
  | .cosine | .dot => y.lt x && !(Format.double.sub .one x).eq (Format.double.sub .one y)

theorem isNaN_sub_one (x : Binary) : (Format.double.sub .one x).isNaN = x.isNaN := by
  cases hx : x.isNaN with
  | false => exact Format.isNaN_sub_of_within Binary.within_one hx
  | true =>
    cases x with
    | nan => rfl
    | _ => cases hx

theorem le_sub_one {x y : Binary} (h : x.le y = true)
    : (Format.double.sub .one y).le (Format.double.sub .one x) = true := by
  obtain ⟨hx, hy, hle⟩ := Binary.le_iff.1 h
  exact Binary.le_iff.2 ⟨(isNaN_sub_one y).trans hy, (isNaN_sub_one x).trans hx,
    Format.extended_sub_anti Binary.within_one hx hy hle⟩

/-- Rounding may bring two similarities together, but it does not change their order. -/
theorem lt_sub_one (x y : Binary)
    : (Format.double.sub .one x).lt (Format.double.sub .one y) =
        (y.lt x && !(Format.double.sub .one x).eq (Format.double.sub .one y)) := by
  unfold Binary.lt Binary.eq
  rw [Bool.eq_iff_iff]
  simp only [Bool.and_eq_true, Bool.not_eq_true', Bool.and_eq_false_iff]
  constructor
  . rintro ⟨hle, hnle⟩
    have hxy : x.le y = false := by
      cases h : x.le y with
      | false => rfl
      | true => exact (le_sub_one h).symm.trans hnle
    obtain ⟨hx, hy, _⟩ := Binary.le_iff.1 hle
    obtain hle' | hle' :=
      Binary.le_total ((isNaN_sub_one x).symm.trans hx) ((isNaN_sub_one y).symm.trans hy)
    . cases hxy.symm.trans hle'
    . exact ⟨⟨hle', hxy⟩, .inr hnle⟩
  . rintro ⟨⟨hyx, _⟩, hnle | hnle⟩
    . cases hnle.symm.trans (le_sub_one hyx)
    . exact ⟨le_sub_one hyx, hnle⟩

theorem closer_eq (x y : Binary) : closer m x y = (toDistance m x).lt (toDistance m y) := by
  cases m with
  | l2 | hamming => rfl
  | cosine | dot => exact (lt_sub_one x y).symm

theorem isNaN_toDistance (x : Binary) : (toDistance m x).isNaN = x.isNaN := by
  cases m with
  | l2 | hamming => rfl
  | cosine | dot => exact isNaN_sub_one x

/--
Whether a hit counts for its row: it is closer than those of the row before it, and none after it is
closer. No hit is closer or farther than NaN.
-/
def Counts (m : DistanceMetric) (hits : List Hit) (h : Hit) : Prop :=
  ∃ before after, hits = before ++ h :: after
    ∧ (∀ g ∈ before, g.id = h.id → g.distance.isNaN = false → h.distance.isNaN = false →
        closer m h.distance g.distance = true)
    ∧ ∀ g ∈ after, g.id = h.id → closer m g.distance h.distance = false

theorem IsBest.counts {h : Hit} (hbest : h.IsBest m hits) : h.Counts m hits := by
  obtain ⟨before, after, heq, hbefore, hafter⟩ := hbest
  refine ⟨before, after, heq, ?_, ?_⟩
  . intro g hg hid hgnan hhnan
    rw [closer_eq]
    refine Binary.le_eq_false_iff.1 (Bool.eq_false_iff.2 (hbefore g hg hid)) ?_ ?_
    . exact (isNaN_toDistance g.distance).trans hgnan
    . exact (isNaN_toDistance h.distance).trans hhnan
  . intro g hg hid
    rw [closer_eq]
    exact Bool.eq_false_iff.2 (hafter g hg hid)

end Closer

/--
Whether shown hits stand for all hits of both sides: every row is shown once, by the hit of the
vector side that counts, or else by the hit of the text side.
-/
structure Represents (m : DistanceMetric) (hits texts shown : List Hit) : Prop where
  nodup : (shown.map rowId).Nodup
  mem_iff : ∀ n, n ∈ shown.map rowId ↔ ∃ h ∈ hits ++ texts, unsignedWord h.id = n
  counts : ∀ h ∈ shown, h.Counts m hits ∨ (h ∈ texts ∧ h.id ∉ hits.map (·.id))

theorem mem_map_id_others {n : Int}
    : n ∈ (found ++ others found texts).map (·.id) ↔
        n ∈ found.map (·.id) ∨ n ∈ texts.map (·.id) := by
  rw [List.map_append, List.mem_append]
  by_cases hn : n ∈ found.map (·.id)
  . simp only [hn, true_or]
  . simp only [hn, false_or]
    constructor
    . intro hin
      obtain ⟨h, hh, rfl⟩ := List.mem_map.1 hin
      exact List.mem_map_of_mem (List.mem_filter.1 hh).1
    . intro hin
      obtain ⟨h, hh, rfl⟩ := List.mem_map.1 hin
      exact List.mem_map_of_mem (List.mem_filter.2 ⟨hh, decide_eq_true hn⟩)

theorem nodup_map_rowId (h : (hits.map (·.id)).Nodup) : (hits.map rowId).Nodup := by
  refine List.Nodup.map_on ?_ (List.Nodup.of_map _ h)
  intro x hx y hy hxy
  exact List.inj_on_of_nodup_map h hx hy (rowId_inj.1 hxy)

theorem represents_of_perm {m : DistanceMetric} {shown : List Hit} (hfound : Keeps m hits found)
    (htexts : (texts.map (·.id)).Nodup) (hperm : shown.Perm (found ++ others found texts))
    : Represents m hits texts shown := by
  have hothers : ((others found texts).map (·.id)).Nodup :=
    (List.filter_sublist.map _).nodup htexts
  have hdisjoint : ((found ++ others found texts).map (·.id)).Nodup := by
    rw [List.map_append, List.nodup_append]
    refine ⟨hfound.nodup, hothers, ?_⟩
    rintro n hn _ hin rfl
    obtain ⟨h, hh, rfl⟩ := List.mem_map.1 hin
    exact of_decide_eq_true (List.mem_filter.1 hh).2 hn
  refine ⟨nodup_map_rowId ((hperm.map _).nodup_iff.2 hdisjoint), ?_, ?_⟩
  . intro n
    rw [(hperm.map rowId).mem_iff]
    have hmem : ∀ n, n ∈ (found ++ others found texts).map (·.id) ↔
        n ∈ (hits ++ texts).map (·.id) := by
      intro n
      rw [mem_map_id_others, hfound.mem_iff, List.map_append, List.mem_append]
    constructor
    . intro hn
      obtain ⟨h, hh, rfl⟩ := List.mem_map.1 hn
      obtain ⟨g, hg, hid⟩ := List.mem_map.1 ((hmem h.id).1 (List.mem_map_of_mem hh))
      exact ⟨g, hg, congrArg unsignedWord hid⟩
    . rintro ⟨g, hg, rfl⟩
      obtain ⟨h, hh, hid⟩ := List.mem_map.1 ((hmem g.id).2 (List.mem_map_of_mem hg))
      exact List.mem_map.2 ⟨h, hh, congrArg unsignedWord hid⟩
  . intro h hh
    cases List.mem_append.1 (hperm.mem_iff.1 hh) with
    | inl hin => exact .inl (hfound.isBest h hin).counts
    | inr hin =>
      obtain ⟨htext, hnew⟩ := List.mem_filter.1 hin
      refine .inr ⟨htext, ?_⟩
      rw [← hfound.mem_iff]
      exact of_decide_eq_true hnew

theorem shows_mergeRows {merged : Batch} (h : Projectable fields)
    (htexts : (texts.map (·.id)).Nodup)
    (hmerged : Batch.mergeRows (batch fields .vector value found) (batch fields .fts score texts)
      = .ok merged)
    : Shows fields (found ++ others found texts) merged := by
  obtain ⟨vectorIds, ftsIds, hvector, hfts, hmerge⟩ := Batch.mergeOf_of_mergeRows hmerged
  cases hvector.symm.trans (rowIds_batch .vector value found h)
  cases hfts.symm.trans (rowIds_batch .fts score texts h)
  have hkeys := nodup_map_rowId htexts
  have hothers : (texts.filter fun h => h.rowId ∉ found.map rowId) = others found texts := by
    apply List.filter_congr
    intro x _
    simp [rowId_inj]
  refine ⟨?_, ?_⟩
  . rw [hmerge.rowIds_eq hvector hfts, map_unseenPositions hkeys, hothers, List.map_append]
  . intro f hf
    have hname : f.1 ∈ merged.schema.names := by
      rw [hmerge.names_eq, List.mem_filter, names_batch, names_batch, decide_eq_true_eq]
      have hin := List.mem_append_left [rowIdColumn, rankColumnName .vector]
        (List.mem_map_of_mem (f := Prod.fst) hf)
      have hin' := List.mem_append_left [rowIdColumn, rankColumnName .fts]
        (List.mem_map_of_mem (f := Prod.fst) hf)
      exact ⟨hin, hin'⟩
    obtain ⟨first, second, cells, hfirst, hsecond, hcells, hvalues⟩ := hmerge.cells f.1 hname
    cases hfirst.symm.trans ((shows_batch h .vector value found).cells f hf)
    cases hsecond.symm.trans ((shows_batch h .fts score texts).cells f hf)
    have hnull : f.2 ≠ .null := by
      intro hnull
      have hsupported := supported_of_columnTypes (h.typed f hf)
      rw [hnull] at hsupported
      cases hsupported
    have htype : cells.type = f.2 := hmerge.type_eq hfirst hnull hcells
    have htextCells : (Cells.mk f.2 (texts.map (cell f))).cell =
        fun j => (texts.map (cell f)).getD j .null :=
      funext (Cells.cell_of_type_ne_null hnull)
    rw [← Batch.length_of_cells hfirst, Cells.map_cell_range hnull, htextCells,
      map_unseenPositions hkeys, hothers, ← List.map_append] at hvalues
    rw [hcells, ← htype, ← hvalues]

theorem exists_merge_shows (h : Projectable fields) (htexts : (texts.map (·.id)).Nodup)
    : ∃ merged,
        (batch fields .vector value found).merge (batch fields .fts score texts) = .ok merged
          ∧ Shows fields (found ++ others found texts) merged := by
  unfold Batch.merge Batch.loneSide?
  rw [rows_batch, rows_batch]
  by_cases hfound : found.length = 0
  . obtain rfl := List.length_eq_zero_iff.1 hfound
    have hothers : others [] texts = texts := by simp [others]
    rw [hothers]
    exact ⟨_, rfl, shows_batch h .fts score texts⟩
  . rw [if_neg hfound]
    by_cases hnone : texts.length = 0
    . obtain rfl := List.length_eq_zero_iff.1 hnone
      have hothers : others found [] = [] := rfl
      rw [hothers, List.append_nil]
      exact ⟨_, rfl, shows_batch h .vector value found⟩
    . rw [if_neg hnone]
      obtain ⟨merged, hmerged⟩ := (compatible_batches h).exists_mergeRows
      exact ⟨merged, hmerged, shows_mergeRows h htexts hmerged⟩

theorem fusible_batches (h : Projectable fields)
    : (batch fields .vector value found).Fusible (batch fields .fts score texts) := by
  have hunscored : ∀ side value hits,
      relevanceColumn ∉ (batch fields side value hits).schema.names := by
    intro side value hits
    rw [names_batch, List.mem_append, not_or]
    refine ⟨?_, ?_⟩
    . intro hin
      obtain ⟨f, hf, hname⟩ := List.mem_map.1 hin
      exact (h.ne_reserved hf).2.2.2 hname
    . cases side <;> decide
  have halone : ∀ side value hits, (batch fields side value hits).Alone := fun side value hits =>
    ⟨Batch.exists_rowIds_iff.1 ⟨_, rowIds_batch side value hits h⟩, hunscored side value hits,
      supported_batch side value hits h⟩
  unfold Batch.Fusible
  by_cases hvector : (batch fields .vector value found).rows = 0
  . by_cases hfts : (batch fields .fts score texts).rows = 0
    . exact .inr (.inr (.inr ⟨hvector, hfts, (halone _ _ _).keyed, hunscored _ _ _⟩))
    . exact .inr (.inr (.inl ⟨hvector, hfts, halone _ _ _⟩))
  . by_cases hfts : (batch fields .fts score texts).rows = 0
    . exact .inr (.inl ⟨hvector, hfts, halone _ _ _⟩)
    . exact .inl ⟨hvector, hfts, compatible_batches h, fun hin => hunscored _ _ _ hin.1⟩

theorem measured_batches (h : Projectable fields)
    : (batch fields .vector value found).Measured (batch fields .fts score texts) := by
  have hrank : ∀ side value hits,
      (batch fields side value hits).HasOne (rankColumnName side) (·.isNumeric) := by
    intro side value hits
    exact Batch.exists_cells_iff.1 ⟨_, cells_batch side value hits h
      (List.mem_append_right _ (List.mem_cons_of_mem _ List.mem_cons_self)), rfl⟩
  exact ⟨fun _ => hrank .vector value found, fun _ => hrank .fts score texts⟩

theorem exists_rerank_shows {r : Reranker} (hr : r.Convertible) (h : Projectable fields)
    (found : List Hit) (value score : Hit → Binary) (htexts : (texts.map (·.id)).Nodup)
    : ∃ (result : Batch) (shown : List Hit),
        r.rerank (batch fields .vector value found) (batch fields .fts score texts) = .ok result
          ∧ shown.Perm (found ++ others found texts)
          ∧ Shows fields shown result := by
  have hfusible : (batch fields .vector value found).Fusible (batch fields .fts score texts) :=
    fusible_batches h
  obtain ⟨result, hresult⟩ :=
    (Reranker.exists_rerank_iff hr).2 ⟨hfusible, fun _ => measured_batches h⟩
  obtain ⟨relevance, merged, ids, hlength, _, hmerged, hids, _, _, rfl⟩ :=
    Reranker.rerank_eq_ok hresult
  have hshows : Shows fields (found ++ others found texts) merged := by
    obtain ⟨_, hmerged', hshows⟩ := exists_merge_shows h htexts
    cases hmerged.symm.trans hmerged'
    exact hshows
  cases hids.symm.trans hshows.rowIds
  have hperm := descendingPositions_perm
    ((((found ++ others found texts).map fun h => some h.rowId).map
      (Batch.scoreOf relevance)).map .real)
  rw [List.length_map, List.length_map, List.length_map] at hperm
  obtain ⟨shown, hshown, hmoved⟩ := (hshows.withScores h).gather hperm
  exact ⟨_, shown, hresult, hshown, hmoved⟩

end Merge

end Milvus.Hit

end RankFusion
