import RankFusion.Proofs.Batch.Acceptance
import RankFusion.Proofs.Rerank.Fuse

/-!
This module contains the condition under which two batches can be fused. It is told by their schemas
and by whether they have rows.
-/

namespace RankFusion

namespace Batch

/--
Whether the rows of a batch can be ranked without those of another one.
-/
structure Alone (b : Batch) : Prop where
  keyed : b.Keyed
  unscored : relevanceColumn ∉ b.schema.names
  supported : ∀ f ∈ b.schema.fields, f.type.isSupported

/--
Whether two batches can be ranked together. A batch without rows has no part in it, unless both are
without.
-/
def Fusible (vector fts : Batch) : Prop :=
  (vector.rows ≠ 0 ∧ fts.rows ≠ 0 ∧ vector.Compatible fts
      ∧ ¬ (relevanceColumn ∈ vector.schema.names ∧ relevanceColumn ∈ fts.schema.names))
    ∨ (vector.rows ≠ 0 ∧ fts.rows = 0 ∧ vector.Alone)
    ∨ (vector.rows = 0 ∧ fts.rows ≠ 0 ∧ fts.Alone)
    ∨ (vector.rows = 0 ∧ fts.rows = 0 ∧ fts.Keyed ∧ relevanceColumn ∉ fts.schema.names)

def Measured (vector fts : Batch) : Prop :=
  (vector.rows ≠ 0 → vector.HasOne distanceColumn (·.isNumeric))
    ∧ (fts.rows ≠ 0 → fts.HasOne scoreColumn (·.isNumeric))

variable {b vector fts : Batch}

theorem exists_ranking_iff : (∃ ids, b.ranking = .ok ids) ↔ (b.rows ≠ 0 → b.Keyed) := by
  unfold ranking
  by_cases hrows : b.rows = 0
  . rw [if_pos hrows]
    exact iff_of_true ⟨_, rfl⟩ (absurd hrows)
  . rw [if_neg hrows, exists_rowIds_iff, imp_iff_right hrows]

theorem exists_scored_iff {name : String}
    : (∃ found, b.scored name = .ok found)
        ↔
      (b.rows ≠ 0 → b.Keyed) ∧ (b.rows ≠ 0 → b.HasOne name (·.isNumeric)) := by
  unfold scored
  by_cases hrows : b.rows = 0
  . rw [if_pos hrows]
    exact iff_of_true ⟨_, rfl⟩ ⟨absurd hrows, absurd hrows⟩
  . rw [if_neg hrows, imp_iff_right hrows, imp_iff_right hrows, ← exists_rowIds_iff,
      ← exists_numbers_iff]
    simp only [Except.bind_eq_ok_iff, Except.pure_eq_ok_iff]
    constructor
    . rintro ⟨_, ids, hids, values, hvalues, _⟩
      exact ⟨⟨ids, hids⟩, values, hvalues⟩
    . rintro ⟨⟨ids, hids⟩, values, hvalues⟩
      exact ⟨_, ids, hids, values, hvalues, rfl⟩

theorem supported_iff
    : (∀ c ∈ b.columns, c.field.type.isSupported) ↔ ∀ f ∈ b.schema.fields, f.type.isSupported := by
  unfold schema
  rw [List.forall_mem_map]

theorem keyed_of_mergeRows {merged : Batch} (h : mergeRows vector fts = .ok merged)
    : merged.Keyed := by
  obtain ⟨_, _, hvector, hfts, hmerge⟩ := mergeOf_of_mergeRows h
  exact exists_rowIds_iff.1 ⟨_, hmerge.rowIds_eq hvector hfts⟩

theorem mem_names_of_mergeRows {merged : Batch} (h : mergeRows vector fts = .ok merged)
    {name : String}
    : name ∈ merged.schema.names ↔ name ∈ vector.schema.names ∧ name ∈ fts.schema.names := by
  obtain ⟨_, _, _, _, hmerge⟩ := mergeOf_of_mergeRows h
  rw [hmerge.names_eq, List.mem_filter, decide_eq_true_eq]

theorem fusible_iff
    : vector.Fusible fts
        ↔
      (vector.rows ≠ 0 → vector.Keyed)
        ∧ (fts.rows ≠ 0 → fts.Keyed)
        ∧ ∃ merged, vector.merge fts = .ok merged
          ∧ merged.Keyed
          ∧ relevanceColumn ∉ merged.schema.names
          ∧ (merged.rows ≠ 0 → ∀ c ∈ merged.columns, c.field.type.isSupported) := by
  unfold Fusible merge loneSide?
  by_cases hvector : vector.rows = 0
  . by_cases hfts : fts.rows = 0
    . simp [hvector, hfts]
    . simp only [hvector, hfts, if_true, ne_eq, not_true_eq_false, not_false_eq_true, false_and,
        true_and, false_or, or_false, false_imp_iff, true_imp_iff, Except.ok.injEq,
        exists_eq_left', supported_iff]
      exact ⟨fun h => ⟨h.keyed, h.keyed, h.unscored, h.supported⟩,
        fun ⟨_, hkeyed, hunscored, hsupported⟩ => ⟨hkeyed, hunscored, hsupported⟩⟩
  . by_cases hfts : fts.rows = 0
    . simp only [hvector, hfts, if_true, if_false, ne_eq, not_true_eq_false, not_false_eq_true,
        false_and, true_and, false_or, or_false, false_imp_iff, true_imp_iff, Except.ok.injEq,
        exists_eq_left', supported_iff]
      exact ⟨fun h => ⟨h.keyed, h.keyed, h.unscored, h.supported⟩,
        fun ⟨_, hkeyed, hunscored, hsupported⟩ => ⟨hkeyed, hunscored, hsupported⟩⟩
    . simp only [hvector, hfts, if_false, ne_eq, not_false_eq_true, false_and, true_and, or_false,
        true_imp_iff]
      constructor
      . rintro ⟨hcompatible, hunscored⟩
        obtain ⟨merged, h⟩ := hcompatible.exists_mergeRows
        refine ⟨hcompatible.vectorKeyed, hcompatible.ftsKeyed, merged, h, keyed_of_mergeRows h,
          ?_, fun _ => supported_of_mergeRows h⟩
        rw [mem_names_of_mergeRows h]
        exact hunscored
      . rintro ⟨_, _, merged, h, _, hunscored, _⟩
        rw [mem_names_of_mergeRows h] at hunscored
        exact ⟨compatible_of_mergeRows h, hunscored⟩

end Batch

namespace Reranker

/--
Whether all parameters of a strategy are numbers in single precision, once they are rounded.
-/
def Convertible (r : Reranker) : Prop := ∀ p ∈ r.parameters, ∃ x, p.2.toSingle = .ok x

variable {r : Reranker} {vector fts merged : Batch} {relevance : Int → Except Failure Binary}

theorem exists_relevance_iff (hr : r.Convertible)
    : (∃ relevance, r.relevance vector fts = .ok relevance)
        ↔
      (vector.rows ≠ 0 → vector.Keyed)
        ∧ (fts.rows ≠ 0 → fts.Keyed)
        ∧ (r.method = .linear → vector.Measured fts) := by
  unfold relevance
  cases r with
  | rrf k =>
    obtain ⟨x, hx⟩ := hr ("k", k) List.mem_cons_self
    rw [← Batch.exists_ranking_iff, ← Batch.exists_ranking_iff]
    simp only [Except.bind_eq_ok_iff, Except.pure_eq_ok_iff, hx]
    constructor
    . rintro ⟨_, _, _, vectorIds, hvector, ftsIds, hfts, _⟩
      exact ⟨⟨vectorIds, hvector⟩, ⟨ftsIds, hfts⟩, nofun⟩
    . rintro ⟨⟨vectorIds, hvector⟩, ⟨ftsIds, hfts⟩, _⟩
      exact ⟨_, x, rfl, vectorIds, hvector, ftsIds, hfts, rfl⟩
  | linear weight fill =>
    simp only [Except.bind_eq_ok_iff, Except.pure_eq_ok_iff]
    constructor
    . rintro ⟨_, found, hvector, found', hfts, _⟩
      obtain ⟨hkeyed, hmeasured⟩ := Batch.exists_scored_iff.1 ⟨found, hvector⟩
      obtain ⟨hkeyed', hmeasured'⟩ := Batch.exists_scored_iff.1 ⟨found', hfts⟩
      exact ⟨hkeyed, hkeyed', fun _ => ⟨hmeasured, hmeasured'⟩⟩
    . rintro ⟨hkeyed, hkeyed', hmeasured⟩
      obtain ⟨found, hvector⟩ := Batch.exists_scored_iff.2 ⟨hkeyed, (hmeasured rfl).1⟩
      obtain ⟨found', hfts⟩ := Batch.exists_scored_iff.2 ⟨hkeyed', (hmeasured rfl).2⟩
      exact ⟨_, found, hvector, found', hfts, rfl⟩
  | mrr weightVector weightFts =>
    obtain ⟨x, hx⟩ := hr ("weight_vector", weightVector) List.mem_cons_self
    obtain ⟨y, hy⟩ := hr ("weight_fts", weightFts) (List.mem_cons_of_mem _ List.mem_cons_self)
    rw [← Batch.exists_ranking_iff, ← Batch.exists_ranking_iff]
    simp only [Except.bind_eq_ok_iff, Except.pure_eq_ok_iff, hx, hy]
    constructor
    . rintro ⟨_, vectorIds, hvector, ftsIds, hfts, _⟩
      exact ⟨⟨vectorIds, hvector⟩, ⟨ftsIds, hfts⟩, nofun⟩
    . rintro ⟨⟨vectorIds, hvector⟩, ⟨ftsIds, hfts⟩, _⟩
      exact ⟨_, vectorIds, hvector, ftsIds, hfts, x, rfl, y, rfl, rfl⟩

theorem exists_score (hr : r.Convertible) (h : r.relevance vector fts = .ok relevance) (id : Int)
    : ∃ score, relevance id = .ok score := by
  unfold Reranker.relevance at h
  cases r with
  | rrf k =>
    simp only [Except.bind_eq_ok_iff, Except.pure_eq_ok_iff] at h
    obtain ⟨_, _, _, _, _, _, rfl⟩ := h
    exact ⟨_, rfl⟩
  | linear weight fill =>
    obtain ⟨x, hx⟩ := hr ("weight", weight) List.mem_cons_self
    obtain ⟨y, hy⟩ := hr ("fill", fill) (List.mem_cons_of_mem _ List.mem_cons_self)
    simp only [Except.bind_eq_ok_iff, Except.pure_eq_ok_iff] at h
    obtain ⟨_, _, _, _, rfl⟩ := h
    simp only [hx, hy]
    exact ⟨_, rfl⟩
  | mrr weightVector weightFts =>
    simp only [Except.bind_eq_ok_iff, Except.pure_eq_ok_iff] at h
    obtain ⟨_, _, _, _, _, _, _, _, rfl⟩ := h
    exact ⟨_, rfl⟩

theorem exists_scoreAndSort_iff (hr : r.Convertible)
    (h : r.relevance vector fts = .ok relevance)
    : (∃ result, merged.scoreAndSort relevance = .ok result)
        ↔
      merged.Keyed
        ∧ relevanceColumn ∉ merged.schema.names
        ∧ (merged.rows ≠ 0 → ∀ c ∈ merged.columns, c.field.type.isSupported) := by
  rw [Batch.exists_scoreAndSort_iff, ← Batch.exists_rowIds_iff]
  constructor
  . rintro ⟨ids, hids, _, hsorted⟩
    exact ⟨⟨ids, hids⟩, hsorted⟩
  . rintro ⟨⟨ids, hids⟩, hsorted⟩
    exact ⟨ids, hids, fun x _ => exists_score hr h x, hsorted⟩

theorem exists_rerank_iff (hr : r.Convertible)
    : (∃ result, r.rerank vector fts = .ok result)
        ↔
      vector.Fusible fts ∧ (r.method = .linear → vector.Measured fts) := by
  rw [Batch.fusible_iff]
  rw [rerank_eq]
  simp only [Except.bind_eq_ok_iff]
  constructor
  . rintro ⟨result, relevance, hrelevance, merged, hmerged, hresult⟩
    obtain ⟨hvector, hfts, hmeasured⟩ := (exists_relevance_iff hr).1 ⟨relevance, hrelevance⟩
    have hsorted := (exists_scoreAndSort_iff hr hrelevance).1 ⟨result, hresult⟩
    exact ⟨⟨hvector, hfts, merged, hmerged, hsorted⟩, hmeasured⟩
  . rintro ⟨⟨hvector, hfts, merged, hmerged, hsorted⟩, hmeasured⟩
    obtain ⟨relevance, hrelevance⟩ := (exists_relevance_iff hr).2 ⟨hvector, hfts, hmeasured⟩
    obtain ⟨result, hresult⟩ := (exists_scoreAndSort_iff hr hrelevance).2 hsorted
    exact ⟨result, relevance, hrelevance, merged, hmerged, hresult⟩

theorem returns_iff (hr : r.Convertible)
    : ((∃ merged, vector.merge fts = .ok merged)
          ↔
        vector.rows = 0 ∨ fts.rows = 0 ∨ vector.Compatible fts)
      ∧ ((∃ result, r.rerank vector fts = .ok result)
          ↔
        vector.Fusible fts ∧ (r.method = .linear → vector.Measured fts)) :=
  ⟨Batch.exists_merge_iff, exists_rerank_iff hr⟩

/--
Rows that vector search has found, one of them twice and one without an identifier. The second row
of the identifier found twice has no distance.
-/
def distanceSample : Batch where
  columns := [⟨⟨rowIdColumn, .uint64, true⟩, [.int 7, .null, .int 7]⟩,
    ⟨⟨distanceColumn, .float32, true⟩, [.real .one, .real .one, .null]⟩]
  metadata := none
  aligned := by decide

/--
Rows that text search has found, one of them twice. The row that vector search has found has no
score.
-/
def scoreSample : Batch where
  columns := [⟨⟨rowIdColumn, .uint64, true⟩, [.int 2, .int 7, .int 2]⟩,
    ⟨⟨scoreColumn, .float32, true⟩, [.real .one, .null, .real .zero]⟩]
  metadata := none
  aligned := by decide

/-- Only the second pair of batches has distances and scores to be fused by. -/
theorem returns_iff_sample
    : let r := linear (.real .one) (.int 1)
      r.Convertible
        ∧ (∃ merged, Batch.vectorSample.merge Batch.ftsSample = .ok merged)
        ∧ Batch.vectorSample.Compatible Batch.ftsSample
        ∧ (¬ ∃ result, r.rerank Batch.vectorSample Batch.ftsSample = .ok result)
        ∧ distanceSample.Fusible scoreSample
        ∧ distanceSample.Measured scoreSample
        ∧ ∃ result, r.rerank distanceSample scoreSample = .ok result := by
  intro r
  have hr : r.Convertible := by
    simp only [r, Convertible, parameters, List.forall_mem_cons]
    exact ⟨⟨_, rfl⟩, ⟨_, rfl⟩, by simp⟩
  obtain ⟨hmerge, hrerank⟩ := @returns_iff r Batch.vectorSample Batch.ftsSample hr
  obtain ⟨hmerge', hrerank'⟩ := @returns_iff r distanceSample scoreSample hr
  have hmerged : ∃ merged, Batch.vectorSample.merge Batch.ftsSample = .ok merged := ⟨_, rfl⟩
  have hmeasured : distanceSample.Measured scoreSample :=
    ⟨fun _ => ⟨by decide, _, List.mem_cons_of_mem _ List.mem_cons_self, rfl, rfl⟩,
      fun _ => ⟨by decide, _, List.mem_cons_of_mem _ List.mem_cons_self, rfl, rfl⟩⟩
  have hfusible : distanceSample.Fusible scoreSample := by
    obtain hvector | hfts | hcompatible := hmerge'.1 ⟨_, rfl⟩
    . cases hvector
    . cases hfts
    . exact .inl ⟨by decide, by decide, hcompatible, by decide⟩
  refine ⟨hr, hmerged, ?_, ?_, hfusible, hmeasured, hrerank'.2 ⟨hfusible, fun _ => hmeasured⟩⟩
  . obtain hvector | hfts | hcompatible := hmerge.1 hmerged
    . cases hvector
    . cases hfts
    . exact hcompatible
  . intro h
    -- There is no column of distances.
    have hmeasured := ((hrerank.1 h).2 rfl).1 (by decide)
    cases hmeasured.1

end Reranker

end RankFusion
