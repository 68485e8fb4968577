import RankFusion.Proofs.Rerank.Acceptance

/-!
This module contains the failures of a fusion. Each names a column that is missing or has a type
that cannot be fused, but for one: a column without values looks for its type in a side that has its
name more than once.
-/

namespace RankFusion

inductive Failure.IsColumn : Failure → Prop where
  | column (fault : ColumnFault) : IsColumn (.column fault)

namespace Failure

variable {f : Failure}

def Told (f : Failure) : Prop :=
  (f.kind = .missingColumn ∨ f.kind = .unsupportedColumnType) ∧ f.kind.isA .fusion = true

theorem IsColumn.told (h : f.IsColumn) : f.Told := by
  cases h with
  | column fault =>
    cases fault with
    | missing => exact ⟨.inl rfl, rfl⟩
    | _ => exact ⟨.inr rfl, rfl⟩

end Failure

open Failure (IsColumn)

theorem Scalar.fails_toSingle (s : Scalar) : s.toSingle.Fails (· = .operand .tooLargeForReal) := by
  unfold toSingle
  apply Except.Fails.map
  cases s with
  | bool b => exact .ok _
  | int n =>
    unfold toReal Value.realOfInt
    dsimp only
    split
    . exact .error rfl
    . exact .ok _
  | real x => exact .ok _

theorem Field.fails_ensureSupported (f : Field) : f.ensureSupported.Fails IsColumn := by
  unfold ensureSupported
  split
  . exact .ok _
  . exact .error (.column _)

namespace Cells

variable {f : Field} {first second : Cells}

theorem fails_align : (align f first second).Fails IsColumn := by
  unfold align
  apply Except.Fails.bind
  . apply Field.fails_ensureSupported
  . intro _ _
    dsimp only
    split
    . exact .error (.column _)
    . exact .ok _

theorem fails_concat {ns ms : List Nat} (hns : ∀ n ∈ ns, n < first.size)
    (hms : ∀ m ∈ ms, m < second.size)
    : (concat f first (ns.map Int.ofNat) second (ms.map Int.ofNat)).Fails IsColumn := by
  unfold concat
  apply Except.Fails.bind
  . exact fails_align
  . intro aligned haligned
    obtain ⟨_, _, rfl⟩ := align_eq_ok_iff.1 haligned
    dsimp only
    rw [← size_adopt first f.type] at hns
    rw [← size_adopt second f.type] at hms
    refine Except.Fails.bind_ok (take_eq_ok_iff.2 ⟨hns, rfl⟩) ?_
    refine Except.Fails.bind_ok (take_eq_ok_iff.2 ⟨hms, rfl⟩) ?_
    exact .ok _

end Cells

namespace Schema

/--
Whether a column of the first schema that has no values looks for its type in a second schema that
has its name more than once.
-/
def Ambiguous (first second : Schema) : Prop :=
  ∃ f ∈ first.fields, f.type = .null ∧ 1 < second.names.count f.name

variable {first second : Schema}

theorem fails_index (s : Schema) (name : String) : (s.index name).Fails IsColumn := by
  unfold index
  split
  . exact .ok _
  . exact .error (.column _)

theorem field_of_count_ne_one {s : Schema} {name : String} (h : s.names.count name ≠ 1)
    : s.field name = .error (.data .ambiguousField) := by
  rw [names, List.count, List.countP_map, List.countP_eq_length_filter] at h
  unfold field
  split
  . next f hf =>
    refine absurd ?_ h
    have hlength : (s.fields.filter fun f => f.name == name).length = 1 := by
      rw [hf]
      rfl
    exact hlength
  . rfl

theorem fails_commonField {f : Field} (hf : f ∈ first.shared second)
    : (second.commonField f).Fails fun e =>
        e = .data .ambiguousField ∧ first.Ambiguous second := by
  rw [shared, List.mem_filter, decide_eq_true_eq] at hf
  unfold commonField
  split
  . next hnull =>
    apply Except.Fails.bind
    . by_cases hcount : second.names.count f.name = 1
      . obtain ⟨g, hg⟩ := Batch.exists_field_of_count hcount
        rw [hg]
        exact .ok g
      . rw [field_of_count_ne_one hcount]
        have hpos := List.count_pos_iff.2 hf.2
        exact .error ⟨rfl, f, hf.1, hnull, by omega⟩
    . intro _ _
      exact .ok _
  . exact .ok _

theorem fails_common
    : (first.common second).Fails fun e =>
        e = .data .ambiguousField ∧ first.Ambiguous second := by
  unfold common
  apply Except.Fails.bind
  . exact .mapM fun f hf => fails_commonField hf
  . intro _ _
    exact .ok _

theorem common_of_ambiguous (h : first.Ambiguous second)
    : first.common second = .error (.data .ambiguousField) := by
  cases hcommon : first.common second with
  | error e => rw [(fails_common e hcommon).1]
  | ok s =>
    obtain ⟨f, hf, hnull, hcount⟩ := h
    have hshared : f ∈ first.shared second := by
      rw [shared, List.mem_filter, decide_eq_true_eq]
      exact ⟨hf, List.count_pos_iff.1 (by omega)⟩
    unfold common at hcommon
    obtain ⟨fields, hfields, _⟩ := Except.bind_eq_ok_iff.1 hcommon
    obtain ⟨kept, hkept⟩ := List.exists_mapM_iff.1 ⟨fields, hfields⟩ f hshared
    unfold commonField at hkept
    rw [if_pos hnull, field_of_count_ne_one (by omega)] at hkept
    cases hkept

end Schema

namespace Batch

variable {b vector fts merged : Batch} {relevance : Int → Except Failure Binary}

theorem fails_cells (b : Batch) (name : String) : (b.cells name).Fails IsColumn := by
  unfold cells
  apply Except.Fails.bind
  . apply Schema.fails_index
  . intro i _
    split
    . exact .ok _
    . exact .error (.column _)

theorem fails_rowIds (b : Batch) : b.rowIds.Fails IsColumn := by
  unfold rowIds
  apply Except.Fails.bind
  . apply fails_cells
  . intro c _
    split
    . exact .ok _
    . exact .error (.column _)

theorem fails_numbers (b : Batch) (name : String) : (b.numbers name).Fails IsColumn := by
  unfold numbers
  apply Except.Fails.bind
  . apply fails_cells
  . intro c _
    split
    . exact .ok _
    . exact .error (.column _)

theorem fails_ranking (b : Batch) : b.ranking.Fails IsColumn := by
  unfold ranking
  split
  . exact .ok _
  . apply fails_rowIds

theorem fails_scored (b : Batch) (name : String) : (b.scored name).Fails IsColumn := by
  unfold scored
  split
  . exact .ok _
  . apply Except.Fails.bind
    . apply fails_rowIds
    . intro ids _
      apply Except.Fails.bind
      . apply fails_numbers
      . intro values _
        exact .ok _

theorem fails_mergeColumn {kept : List Nat} (hkept : ∀ j ∈ kept, j < fts.rows) (f : Field)
    : (mergeColumn vector fts kept f).Fails IsColumn := by
  unfold mergeColumn
  apply Except.Fails.bind
  . apply fails_cells
  . intro first hfirst
    apply Except.Fails.bind
    . apply fails_cells
    . intro second hsecond
      have hvector : ∀ i ∈ List.range vector.rows, i < first.size := by
        intro i hi
        rw [Cells.size, length_of_cells hfirst]
        exact List.mem_range.1 hi
      have hfts : ∀ j ∈ kept, j < second.size := by
        rw [Cells.size, length_of_cells hsecond]
        exact hkept
      refine Except.Fails.bind (Cells.fails_concat hvector hfts) ?_
      intro _ _
      exact .ok _

theorem fails_mergeRows
    : (mergeRows vector fts).Fails fun e =>
        e.IsColumn ∨ (e = .data .ambiguousField ∧ vector.schema.Ambiguous fts.schema) := by
  unfold mergeRows
  apply Except.Fails.bind
  . exact Schema.fails_common.imp fun _ h => .inr h
  . intro s _
    apply Except.Fails.bind
    . exact (fails_rowIds vector).imp fun _ h => .inl h
    . intro vectorIds _
      apply Except.Fails.bind
      . exact (fails_rowIds fts).imp fun _ h => .inl h
      . intro ftsIds hfts
        have hkept := lt_rows_of_unseenPositions hfts (vectorIds.filterMap id)
        apply Except.Fails.bind
        . apply Except.Fails.mapM
          intro f _
          exact (fails_mergeColumn hkept f).imp fun _ h => .inl h
        . intro columns hcolumns
          -- The columns are equally long, so they make a batch.
          have halign : ∀ c ∈ columns, c.values.length = rowCount columns := by
            apply rowCount_eq_of_forall
            intro c hc
            obtain ⟨f, _, hf⟩ := List.exists_left_of_forall₂ (List.mapM_eq_ok_iff.1 hcolumns) hc
            exact length_of_mergeColumn hf
          unfold ofColumns?
          rw [dif_pos halign]
          exact .ok _

theorem fails_merge
    : (vector.merge fts).Fails fun e =>
        e.IsColumn ∨ (e = .data .ambiguousField ∧ vector.schema.Ambiguous fts.schema) := by
  unfold merge
  split
  . exact .ok _
  . exact .ok _
  . exact fails_mergeRows

theorem merge_eq_ambiguous_iff
    : vector.merge fts = .error (.data .ambiguousField)
        ↔
      vector.rows ≠ 0 ∧ fts.rows ≠ 0 ∧ vector.schema.Ambiguous fts.schema := by
  constructor
  . intro h
    refine ⟨?_, ?_, ?_⟩
    . intro hvector
      rw [merge_of_rows_eq_zero hvector] at h
      cases h
    . intro hfts
      by_cases hvector : vector.rows = 0
      . rw [merge_of_rows_eq_zero hvector] at h
        cases h
      . rw [merge_of_fts_rows_eq_zero hvector hfts] at h
        cases h
    . obtain hcolumn | ⟨_, hambiguous⟩ := fails_merge _ h
      . cases hcolumn
      . exact hambiguous
  . rintro ⟨hvector, hfts, hambiguous⟩
    rw [merge_of_rows_ne_zero hvector hfts]
    unfold mergeRows
    rw [Schema.common_of_ambiguous hambiguous]
    rfl

theorem fails_take {positions : List Nat} (h : ∀ i ∈ positions, i < b.rows)
    : (b.take (positions.map Int.ofNat)).Fails IsColumn := by
  unfold take
  apply Except.Fails.bind
  . unfold ensureTakeable
    apply Except.Fails.forM
    intro c hc
    apply Except.Fails.bind
    . apply Field.fails_ensureSupported
    . intro _ _
      have hinside : ∀ i ∈ positions, i < c.cells.size := by
        unfold Cells.size Column.cells
        rw [length_values_of_mem hc]
        exact h
      rw [Cells.positions?_ofNat, if_pos hinside]
      exact .ok _
  . intro _ _
    exact .ok _

theorem fails_sortDescending {name : String}
    (hsortable : ∀ keys, b.cells name = .ok keys → keys.type.isSortable = true)
    : (b.sortDescending name).Fails IsColumn := by
  unfold sortDescending
  apply Except.Fails.bind
  . apply fails_cells
  . intro keys hkeys
    split
    . exact .ok _
    . rw [hsortable keys hkeys]
      apply fails_take
      intro i hi
      rw [← length_of_cells hkeys]
      exact List.mem_range.1 ((descendingPositions_perm _).mem_iff.1 hi)

theorem fails_scoreAndSort {P : Failure → Prop}
    (hscores : ∀ ids, b.rowIds = .ok ids → ∀ x, some x ∈ ids → (relevance x).Fails P)
    : (b.scoreAndSort relevance).Fails fun e => e.IsColumn ∨ P e := by
  unfold scoreAndSort
  apply Except.Fails.bind
  . exact (fails_rowIds b).imp fun _ h => .inl h
  . intro ids hids
    apply Except.Fails.bind
    . apply Except.Fails.mapM
      intro x hx
      cases x with
      | none => exact .ok _
      | some x => exact (hscores ids hids x hx).imp fun _ h => .inr h
    . intro scores hmap
      have hlength : (scores.map Format.single.convert).length = b.rows := by
        rw [List.length_map, ← (List.mapM_eq_ok_iff.1 hmap).length_eq, length_of_rowIds hids]
      have happend : b.append relevanceColumn scores =
          .ok (b.withScores relevanceColumn _ hlength) := dif_pos hlength
      refine Except.Fails.bind_ok happend ?_
      have hsort : ((b.withScores relevanceColumn _ hlength).sortDescending relevanceColumn).Fails
          IsColumn := by
        apply fails_sortDescending
        intro keys hkeys
        cases hkeys.symm.trans (cells_withScores_self (not_mem_names_of_cells_withScores hkeys))
        rfl
      exact hsort.imp fun _ h => .inl h

end Batch

namespace Reranker

variable {r : Reranker} {vector fts : Batch}

theorem fails_toSingle {p : String × Scalar} (hp : p ∈ r.parameters)
    : p.2.toSingle.Fails fun e => e = .operand .tooLargeForReal ∧ ¬ r.Convertible := by
  intro e he
  refine ⟨Scalar.fails_toSingle p.2 e he, ?_⟩
  intro hr
  obtain ⟨x, hx⟩ := hr p hp
  cases hx.symm.trans he

theorem fails_relevance
    : (r.relevance vector fts).Fails fun e =>
        e.IsColumn ∨ (e = .operand .tooLargeForReal ∧ ¬ r.Convertible) := by
  unfold relevance
  cases r with
  | rrf k =>
    dsimp only
    apply Except.Fails.bind
    . exact (fails_toSingle (p := ("k", k)) List.mem_cons_self).imp fun _ h => .inr h
    . intro k _
      refine Except.Fails.bind ((Batch.fails_ranking vector).imp fun _ h => .inl h) ?_
      intro vectorIds _
      refine Except.Fails.bind ((Batch.fails_ranking fts).imp fun _ h => .inl h) ?_
      intro ftsIds _
      exact .ok _
  | linear weight fill =>
    dsimp only
    refine Except.Fails.bind ((Batch.fails_scored vector distanceColumn).imp fun _ h => .inl h) ?_
    intro distances _
    refine Except.Fails.bind ((Batch.fails_scored fts scoreColumn).imp fun _ h => .inl h) ?_
    intro scores _
    exact .ok _
  | mrr weightVector weightFts =>
    dsimp only
    refine Except.Fails.bind ((Batch.fails_ranking vector).imp fun _ h => .inl h) ?_
    intro vectorIds _
    refine Except.Fails.bind ((Batch.fails_ranking fts).imp fun _ h => .inl h) ?_
    intro ftsIds _
    apply Except.Fails.bind
    . exact (fails_toSingle (p := ("weight_vector", weightVector)) List.mem_cons_self).imp
        fun _ h => .inr h
    . intro _ _
      apply Except.Fails.bind
      . exact (fails_toSingle (p := ("weight_fts", weightFts))
          (List.mem_cons_of_mem _ List.mem_cons_self)).imp fun _ h => .inr h
      . intro _ _
        exact .ok _

theorem fails_score {relevance : Int → Except Failure Binary}
    (h : r.relevance vector fts = .ok relevance) (id : Int)
    : (relevance id).Fails fun e => e = .operand .tooLargeForReal ∧ ¬ r.Convertible := by
  unfold Reranker.relevance at h
  cases r with
  | rrf k =>
    simp only [Except.bind_eq_ok_iff, Except.pure_eq_ok_iff] at h
    obtain ⟨_, _, _, _, _, _, rfl⟩ := h
    exact .ok _
  | linear weight fill =>
    simp only [Except.bind_eq_ok_iff, Except.pure_eq_ok_iff] at h
    obtain ⟨_, _, _, _, rfl⟩ := h
    dsimp only
    refine Except.Fails.bind (fails_toSingle (p := ("weight", weight)) List.mem_cons_self) ?_
    intro _ _
    refine Except.Fails.bind (fails_toSingle (p := ("fill", fill))
      (List.mem_cons_of_mem _ List.mem_cons_self)) ?_
    intro _ _
    exact .ok _
  | mrr weightVector weightFts =>
    simp only [Except.bind_eq_ok_iff, Except.pure_eq_ok_iff] at h
    obtain ⟨_, _, _, _, _, _, _, _, rfl⟩ := h
    exact .ok _

/-- A fusion fails over a column, over a repeated name, or over a parameter that is too large. No
score is looked up in vain. -/
theorem fails_fusion
    : (r.rerank vector fts).Fails fun e =>
        e.IsColumn
          ∨ (e = .data .ambiguousField ∧ vector.merge fts = .error (.data .ambiguousField))
          ∨ (e = .operand .tooLargeForReal ∧ ¬ r.Convertible) := by
  rw [rerank_eq]
  apply Except.Fails.bind
  . exact fails_relevance.imp fun _ h => h.imp_right .inr
  . intro relevance hrelevance
    apply Except.Fails.bind
    . intro e he
      obtain hcolumn | ⟨rfl, _⟩ := Batch.fails_merge e he
      . exact .inl hcolumn
      . exact .inr (.inl ⟨rfl, he⟩)
    . intro merged _
      exact (Batch.fails_scoreAndSort fun _ _ x _ => fails_score hrelevance x).imp
        fun _ h => h.imp_right .inr

theorem fails_rerank (hr : r.Convertible)
    : (r.rerank vector fts).Fails fun e =>
        e.IsColumn
          ∨ (e = .data .ambiguousField ∧ vector.merge fts = .error (.data .ambiguousField)) := by
  refine fails_fusion.imp ?_
  rintro e (hcolumn | hambiguous | ⟨_, hlarge⟩)
  . exact .inl hcolumn
  . exact .inr hambiguous
  . exact absurd hr hlarge

theorem rerank_eq_ambiguous_iff (hr : r.Convertible)
    : r.rerank vector fts = .error (.data .ambiguousField)
        ↔
      vector.merge fts = .error (.data .ambiguousField)
        ∧ vector.Keyed ∧ fts.Keyed ∧ (r.method = .linear → vector.Measured fts) := by
  constructor
  . intro h
    obtain hcolumn | ⟨_, hmerge⟩ := fails_rerank hr _ h
    . cases hcolumn
    . obtain ⟨hvector, hfts, _⟩ := Batch.merge_eq_ambiguous_iff.1 hmerge
      refine ⟨hmerge, ?_⟩
      cases hrelevance : r.relevance vector fts with
      | error e =>
        rw [rerank_eq] at h
        rw [hrelevance] at h
        cases h
        obtain hcolumn | ⟨_, hlarge⟩ := fails_relevance _ hrelevance
        . cases hcolumn
        . exact absurd hr hlarge
      | ok relevance =>
        obtain ⟨hkeyed, hkeyed', hmeasured⟩ := (exists_relevance_iff hr).1 ⟨_, hrelevance⟩
        exact ⟨hkeyed hvector, hkeyed' hfts, hmeasured⟩
  . rintro ⟨hmerge, hkeyed, hkeyed', hmeasured⟩
    obtain ⟨relevance, hrelevance⟩ := (exists_relevance_iff hr).2
      ⟨fun _ => hkeyed, fun _ => hkeyed', hmeasured⟩
    rw [rerank_eq]
    rw [hrelevance, hmerge]
    rfl

/--
The failures of a merge and of a fusion: each tells of a column, but for a lookup of a name that
occurs more than once, which happens for a column without values and for no other.
-/
theorem fault_of_failed (hr : r.Convertible)
    : (vector.merge fts).Fails (fun e => e.Told ∨ e = .data .ambiguousField)
        ∧ (r.rerank vector fts).Fails (fun e => e.Told ∨ e = .data .ambiguousField)
        ∧ (vector.merge fts = .error (.data .ambiguousField)
            ↔
          vector.rows ≠ 0 ∧ fts.rows ≠ 0 ∧ vector.schema.Ambiguous fts.schema)
        ∧ (r.rerank vector fts = .error (.data .ambiguousField)
            ↔
          (vector.rows ≠ 0 ∧ fts.rows ≠ 0 ∧ vector.schema.Ambiguous fts.schema)
            ∧ vector.Keyed ∧ fts.Keyed ∧ (r.method = .linear → vector.Measured fts)) := by
  refine ⟨?_, ?_, Batch.merge_eq_ambiguous_iff, ?_⟩
  . exact Batch.fails_merge.imp fun _ h => h.imp (·.told) (·.1)
  . exact (fails_rerank hr).imp fun _ h => h.imp (·.told) (·.1)
  . rw [rerank_eq_ambiguous_iff hr, Batch.merge_eq_ambiguous_iff]

def untypedSample : Batch where
  columns := [⟨⟨rowIdColumn, .uint64, true⟩, [.int 1]⟩, ⟨⟨"note", .null, true⟩, [.null]⟩]
  metadata := none
  aligned := by decide

def doubledSample : Batch where
  columns := [
    ⟨⟨rowIdColumn, .uint64, true⟩, [.int 2]⟩,
    ⟨⟨"note", .string, true⟩, [.text "a"]⟩,
    ⟨⟨"note", .string, true⟩, [.text "b"]⟩]
  metadata := none
  aligned := by decide

theorem convertible_constant : (rrf (.int 60)).Convertible := by
  simp only [Convertible, parameters, List.forall_mem_cons]
  exact ⟨⟨_, rfl⟩, by simp⟩

theorem fault_of_failed_doubled
    : (rrf (.int 60)).Convertible
        ∧ (∃ e, doubledSample.merge untypedSample = .error e ∧ e.Told)
        ∧ untypedSample.merge doubledSample = .error (.data .ambiguousField)
        ∧ (rrf (.int 60)).rerank untypedSample doubledSample = .error (.data .ambiguousField) := by
  obtain ⟨hmerge, _, _, _⟩ :=
    @fault_of_failed _ doubledSample untypedSample convertible_constant
  obtain ⟨_, _, hambiguous, hrerank⟩ :=
    @fault_of_failed _ untypedSample doubledSample convertible_constant
  have hdoubled : untypedSample.schema.Ambiguous doubledSample.schema :=
    ⟨⟨"note", .null, true⟩, by decide, rfl, by decide⟩
  refine ⟨convertible_constant, ?_, ?_, ?_⟩
  . obtain ⟨e, he⟩ : ∃ e, doubledSample.merge untypedSample = .error e := ⟨_, rfl⟩
    obtain htold | rfl := hmerge e he
    . exact ⟨e, he, htold⟩
    . cases he
  . exact hambiguous.2 ⟨by decide, by decide, hdoubled⟩
  . refine hrerank.2 ⟨⟨by decide, by decide, hdoubled⟩, ?_, ?_, nofun⟩
    . exact ⟨by decide, ⟨rowIdColumn, .uint64, true⟩, by decide, rfl, rfl⟩
    . exact ⟨by decide, ⟨rowIdColumn, .uint64, true⟩, by decide, rfl, rfl⟩

/--
The type of a column without values is looked up under a name that the other side has twice. The
failure tells of no column, and is no failure of a fusion.
-/
theorem untold_of_doubled
    : (rrf (.int 60)).Convertible
        ∧ untypedSample.merge doubledSample = .error (.data .ambiguousField)
        ∧ (rrf (.int 60)).rerank untypedSample doubledSample = .error (.data .ambiguousField)
        ∧ (Failure.data .ambiguousField).kind = .key
        ∧ (Failure.data .ambiguousField).kind.isA .fusion = false
        ∧ ¬ (Failure.data .ambiguousField).Told := by
  refine ⟨convertible_constant, rfl, rfl, rfl, rfl, ?_⟩
  rintro ⟨_, hfusion⟩
  cases hfusion

end Reranker

end RankFusion
