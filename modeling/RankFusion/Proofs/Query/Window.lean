import RankFusion.Proofs.Batch.Slice
import RankFusion.Proofs.Number.Scalar
import RankFusion.Proofs.Query.Orchestration
import RankFusion.Proofs.Rerank.Fuse

/-!
This module contains the window of a query. On an engine whose answers depend on the request only,
the window and the row identifiers have no part in what is searched or in how it is fused: the run
with a window returns the rows of that window of the run without one, or fails as that one does.
-/

namespace RankFusion

def Value.count : Option Nat → Value
  | none => .null
  | some n => .int n

namespace QueryConfig

variable {c : QueryConfig} (b : Batch)

theorem applyLimit_count (limit : Option Nat) (h : c.limit = .count limit)
    : c.applyLimit b = .ok (b.extract 0 (min (limit.getD b.rows) b.rows)) := by
  unfold applyLimit
  rw [h]
  cases limit with
  | none =>
    rw [Option.getD_none, Nat.min_self, Batch.extract_rows]
    rfl
  | some n =>
    simp only [Value.count, Value.compare_gt_int, Option.getD_some]
    by_cases hn : n < b.rows
    . simp only [Int.ofNat_lt, hn, decide_true, Nat.min_eq_left (Nat.le_of_lt hn)]
      have := b.slice_natCast 0 n
      rwa [Nat.zero_add] at this
    . simp only [Int.ofNat_lt, hn, decide_false, Nat.min_eq_right (Nat.le_of_not_lt hn),
        Batch.extract_rows]
      rfl

theorem applyOffset_count (offset : Option Nat) (h : c.offset = .count offset)
    : c.applyOffset b = .ok (b.extract (offset.getD 0) b.rows) := by
  unfold applyOffset
  rw [h]
  match offset with
  | none | some 0 =>
    rw [show Option.getD _ 0 = 0 from rfl, Batch.extract_rows]
    rfl
  | some (n + 1) =>
    have htruthy : (Value.count (some (n + 1))).isTruthy = true := by
      simp [Value.count, Value.isTruthy]
      omega
    have hslice : ∀ start : Nat, start ≤ b.rows →
        b.slice (start : Int) (b.rows - start) = .ok (b.extract start b.rows) := by
      intro start hle
      have := b.slice_natCast start (b.rows - start)
      rwa [Nat.add_sub_cancel' hle, Int.ofNat_sub hle] at this
    simp only [htruthy, Bool.not_true, Bool.false_eq_true, if_false, Option.getD_some]
    simp only [Value.count, Value.compare_lt_int, Int.ofNat_lt]
    by_cases hn : b.rows < n + 1
    . simp only [hn, decide_true]
      rw [Batch.extract_of_rows_le b (n + 1) (Nat.le_of_lt hn)]
      exact hslice b.rows (Nat.le_refl _)
    . simp only [hn, decide_false]
      exact hslice (n + 1) (Nat.le_of_not_lt hn)

theorem window_count (limit offset : Option Nat) (hlimit : c.limit = .count limit)
    (hoffset : c.offset = .count offset)
    : c.window b =
        .ok (b.extract (offset.getD 0) (min (limit.getD b.rows) b.rows)) := by
  unfold window
  rw [applyLimit_count b limit hlimit]
  change c.applyOffset _ = _
  rw [applyOffset_count _ offset hoffset, Batch.rows_extract, Batch.extract_extract]
  congr 2
  omega

theorem requireNonNegative_count (name : String) (n : Option Nat)
    : requireNonNegative name (.count n) = .ok () := by
  unfold requireNonNegative
  cases n with
  | none => rfl
  | some n =>
    simp only [Value.count, Value.compare_lt_int, Int.not_lt.2 (Int.natCast_nonneg n), decide_false]
    rfl

end QueryConfig

namespace Batch

def page (b : Batch) (start stop : Nat) (identified : Bool) : Batch :=
  if identified then b.extract start stop else (b.extract start stop).dropColumn rowIdColumn

variable (b : Batch) (start stop : Nat) (identified : Bool)

theorem columns_page
    : (b.page start stop identified).columns =
        (b.columns.filter fun c => identified || c.field.name != rowIdColumn).map fun c =>
          { c with values := (c.values.take stop).drop start } := by
  unfold page
  cases identified with
  | true =>
    simp only [if_true, Bool.true_or, List.filter_true]
    exact columns_extract b start stop
  | false =>
    simp only [Bool.false_eq_true, if_false, Bool.false_or, dropColumn]
    rw [columns_extract, List.filter_map]
    rfl

theorem metadata_page : (b.page start stop identified).metadata = b.metadata := by
  unfold page
  cases identified with
  | true => rfl
  | false => rfl

theorem schema_page (start' stop' : Nat)
    : (b.page start stop identified).schema = (b.page start' stop' identified).schema := by
  unfold schema
  simp only [columns_page, metadata_page, List.map_map]
  rfl

theorem page_rows
    : b.page 0 b.rows identified = if identified then b else b.dropColumn rowIdColumn := by
  unfold page
  rw [extract_rows]

/--
Whether the rows of batches, one batch after the other, are those of a whole.
-/
structure IsConcat (whole : Batch) (parts : List Batch) : Prop where
  schema : ∀ part ∈ parts, part.schema = whole.schema
  values : ∀ (i : Nat) (c : Column), whole.columns[i]? = some c →
    parts.flatMap (fun part => (part.columns[i]?.map (·.values)).getD []) = c.values

theorem isConcat_pages {cuts : List Nat} (hsorted : (0 :: cuts).Pairwise (· ≤ ·))
    (hlast : (0 :: cuts).getLast (List.cons_ne_nil _ _) = b.rows)
    : (b.page 0 b.rows identified).IsConcat
        (((0 :: cuts).zip cuts).map fun c => b.page c.1 c.2 identified) := by
  refine ⟨?_, ?_⟩
  . intro part hpart
    obtain ⟨c, _, rfl⟩ := List.mem_map.1 hpart
    exact schema_page b _ _ identified _ _
  . intro i column hcolumn
    rw [columns_page, List.getElem?_map, Option.map_eq_some_iff] at hcolumn
    obtain ⟨source, hsource, rfl⟩ := hcolumn
    have hpieces := flatten_pieces source.values 0 cuts hsorted
    rw [hlast] at hpieces
    rw [List.flatMap_map, List.flatMap, ← hpieces]
    congr 1
    apply List.map_congr_left
    intro c _
    rw [columns_page, List.getElem?_map, hsource]
    rfl

end Batch

theorem SubSearches.run_of_reply {σ : Type} {ex : Executor σ} {reply : SubSearch → Reply}
    (hex : ∀ r s, (ex r s).1 = reply r) (concurrent : Bool) (limit : Option Nat)
    (vector fts : SubSearch) (s s' : σ)
    : (run concurrent ex limit vector fts s).joint = (run concurrent ex limit vector fts s').joint
        ∧ (run concurrent ex limit vector fts s).requests
          = (run concurrent ex limit vector fts s').requests := by
  unfold run
  cases concurrent with
  | true =>
    rw [if_pos rfl, if_pos rfl]
    unfold together
    simp only [hex, and_self]
  | false =>
    unfold inTurn
    dsimp only
    simp only [Bool.false_eq_true, if_false, hex]
    cases (Joint.alone limit 0 .fts (reply fts)).1 with
    | error e => exact ⟨rfl, rfl⟩
    | ok t => exact ⟨rfl, rfl⟩

namespace HybridQuery

variable (q : HybridQuery) (limit offset : Option Nat) (withRowId : Value)

def cut : HybridQuery :=
  { q with
    config := { q.config with limit := .count limit, offset := .count offset }, withRowId }

theorem present_count {q : HybridQuery} (limit offset : Option Nat)
    (hlimit : q.config.limit = .count limit) (hoffset : q.config.offset = .count offset)
    (all : Batch)
    : q.present all =
        .ok (all.page (offset.getD 0) (min (limit.getD all.rows) all.rows)
          q.withRowId.isTruthy) := by
  unfold present
  rw [QueryConfig.window_count all limit offset hlimit hoffset]
  unfold Batch.page
  cases h : q.withRowId.isTruthy with
  | true => rfl
  | false => rfl

theorem present_cut (all : Batch)
    : (q.cut limit offset withRowId).present all =
        .ok (all.page (offset.getD 0) (min (limit.getD all.rows) all.rows) withRowId.isTruthy) :=
  present_count (q := q.cut limit offset withRowId) limit offset rfl rfl all

theorem present_of_null {q : HybridQuery} (hlimit : q.config.limit = .null)
    (hoffset : q.config.offset = .null) (all : Batch)
    : q.present all =
        .ok (if q.withRowId.isTruthy then all else all.dropColumn rowIdColumn) := by
  rw [present_count none none hlimit hoffset, Option.getD_none, Option.getD_none,
     Nat.min_self, Batch.page_rows]

theorem present_full (all : Batch) : (q.cut none none (.bool true)).present all = .ok all :=
  present_of_null (q := q.cut none none (.bool true)) rfl rfl all

theorem refusal?_cut
    : (q.cut limit offset withRowId).refusal? = (q.cut none none (.bool true)).refusal? := by
  unfold refusal? QueryConfig.validate cut
  simp only [QueryConfig.requireNonNegative_count]

theorem outcome_afterSubSearches_cut (m : Metrics) (found : Except Interruption (Batch × Batch))
    : ((q.cut limit offset withRowId).afterSubSearches m found).outcome =
        ((q.cut none none (.bool true)).afterSubSearches m found).outcome.map fun all =>
          all.page (offset.getD 0) (min (limit.getD all.rows) all.rows) withRowId.isTruthy := by
  rw [outcome_afterSubSearches_eq, outcome_afterSubSearches_eq]
  cases found with
  | error i => rfl
  | ok pair =>
    change ((q.reranker.rerank pair.1 pair.2 q.query) >>= _).mapError _ =
      (((q.reranker.rerank pair.1 pair.2 q.query) >>= _).mapError _).map _
    cases q.reranker.rerank pair.1 pair.2 q.query with
    | error f => rfl
    | ok fused =>
      have hbind : ∀ p : HybridQuery, (Except.ok fused >>= p.present) = p.present fused :=
        fun _ => rfl
      rw [hbind, hbind, present_cut, present_full]
      rfl

section Execute

variable {σ τ : Type} {ex : Executor σ} {reply : SubSearch → Reply} (observer : Observer τ)
  (timeout : Value) (giveUp : Option Nat) (s s' : σ) (t t' : τ)

theorem execute_cut_eq (hex : ∀ r s, (ex r s).1 = reply r)
    : let full := ((q.cut none none (.bool true)).execute ex observer timeout giveUp s t).1
      let x := ((q.cut limit offset withRowId).execute ex observer timeout giveUp s' t').1
      x.requests = full.requests
        ∧ x.outcome = full.outcome.map fun all =>
            all.page (offset.getD 0) (min (limit.getD all.rows) all.rows) withRowId.isTruthy := by
  intro full x
  cases hrefusal : (q.cut none none (.bool true)).refusal? with
  | some f =>
    have hcut := (q.refusal?_cut limit offset withRowId).trans hrefusal
    obtain ⟨hfull, hfullRequests, _⟩ :=
      execute_of_refusal ex observer timeout giveUp hrefusal s t
    obtain ⟨hx, hxRequests, _⟩ :=
      execute_of_refusal ex observer timeout giveUp hcut s' t'
    refine ⟨hxRequests.trans hfullRequests.symm, ?_⟩
    rw [hx, hfull]
    rfl
  | none =>
    have hcut := (q.refusal?_cut limit offset withRowId).trans hrefusal
    obtain ⟨⟨m, hfull⟩, hfullRequests, _⟩ :=
      execute_of_not_refusal ex observer timeout giveUp hrefusal s t
    obtain ⟨⟨m', hx⟩, hxRequests, _⟩ :=
      execute_of_not_refusal ex observer timeout giveUp hcut s' t'
    obtain ⟨hjoint, hrequests⟩ := SubSearches.run_of_reply hex q.concurrent.isTruthy giveUp
      (q.request .vector (q.effectiveTimeout timeout))
      (q.request .fts (q.effectiveTimeout timeout)) s' s
    refine ⟨hxRequests.trans (hrequests.trans hfullRequests.symm), ?_⟩
    rw [hx, hfull, outcome_afterSubSearches m m', outcome_afterSubSearches_cut]
    exact congrArg (fun j : Joint => Except.map _ (afterSubSearches _ m' j.outcome).outcome) hjoint

theorem execute_cut (hex : ∀ r s, (ex r s).1 = reply r)
    : let run (limit offset : Option Nat) (withRowId : Value) (s : σ) (t : τ) :=
        ((q.cut limit offset withRowId).execute ex observer timeout giveUp s t).1
      let full := run none none (.bool true) s t
      let x := run limit offset withRowId s' t'
      -- the same is searched for, and the same failures come of it
      x.requests = full.requests
        ∧ (∀ i, x.outcome = .error i ↔ full.outcome = .error i)
        -- the rows of the window
        ∧ (∀ all, full.outcome = .ok all →
            ∃ page, x.outcome = .ok page
              ∧ page.metadata = all.metadata
              ∧ page.columns =
                  (all.columns.filter fun c =>
                      withRowId.isTruthy || c.field.name != rowIdColumn).map fun c =>
                    { c with
                      values := (c.values.take (min (limit.getD all.rows) all.rows)).drop
                        (offset.getD 0) })
        -- the windows between cut points in order, up to the number of rows
        ∧ (∀ all, full.outcome = .ok all → ∀ cuts : List Nat, (0 :: cuts).Pairwise (· ≤ ·) →
            (0 :: cuts).getLast (List.cons_ne_nil _ _) = all.rows →
            ∃ whole pages,
              (∀ s t, (run none none withRowId s t).outcome = .ok whole)
                ∧ List.Forall₂
                    (fun c page =>
                      ∀ s t, (run (some c.2) (some c.1) withRowId s t).outcome = .ok page)
                    ((0 :: cuts).zip cuts) pages
                ∧ whole.IsConcat pages) := by
  intro run full x
  have hrun : ∀ (limit offset : Option Nat) (withRowId : Value) (s' : σ) (t' : τ),
      (run limit offset withRowId s' t').requests = full.requests
        ∧ (run limit offset withRowId s' t').outcome = full.outcome.map fun all =>
            all.page (offset.getD 0) (min (limit.getD all.rows) all.rows) withRowId.isTruthy :=
    fun limit offset withRowId s' t' =>
      q.execute_cut_eq limit offset withRowId observer timeout giveUp s s' t t' hex
  obtain ⟨hrequests, houtcome⟩ := hrun limit offset withRowId s' t'
  refine ⟨hrequests, ?_, ?_, ?_⟩
  . intro i
    rw [houtcome]
    cases full.outcome with
    | error j => rfl
    | ok all => simp [Except.map]
  . intro all hall
    rw [hall] at houtcome
    exact ⟨_, houtcome, Batch.metadata_page .., Batch.columns_page ..⟩
  . intro all hall cuts hsorted hlast
    have hle : ∀ c ∈ (0 :: cuts).zip cuts, c.2 ≤ all.rows := by
      intro c hc
      rw [← hlast]
      exact hsorted.rel_getLast (List.mem_cons_of_mem 0 (List.of_mem_zip hc).2)
    refine ⟨all.page 0 all.rows withRowId.isTruthy, _, ?_, ?_,
      all.isConcat_pages withRowId.isTruthy hsorted hlast⟩
    . intro s t
      rw [(hrun none none withRowId s t).2, hall]
      simp [Except.map]
    . rw [List.forall₂_map_right_iff, List.forall₂_same]
      intro c hc s t
      rw [(hrun (some c.2) (some c.1) withRowId s t).2, hall]
      simp [Except.map, Nat.min_eq_left (hle c hc)]

theorem execute_cut_sample
    : let answer : Side → Except Failure Batch := fun side =>
        match side with
        | .vector => .ok Batch.vectorSample
        | .fts => .ok Batch.ftsSample
      let ex := Executor.fixed answer fun _ => 0
      let q : HybridQuery :=
        { query := "q", vector := [.one], reranker := .strategy (.mrr (.int 1) (.real .zero)) }
      let run (limit offset : Option Nat) (withRowId : Value) :=
        ((q.cut limit offset withRowId).execute ex (Observer.silent : Observer Unit) .null none ()
          ()).1.outcome
      ∃ (reply : SubSearch → Reply) (all page whole : Batch) (pages : List Batch),
        (∀ r s, (ex r s).1 = reply r)
          ∧ run none none (.bool true) = .ok all
          ∧ all.rows = 4
          ∧ run (some 3) (some 1) (.bool false) = .ok page
          ∧ page.columns =
              ((all.columns.filter fun c => c.field.name != rowIdColumn).map fun c =>
                { c with values := (c.values.take 3).drop 1 })
          ∧ run none none (.bool false) = .ok whole
          ∧ List.Forall₂ (fun c page => run (some c.2) (some c.1) (.bool false) = .ok page)
              [(0, 1), (1, 1), (1, 4)] pages
          ∧ whole.IsConcat pages := by
  intro answer ex q run
  obtain ⟨all, hall⟩ : ∃ all,
      (Reranker.mrr (.int 1) (.real .zero)).rerank Batch.vectorSample Batch.ftsSample = .ok all :=
    Reranker.exists_rerank rfl rfl rfl (fun _ _ => ⟨_, rfl⟩) (by decide) (by decide)
  have hrows : all.rows = 4 := by
    obtain ⟨_, merged, ids, _, _, hmerged, hids, _, _, rfl⟩ := Reranker.rerank_eq_ok hall
    cases hmerged
    cases hids
    have hne : rowIdColumn ≠ relevanceColumn := by decide
    rw [← Batch.length_of_rowIds (Batch.rowIds_gather (Batch.rowIds_withScores hne rfl)),
      List.length_map, (descendingPositions_perm _).length_eq]
    rfl
  have hfull : run none none (.bool true) = .ok all := by
    have hfused := outcome_of_fused (q := q.cut none none (.bool true)) ex
      (Observer.silent : Observer Unit) .null none (by rfl) rfl (s := ())
      (v := Batch.vectorSample) (f := Batch.ftsSample) (by rfl) hall ()
    rw [present_full] at hfused
    exact hfused
  have hex : ∀ r s, (ex r s).1 = (ex r ()).1 := fun _ _ => rfl
  obtain ⟨_, _, hpage, hpages⟩ := execute_cut q (some 3) (some 1) (.bool false)
    (Observer.silent : Observer Unit) .null none () () () () hex
  obtain ⟨page, hx, _, hcolumns⟩ := hpage all hfull
  obtain ⟨whole, pages, hwhole, hparts, hconcat⟩ :=
    hpages all hfull [1, 1, 4] (by decide) hrows.symm
  rw [hrows] at hcolumns
  exact ⟨_, all, page, whole, pages, fun _ _ => rfl, hfull, hrows, hx, hcolumns, hwhole () (),
    hparts.imp fun c page h => h () (), hconcat⟩

end Execute

end HybridQuery

end RankFusion
