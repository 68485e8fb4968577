import Mathlib.Data.List.Perm.Subperm
import RankFusion.Proofs.Metrics.History
import RankFusion.Proofs.Query.Report
import RankFusion.Proofs.Query.Rules
import RankFusion.Proofs.Query.Window

/-!
This module contains the runs that are recorded in a history. The history holds the last of them,
its summary counts those that returned and those of each strategy, and the metrics of each tell the
sizes of the batches that it went through.
-/

namespace RankFusion

def Value.whole : Option Int → Value
  | none => .null
  | some n => .int n

namespace Batch

variable {b vector fts merged : Batch} {name : String}

theorem rows_dropColumn {c : Column} (hc : c ∈ b.columns) (hname : c.field.name ≠ name)
    : (b.dropColumn name).rows = b.rows := by
  have hkept : c ∈ (b.dropColumn name).columns :=
    List.mem_filter.2 ⟨hc, bne_iff_ne.2 hname⟩
  rw [← length_values_of_mem hkept, length_values_of_mem hc]

theorem rows_page {c : Column} (hc : c ∈ b.columns) (hname : c.field.name ≠ rowIdColumn)
    (start stop : Nat) (identified : Bool)
    : (b.page start stop identified).rows = min (stop - start) (b.rows - start) := by
  unfold page
  cases identified with
  | true => exact rows_extract b start stop
  | false =>
    have hin : { c with values := (c.values.take stop).drop start }
        ∈ (b.extract start stop).columns := by
      rw [columns_extract]
      exact List.mem_map_of_mem hc
    rw [if_neg Bool.false_ne_true, rows_dropColumn hin hname, rows_extract]

theorem length_unseenPositions_le (seen : List Int) (ids : List (Option Int))
    : (unseenPositions seen ids).length ≤ ids.length := by
  have hsubset : unseenPositions seen ids ⊆ List.range ids.length := by
    intro j hj
    obtain ⟨id, hid, _⟩ := mem_unseenPositions.1 hj
    exact List.mem_range.2 (List.getElem?_eq_some_iff.1 hid).1
  have hnodup : (unseenPositions seen ids).Nodup :=
    (pairwise_unseenPositions seen ids).imp Nat.ne_of_lt
  have hlength := (hnodup.subperm hsubset).length_le
  rwa [List.length_range] at hlength

theorem rows_merge_le (h : vector.merge fts = .ok merged)
    : merged.rows ≤ vector.rows + fts.rows := by
  by_cases hvector : vector.rows = 0
  . rw [merge_of_rows_eq_zero hvector] at h
    cases h
    exact Nat.le_add_left _ _
  . by_cases hfts : fts.rows = 0
    . rw [merge_of_fts_rows_eq_zero hvector hfts] at h
      cases h
      exact Nat.le_add_right _ _
    . rw [merge_of_rows_ne_zero hvector hfts] at h
      obtain ⟨vectorIds, ftsIds, hvectorIds, hftsIds, hmerge⟩ := mergeOf_of_mergeRows h
      rw [hmerge.rows_eq hvectorIds hftsIds, ← length_of_rowIds hftsIds]
      exact Nat.add_le_add_left (length_unseenPositions_le _ _) _

end Batch

namespace Reranker

variable {r : Reranker} {vector fts fused : Batch}

theorem rows_rerank_le (h : r.rerank vector fts = .ok fused)
    : fused.rows ≤ vector.rows + fts.rows := by
  obtain ⟨_, merged, ids, sorted, _, hmerged, hids, _, _, hsorted, hperm, _⟩ := rows_of_rerank h
  rw [← Batch.length_of_rowIds hsorted, hperm.length_eq, Batch.length_of_rowIds hids]
  exact Batch.rows_merge_le hmerged

theorem exists_column_of_rerank (h : r.rerank vector fts = .ok fused)
    : ∃ c ∈ fused.columns, c.field.name ≠ rowIdColumn := by
  obtain ⟨_, _, _, _, _, _, _, _, hnames, _⟩ := rows_of_rerank h
  have hin : relevanceColumn ∈ fused.schema.names := by
    rw [hnames]
    exact List.mem_append_right _ List.mem_cons_self
  obtain ⟨f, hf, hname⟩ := List.mem_map.1 hin
  obtain ⟨c, hc, rfl⟩ := List.mem_map.1 hf
  refine ⟨c, hc, ?_⟩
  rw [hname]
  decide

end Reranker

namespace HybridQuery

variable {q : HybridQuery}

/--
Whether so many rows are shown of so many fused ones: the window keeps the first rows up to the
limit, and skips those of the offset.
-/
def Cuts (q : HybridQuery) (fused shown : Nat) : Prop :=
  ∀ limit offset : Option Int,
    q.config.limit = .whole limit → q.config.offset = .whole offset →
      (shown : Int) = max 0 (limit.elim (fused : Int) (min · fused) - offset.getD 0)

theorem exists_count_of_nonNegative {n : Option Int} (h : (Value.whole n).IsNonNegative)
    : ∃ k : Option Nat, n = k.map Int.ofNat ∧ Value.whole n = .count k := by
  cases n with
  | none => exact ⟨none, rfl, rfl⟩
  | some n =>
    obtain hnull | ⟨s, hs, hle⟩ := h
    . cases hnull
    . obtain rfl : s = .int n := by
        cases s with
        | int m =>
          cases hs
          rfl
        | _ => cases hs
      have hn : (0 : Int) ≤ n := by
        have := (Scalar.le_exact_int 0 n).symm.trans (hle (Scalar.isNaN_exact_int n))
        exact of_decide_eq_true this
      obtain ⟨k, rfl⟩ := Int.eq_ofNat_of_zero_le hn
      exact ⟨some k, rfl, rfl⟩

theorem cuts_of_present (hvalid : q.config.validate = .ok ()) {fused b : Batch}
    (hcolumn : ∃ c ∈ fused.columns, c.field.name ≠ rowIdColumn) (h : q.present fused = .ok b)
    : q.Cuts fused.rows b.rows := by
  intro limit offset hlimit hoffset
  have hvalid := QueryConfig.validate_eq_ok_iff.1 hvalid
  obtain ⟨l, rfl, hl⟩ := exists_count_of_nonNegative (hlimit ▸ hvalid.limit)
  obtain ⟨o, rfl, ho⟩ := exists_count_of_nonNegative (hoffset ▸ hvalid.offset)
  obtain ⟨c, hc, hname⟩ := hcolumn
  rw [present_count l o (hlimit.trans hl) (hoffset.trans ho)] at h
  cases h
  rw [Batch.rows_page hc hname]
  cases l <;> cases o <;> simp <;> omega

structure Begun (name : String) (m : Metrics) : Prop where
  times : ∀ v ∈ [m.vectorTime, m.ftsTime, m.rerankTime, m.totalTime], ∃ x, v = .real x
  reranker : m.reranker = .text name
  results : m.resultsCount = .int 0

/--
Whether metrics tell what a run has gone through: the name of its strategy and, if it returned a
batch, how many rows it has. They also tell the number of rows of both sides and of the fused ones,
which are no more under a strategy of the library.
-/
structure Accounts (q : HybridQuery) (name : String) (m : Metrics)
    (outcome : Except Interruption Batch) : Prop where
  times : ∀ v ∈ [m.vectorTime, m.ftsTime, m.rerankTime, m.totalTime], ∃ x, v = .real x
  reranker : m.reranker = .text name
  returned : ∀ b, outcome = .ok b → m.resultsCount = .int b.rows
  fused : ∀ b, outcome = .ok b → ∀ r, q.reranker = .strategy r → ∃ vector fts fused : Nat,
    m.vectorResults = .int vector ∧ m.ftsResults = .int fts ∧ m.fusedResults = .int fused
      ∧ fused ≤ vector + fts ∧ q.Cuts fused b.rows
  failed : ∀ i, outcome = .error i → m.resultsCount = .int 0

variable {name : String} {m : Metrics}

theorem Begun.accounts_error (h : Begun name m) (i : Interruption) : q.Accounts name m (.error i) :=
  ⟨h.times, h.reranker, nofun, nofun, fun _ _ => h.results⟩

theorem Begun.accounts_fuse (h : Begun name m) (hvalid : q.config.validate = .ok ())
    (vector fts : Batch)
    : q.Accounts name (q.fuse m vector fts).metrics (q.fuse m vector fts).outcome := by
  unfold fuse
  dsimp only
  cases hfused : q.reranker.rerank vector fts q.query with
  | error f => exact ⟨h.times, h.reranker, nofun, nofun, fun _ _ => h.results⟩
  | ok fused =>
    dsimp only
    unfold finish
    cases hshown : q.present fused with
    | error f => exact ⟨h.times, h.reranker, nofun, nofun, fun _ _ => h.results⟩
    | ok b =>
      refine ⟨h.times, h.reranker, ?_, ?_, nofun⟩
      . rintro _ ⟨⟩
        rfl
      . rintro _ ⟨⟩ r hr
        rw [hr] at hfused
        exact ⟨vector.rows, fts.rows, fused.rows, rfl, rfl, rfl, Reranker.rows_rerank_le hfused,
          cuts_of_present hvalid (Reranker.exists_column_of_rerank hfused) hshown⟩

theorem Begun.accounts_attempt (h : Begun name m) {σ : Type} (ex : Executor σ) (timeout : Value)
    (giveUp : Option Nat) (s : σ)
    : let a := q.attempt m ex timeout giveUp s
      q.Accounts name a.state.metrics a.state.outcome := by
  unfold attempt
  cases hvalid : q.config.validate with
  | error f => exact h.accounts_error (.failed f)
  | ok _ =>
    dsimp only
    unfold afterSubSearches
    split
    . exact ⟨h.times, h.reranker, nofun, nofun, fun _ _ => h.results⟩
    . exact h.accounts_fuse hvalid _ _

theorem Accounts.close {st : RunState} (h : q.Accounts name st.metrics st.outcome)
    : q.Accounts name st.close.1 st.outcome := by
  unfold RunState.close
  split
  . exact ⟨h.times, h.reranker, h.returned, h.fused, h.failed⟩
  . exact h

theorem begun_startMetrics (q : HybridQuery) (name : String)
    : Begun name (q.startMetrics name) := by
  refine ⟨?_, rfl, rfl⟩
  simp only [List.forall_mem_cons]
  exact ⟨⟨_, rfl⟩, ⟨_, rfl⟩, ⟨_, rfl⟩, ⟨_, rfl⟩, nofun⟩

end HybridQuery

structure Recorded where
  query : HybridQuery
  /-- The name of the strategy. -/
  strategy : String
  execution : Execution

namespace Recorded

def returned (p : Recorded) : Bool := p.execution.outcome.isOk

/--
Whether the metrics of a run tell what it has gone through and how it ended.
-/
structure Told (p : Recorded) : Prop where
  accounts : p.query.Accounts p.strategy p.execution.metrics p.execution.outcome
  status : p.execution.metrics.status = if p.returned then .success else .failure

theorem told_of_execute {q : HybridQuery} {name : String} (hname : q.reranker.name = .ok name)
    {σ : Type} (ex : Executor σ) (timeout : Value) (giveUp : Option Nat) (s : σ)
    (h : MetricsHistory)
    {x : Execution × σ × MetricsHistory} (hx : q.execute ex .recording timeout giveUp s h = x)
    (hended : x.1.outcome ≠ .error .cancelled)
    : x.2.2 = h.record x.1.metrics ∧ Told ⟨q, name, x.1⟩ := by
  obtain ⟨houtcome, hmetrics, _, _, hafter⟩ :=
    q.execute_of_name ex timeout giveUp s hname .recording h
  rw [hx] at houtcome hmetrics hafter
  refine ⟨?_, ?_, ?_⟩
  . rw [hafter, hmetrics]
    rfl
  . dsimp only
    rw [houtcome, hmetrics]
    exact ((HybridQuery.begun_startMetrics q name).accounts_attempt ex _ giveUp s).close
  . have hiff := RunState.status_close_iff
      (q.inStep_attempt (m := q.startMetrics name) ex (q.effectiveTimeout timeout) giveUp s rfl
        rfl)
    rw [← hmetrics, ← houtcome, or_iff_left hended] at hiff
    unfold returned
    dsimp only
    cases houtcome : x.1.outcome with
    | ok b => exact hiff.2 ⟨b, houtcome⟩
    | error i =>
      have hne : x.1.metrics.status ≠ .success := fun hsuccess => by
        obtain ⟨b, hb⟩ := hiff.1 hsuccess
        rw [houtcome] at hb
        cases hb
      cases hstatus : x.1.metrics.status with
      | success => exact absurd hstatus hne
      | failure => rfl

theorem Told.measured {p : Recorded} (hp : p.Told)
    (hrows : ∀ b, p.execution.outcome = .ok b → b.rows < 2 ^ 63)
    : p.execution.metrics.Measured := by
  refine ⟨hp.accounts.times, ?_, ⟨_, hp.accounts.reranker⟩⟩
  cases houtcome : p.execution.outcome with
  | ok b =>
    exact ⟨b.rows, hp.accounts.returned b houtcome, hrows b houtcome⟩
  | error i => exact ⟨0, hp.accounts.failed i houtcome, by decide⟩

end Recorded

namespace MetricsHistory

/--
The histories of a size, each with what was recorded in it since it was last cleared, oldest first.
Any query can run on any engine in between, as long as the caller does not give it up. One without a
strategy is not recorded.
-/
inductive Records (size : Int) : MetricsHistory → List Recorded → Prop where
  | create {h : MetricsHistory} (hcreate : create (.int size) = .ok h) : Records size h []
  | clear {h : MetricsHistory} {past : List Recorded} (hpast : Records size h past)
    : Records size h.clear []
  | run {h : MetricsHistory} {past : List Recorded} (hpast : Records size h past) {σ : Type}
    (q : HybridQuery) {name : String} (hname : q.reranker.name = .ok name) (ex : Executor σ)
    (timeout : Value) (giveUp : Option Nat) (s : σ) {x : Execution × σ × MetricsHistory}
    (hx : q.execute ex .recording timeout giveUp s h = x)
    (hended : x.1.outcome ≠ .error .cancelled)
    : Records size x.2.2 (past ++ [⟨q, name, x.1⟩])
  | refused {h : MetricsHistory} {past : List Recorded} (hpast : Records size h past) {σ : Type}
    (q : HybridQuery) {v : Value} (hv : q.reranker = .other v) (ex : Executor σ)
    (timeout : Value) (giveUp : Option Nat) (s : σ)
    : Records size (q.execute ex .recording timeout giveUp s h).2.2 past

variable {size : Int} {h : MetricsHistory} {past : List Recorded}

structure Holds (size : Int) (h : MetricsHistory) (past : List Recorded) : Prop where
  positive : 0 < size
  capacity : h.capacity = size.toNat
  runs : h.runs =
    (past.map (·.execution.metrics)).drop ((past.map (·.execution.metrics)).length - h.capacity)
  told : ∀ p ∈ past, p.Told

theorem Holds.record {p : Recorded} (hh : Holds size h past) (hp : p.Told)
    : Holds size (h.record p.execution.metrics) (past ++ [p]) where
  positive := hh.positive
  capacity := hh.capacity
  runs := by
    rw [List.map_append]
    exact runs_record hh.runs _
  told := by
    rw [List.forall_mem_append, List.forall_mem_singleton]
    exact ⟨hh.told, hp⟩

theorem Records.holds (hrecords : Records size h past) : Holds size h past := by
  induction hrecords with
  | create hcreate =>
    obtain ⟨hpositive, _, rfl⟩ := create_int_eq_ok_iff.1 hcreate
    exact ⟨hpositive, rfl, List.drop_nil.symm, fun _ hp => absurd hp List.not_mem_nil⟩
  | clear _ ih =>
    exact ⟨ih.positive, ih.capacity, List.drop_nil.symm, fun _ hp => absurd hp List.not_mem_nil⟩
  | run _ q hname ex timeout giveUp s hx hended ih =>
    obtain ⟨hrecorded, htold⟩ := Recorded.told_of_execute hname ex timeout giveUp s _ hx hended
    rw [hrecorded]
    exact ih.record htold
  | refused _ q hv ex timeout giveUp s ih =>
    unfold HybridQuery.execute
    rw [hv]
    exact ih

theorem successCount_of_told {ps : List Recorded} (h : ∀ p ∈ ps, p.Told)
    : successCount (ps.map (·.execution.metrics)) = ps.countP (·.returned) := by
  unfold successCount
  rw [← List.countP_eq_length_filter, List.countP_map]
  apply List.countP_congr
  intro p hp
  rw [Function.comp_apply, (h p hp).status]
  cases p.returned <;> decide

/--
A history holds the last runs that were recorded since it was last cleared, and its summary counts
each of them once. Their metrics tell the sizes of the batches that they went through.
-/
theorem records_last (hrecords : Records size h past)
    : let kept := past.drop (past.length - size.toNat)
      0 < size
        ∧ (kept.length : Int) = min size past.length
        ∧ h.runs = kept.map (·.execution.metrics)
        -- the summary; no batch has as many rows as 64 bit integers cannot count
        ∧ (h.runs ≠ [] →
            (∀ p ∈ kept, ∀ b, p.execution.outcome = .ok b → b.rows < 2 ^ 63) →
              ∃ (entries : List (String × Value)) (successful failed : Nat)
                  (counts : List (String × Nat)),
                h.summary = .ok entries
                  ∧ Value.lookup? "total_queries" entries = some (.int kept.length)
                  ∧ Value.lookup? "successful" entries = some (.int successful)
                  ∧ Value.lookup? "failed" entries = some (.int failed)
                  ∧ successful = kept.countP (·.returned)
                  ∧ successful + failed = kept.length
                  ∧ Value.lookup? "rerankers" entries =
                      some (.dict (counts.map fun c => (c.1, .int c.2)))
                  ∧ (counts.map (·.2)).sum = kept.length
                  ∧ ∀ name, ((counts.filter (·.1 == name)).map (·.2)).sum =
                      kept.countP fun p => p.strategy == name)
        -- the metrics of a run
        ∧ ∀ p ∈ kept,
            (∀ b, p.execution.outcome = .ok b →
              p.execution.metrics.status = .success
                ∧ p.execution.metrics.resultsCount = .int b.rows
                -- a strategy of the caller's own may return anything
                ∧ ∀ r, p.query.reranker = .strategy r → ∃ vector fts fused : Nat,
                    p.execution.metrics.vectorResults = .int vector
                      ∧ p.execution.metrics.ftsResults = .int fts
                      ∧ p.execution.metrics.fusedResults = .int fused
                      ∧ fused ≤ vector + fts
                      ∧ p.query.Cuts fused b.rows)
            ∧ ∀ i, p.execution.outcome = .error i →
                p.execution.metrics.status = .failure
                  ∧ p.execution.metrics.resultsCount = .int 0 := by
  intro kept
  have hholds := hrecords.holds
  have htold : ∀ p ∈ kept, p.Told := fun p hp => hholds.told p (List.mem_of_mem_drop hp)
  have hruns : h.runs = kept.map (·.execution.metrics) := by
    rw [hholds.runs, hholds.capacity, List.length_map, List.map_drop]
  refine ⟨hholds.positive, ?length, hruns, ?summary, ?metrics⟩
  case length =>
    have hpositive := hholds.positive
    rw [List.length_drop]
    omega
  case summary =>
    intro hne hrows
    have hmeasured : ∀ m ∈ h.runs, m.Measured := by
      rw [hruns, List.forall_mem_map]
      exact fun p hp => (htold p hp).measured (hrows p hp)
    have hnames : h.runs.map (·.reranker) = (kept.map (·.strategy)).map .text := by
      rw [hruns, List.map_map, List.map_map]
      exact List.map_congr_left fun p hp => (htold p hp).accounts.reranker
    obtain ⟨entries, counts, hsummary, htotal, hsuccessful, hfailed, hrerankers, hsum, hcount⟩ :=
      exists_summary hne hmeasured hnames
    rw [hruns, List.length_map] at htotal hsum hfailed
    rw [hruns] at hsuccessful
    rw [successCount_of_told htold] at hsuccessful hfailed
    have hle : kept.countP (·.returned) ≤ kept.length := List.countP_le_length
    refine ⟨entries, _, kept.length - kept.countP (·.returned), counts, hsummary, htotal,
      hsuccessful, ?_, rfl, Nat.add_sub_cancel' hle, hrerankers, hsum, ?_⟩
    . rw [hfailed, Int.ofNat_sub hle]
    . intro name
      rw [hcount, List.count, List.countP_map]
      rfl
  case metrics =>
    intro p hp
    have hp := htold p hp
    constructor
    . intro b hb
      refine ⟨?_, hp.accounts.returned b hb, hp.accounts.fused b hb⟩
      rw [hp.status, Recorded.returned, hb]
      rfl
    . intro i hi
      refine ⟨?_, hp.accounts.failed i hi⟩
      rw [hp.status, Recorded.returned, hi]
      rfl

def cutSample : HybridQuery where
  query := "q"
  vector := [.one]
  reranker := .strategy (.mrr (.int 1) (.real .zero))
  config := { limit := .int 3, offset := .int 1 }

def sampleAnswer : Side → Except Failure Batch
  | .vector => .ok Batch.vectorSample
  | .fts => .ok Batch.ftsSample

/-- Of three runs, of which the first two fail and the last one returns, the last two are held. -/
theorem records_last_sample
    : let found := Executor.fixed sampleAnswer fun _ => 0
      let lost := Executor.fixed HybridQuery.failingAnswer fun _ => 0
      let first := cutSample.execute lost .recording .null none () ⟨.int 2, []⟩
      let second := cutSample.execute lost .recording .null none () first.2.2
      let third := cutSample.execute found .recording .null none () second.2.2
      let past := [first, second, third].map fun x =>
        (⟨cutSample, "mrr", x.1⟩ : Recorded)
      Records 2 third.2.2 past
        ∧ third.2.2.runs = [second.1.metrics, third.1.metrics]
        ∧ (∀ p ∈ past.drop 1, ∀ b, p.execution.outcome = .ok b → b.rows < 2 ^ 63)
        ∧ second.1.metrics.resultsCount = .int 0
        ∧ ∃ (entries : List (String × Value)) (fused shown : Nat),
            third.2.2.summary = .ok entries
              ∧ Value.lookup? "total_queries" entries = some (.int 2)
              ∧ third.1.metrics.fusedResults = .int fused
              ∧ third.1.metrics.resultsCount = .int shown
              ∧ (shown : Int) = max 0 (min 3 (fused : Int) - 1) := by
  intro found lost first second third past
  have hcreate : create (.int 2) = .ok ⟨.int 2, []⟩ :=
    create_int_eq_ok_iff.2 ⟨by decide, by decide, rfl⟩
  have hlost : ∀ h, (cutSample.execute lost .recording .null none () h).1.outcome =
      .error (.failed (.data .rowPosition)) := fun _ => rfl
  obtain ⟨all, hall⟩ : ∃ all,
      (Reranker.mrr (.int 1) (.real .zero)).rerank Batch.vectorSample Batch.ftsSample = .ok all :=
    Reranker.exists_rerank rfl rfl rfl (fun _ _ => ⟨_, rfl⟩) (by decide) (by decide)
  have hthird : third.1.outcome = .ok (all.page 1 (min 3 all.rows) true) := by
    have hfused := HybridQuery.outcome_of_fused (q := cutSample) found .recording .null none
      (by rfl) rfl (s := ()) (v := Batch.vectorSample) (f := Batch.ftsSample) (by rfl) hall
      second.2.2
    rw [HybridQuery.present_count (some 3) (some 1) rfl rfl] at hfused
    exact hfused
  have hrecords : Records 2 third.2.2 past := by
    refine .run (.run (.run (.create hcreate) cutSample rfl lost .null none () rfl ?_)
      cutSample rfl lost .null none () rfl ?_) cutSample rfl found .null none () rfl ?_
    . rw [hlost]
      nofun
    . rw [hlost]
      nofun
    . rw [hthird]
      nofun
  obtain ⟨c, hc, hname⟩ := Reranker.exists_column_of_rerank hall
  have hrows : ∀ p ∈ past.drop 1, ∀ b, p.execution.outcome = .ok b → b.rows < 2 ^ 63 := by
    intro p hp b hb
    change p ∈ [_, _] at hp
    rw [List.mem_cons, List.mem_singleton] at hp
    obtain rfl | rfl := hp
    . rw [hlost] at hb
      cases hb
    . rw [hthird] at hb
      cases hb
      rw [Batch.rows_page hc hname]
      omega
  obtain ⟨_, _, hruns, hsummary, hmetrics⟩ := records_last hrecords
  obtain ⟨entries, _, _, _, hentries, htotal, _⟩ := hsummary (by rw [hruns]; nofun) hrows
  obtain ⟨_, hshown, hlast⟩ :=
    (hmetrics _ (List.mem_cons_of_mem _ List.mem_cons_self)).1 _ hthird
  obtain ⟨_, _, fused, _, _, hfused, _, hcuts⟩ := hlast _ rfl
  have hfailed := ((hmetrics _ List.mem_cons_self).2 _ (hlost first.2.2)).2
  exact ⟨hrecords, hruns, hrows, hfailed, entries, fused, _, hentries, htotal, hfused, hshown,
    hcuts (some 3) (some 1) rfl rfl⟩

end MetricsHistory

end RankFusion
