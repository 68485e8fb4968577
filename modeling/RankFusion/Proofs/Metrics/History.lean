import Mathlib.Algebra.Order.BigOperators.Group.List
import Mathlib.Data.List.Induction
import RankFusion.Metrics.History
import RankFusion.Proofs.Except
import RankFusion.Proofs.Number.Interval
import RankFusion.Proofs.Number.Scalar

/-!
This module contains the history of the last runs' metrics. It is always the end of what has been
recorded, and its summary counts each of the runs in it once.
-/

namespace RankFusion

/--
Whether metrics are those of a run: all times are measured, the rows are those of a batch, and the
strategy has a name.
-/
structure Metrics.Measured (m : Metrics) : Prop where
  times : ∀ v ∈ [m.vectorTime, m.ftsTime, m.rerankTime, m.totalTime], ∃ x, v = .real x
  results : ∃ n : Nat, m.resultsCount = .int n ∧ n < 2 ^ 63
  reranker : ∃ name, m.reranker = .text name

namespace MetricsHistory

variable {h : MetricsHistory} {runs : List Metrics}

theorem requireSize_int_eq_ok_iff {n : Int} {s : Scalar}
    : requireSize (.int n) = .ok s ↔ Value.isWord n = true ∧ .int n = s := by
  unfold requireSize
  dsimp only
  split
  next hword => rw [Except.ok.injEq, and_iff_right hword]
  next hword => exact iff_of_false nofun fun h => hword h.1

theorem create_int_eq_ok_iff {n : Int}
    : create (.int n) = .ok h ↔ 0 < n ∧ Value.isWord n = true ∧ { maxSize := .int n } = h := by
  have hcompare : (Value.int n).compare .le (.int 0) = .ok (decide (n ≤ 0)) := by
    rw [← Scalar.le_exact_int]
    exact Scalar.compare_toValue .le (.int n) (.int 0)
  unfold create
  rw [hcompare]
  by_cases hn : 0 < n
  . rw [decide_eq_false (Int.not_le.2 hn)]
    change (requireSize (.int n) >>= fun s => pure { maxSize := s }) = .ok h ↔ _
    simp only [Except.bind_eq_ok_iff, requireSize_int_eq_ok_iff, Except.pure_eq_ok_iff, hn,
      true_and, and_assoc, exists_and_left, exists_eq_left']
  . rw [decide_eq_true (Int.not_lt.1 hn)]
    exact iff_of_false Except.throw_ne_ok fun h => hn h.1

theorem runs_record {past : List Metrics} (hruns : h.runs = past.drop (past.length - h.capacity))
    (m : Metrics)
    : (h.record m).runs = (past ++ [m]).drop ((past ++ [m]).length - h.capacity) := by
  unfold record
  dsimp only
  rw [hruns, ← List.drop_append_of_le_length (Nat.sub_le _ _), List.drop_drop]
  congr 1
  simp only [List.length_append, List.length_drop, List.length_singleton]
  omega

section Mean

theorem roundsTo_zero : Format.double.RoundsTo 0 0 := by decide

theorem roundsTo_size : Format.double.RoundsTo (2 ^ 63) (2 ^ 63) := by decide

theorem isFinite_signedZero (negative : Bool) : (Binary.signedZero negative).isFinite = true := by
  cases negative <;> rfl

theorem isFinite_div {k n : Nat} (hn : 0 < n) (hk : k ≤ n * 2 ^ 63)
    : (Format.double.div (Scalar.int k).exact (.finite (.ofInt n))).isFinite = true := by
  have hpos : (0 : ℚ) < n := Nat.cast_pos.2 hn
  have hne : Dyadic.ofInt n ≠ 0 := Format.ofIntWithPrec_ne_zero (by omega)
  unfold Scalar.exact
  dsimp only
  split
  . unfold Format.div
    simp only [Binary.zero, Binary.dyadic?, hne, if_false, if_true]
    exact isFinite_signedZero _
  next hk0 =>
    have hkne : Dyadic.ofInt k ≠ 0 := Format.ofIntWithPrec_ne_zero (by omega)
    unfold Format.div
    simp only [Binary.dyadic?, hne, hkne, if_false]
    rw [show (Dyadic.ofInt k).toRat = (k : ℚ) from Dyadic.toRat_intCast k,
      show (Dyadic.ofInt n).toRat = (n : ℚ) from Dyadic.toRat_intCast n]
    refine Binary.Within.isFinite (Format.within_round roundsTo_zero roundsTo_size ?_ ?_)
    . positivity
    . rw [div_le_iff₀ hpos]
      exact_mod_cast (Nat.mul_comm n _ ▸ hk : k ≤ 2 ^ 63 * n)

theorem exists_divide {k n : Nat} (hn : 0 < n) (hk : k ≤ n * 2 ^ 63)
    : ∃ q, (Scalar.int k).divide n = .ok q := by
  have hfinite := isFinite_div hn hk
  unfold Scalar.divide
  split
  next heq =>
    rw [heq] at hfinite
    cases hfinite
  . exact ⟨_, rfl⟩

theorem exists_divide_zero (n : Nat) : ∃ q, (Scalar.int 0).divide n = .ok q := by
  by_cases hn : 0 < n
  . exact exists_divide hn (Nat.zero_le _)
  . rw [Nat.eq_zero_of_not_pos hn]
    exact ⟨_, rfl⟩

theorem sum_ints (ns : List Nat) : sum (ns.map fun n : Nat => Value.int n) = .ok (.int ns.sum) := by
  have hfold : ∀ start : Int,
      (ns.map fun n : Nat => Value.int n).foldlM addValue (.int start) =
        .ok (.int (start + ns.sum)) := by
    induction ns with
    | nil =>
      intro start
      simp
      rfl
    | cons n ns ih =>
      intro start
      rw [List.map_cons, List.foldlM_cons, List.sum_cons]
      have := ih (start + n)
      rw [Int.add_assoc, ← Int.natCast_add] at this
      exact this
  have := hfold 0
  rwa [Int.zero_add] at this

theorem exists_mean_sizes {vs : List Value} (hne : vs ≠ [])
    (h : ∀ v ∈ vs, ∃ n : Nat, v = .int n ∧ n < 2 ^ 63)
    : ∃ v, mean vs = .ok v := by
  obtain ⟨ns, rfl, hsizes⟩ : ∃ ns : List Nat,
      vs = ns.map (fun n : Nat => Value.int n) ∧ ∀ n ∈ ns, n ≤ 2 ^ 63 := by
    clear hne
    induction vs with
    | nil => exact ⟨[], rfl, nofun⟩
    | cons v vs ih =>
      rw [List.forall_mem_cons] at h
      obtain ⟨⟨n, rfl, hn⟩, h⟩ := h
      obtain ⟨ns, rfl, hns⟩ := ih h
      exact ⟨n :: ns, rfl, List.forall_mem_cons.2 ⟨Nat.le_of_lt hn, hns⟩⟩
  have hpos : 0 < ns.length := List.length_pos_iff.2 fun hnil => hne (by rw [hnil, List.map_nil])
  obtain ⟨q, hq⟩ := exists_divide hpos (List.sum_le_card_nsmul ns _ hsizes)
  unfold mean
  rw [sum_ints, List.length_map]
  exact ⟨_, Except.bind_eq_ok_iff.2 ⟨_, rfl, Except.bind_eq_ok_iff.2 ⟨q, hq, rfl⟩⟩⟩

theorem exists_mean_reals {vs : List Value} (h : ∀ v ∈ vs, ∃ x, v = .real x)
    : ∃ v, mean vs = .ok v := by
  have hdivide : ∀ s : Scalar, (s = .int 0 ∨ ∃ x, s = .real x) → ∀ n, ∃ q, s.divide n = .ok q := by
    rintro _ (rfl | ⟨x, rfl⟩) n
    . exact exists_divide_zero n
    . exact ⟨_, rfl⟩
  have hsum : ∀ start : Scalar, (start = .int 0 ∨ ∃ x, start = .real x) →
      ∃ s : Scalar, vs.foldlM addValue start = .ok s ∧ (s = .int 0 ∨ ∃ x, s = .real x) := by
    induction vs with
    | nil => exact fun start hstart => ⟨start, rfl, hstart⟩
    | cons v vs ih =>
      rw [List.forall_mem_cons] at h
      obtain ⟨⟨y, rfl⟩, h⟩ := h
      rintro _ (rfl | ⟨x, rfl⟩)
      . exact ih h _ (.inr ⟨Format.double.add .zero y, rfl⟩)
      . exact ih h _ (.inr ⟨Format.double.add x y, rfl⟩)
  obtain ⟨s, hs, hkind⟩ := hsum (.int 0) (.inl rfl)
  obtain ⟨q, hq⟩ := hdivide s hkind vs.length
  exact ⟨_, Except.bind_eq_ok_iff.2 ⟨s, hs, Except.bind_eq_ok_iff.2 ⟨q, hq, rfl⟩⟩⟩

end Mean

section Tally

def countOf (p : Value → Bool) (counts : List (Value × Nat)) : Nat :=
  ((counts.filter fun c => p c.1).map (·.2)).sum

def tally (names : List String) : List (Value × Nat) :=
  names.foldl (fun counts name => countKey (.text name) counts) []

theorem countOf_countKey {p : Value → Bool} {key : Value} {counts : List (Value × Nat)}
    (h : ∀ c ∈ counts, c.1.sameKey key = true → p c.1 = p key)
    : countOf p (countKey key counts) = countOf p counts + if p key then 1 else 0 := by
  unfold countOf
  induction counts with
  | nil =>
    rw [countKey]
    cases hp : p key <;> simp [hp]
  | cons c counts ih =>
    rw [List.forall_mem_cons] at h
    rw [countKey]
    split
    next hsame =>
      have hp := h.1 hsame
      cases hkey : p key <;> rw [hkey] at hp <;> simp [hp, Nat.add_right_comm]
    next =>
      have ih := ih h.2
      cases hp : p c.1 <;> simp [hp, ih, Nat.add_assoc]

theorem key_of_mem_countKey {key : Value} {counts : List (Value × Nat)} {c : Value × Nat}
    (h : c ∈ countKey key counts)
    : c.1 = key ∨ ∃ d ∈ counts, c.1 = d.1 := by
  induction counts with
  | nil =>
    rw [countKey, List.mem_singleton] at h
    exact .inl (by rw [h])
  | cons d counts ih =>
    rw [countKey] at h
    split at h
    . rw [List.mem_cons] at h
      obtain rfl | h := h
      . exact .inr ⟨d, List.mem_cons_self, rfl⟩
      . exact .inr ⟨c, List.mem_cons_of_mem d h, rfl⟩
    . rw [List.mem_cons] at h
      obtain rfl | h := h
      . exact .inr ⟨c, List.mem_cons_self, rfl⟩
      . obtain hkey | ⟨e, he, hkey⟩ := ih h
        . exact .inl hkey
        . exact .inr ⟨e, List.mem_cons_of_mem d he, hkey⟩

theorem tally_concat (names : List String) (name : String)
    : tally (names ++ [name]) = countKey (.text name) (tally names) := by
  unfold tally
  rw [List.foldl_append]
  rfl

theorem text_of_mem_tally {names : List String} {c : Value × Nat} (h : c ∈ tally names)
    : ∃ name, c.1 = .text name := by
  induction names using List.reverseRecOn generalizing c with
  | nil => cases h
  | append_singleton names name ih =>
    rw [tally_concat] at h
    obtain hkey | ⟨d, hd, hkey⟩ := key_of_mem_countKey h
    . exact ⟨name, hkey⟩
    . rw [hkey]
      exact ih hd

theorem sameKey_text (s t : String) : (Value.text s).sameKey (.text t) = (s == t) := by
  unfold Value.sameKey Value.equal
  exact Bool.or_false _

theorem countOf_tally (p : Value → Bool) (names : List String)
    : countOf p (tally names) = names.countP fun name => p (.text name) := by
  induction names using List.reverseRecOn with
  | nil => rfl
  | append_singleton names name ih =>
    rw [tally_concat, countOf_countKey, ih, List.countP_append, List.countP_singleton]
    intro c hc hsame
    obtain ⟨found, hfound⟩ := text_of_mem_tally hc
    rw [hfound, sameKey_text, beq_iff_eq] at hsame
    rw [hfound, hsame]

theorem rerankerCounts_eq {names : List String} (h : runs.map (·.reranker) = names.map .text)
    : rerankerCounts runs = .ok (tally names) := by
  unfold rerankerCounts tally
  generalize ([] : List (Value × Nat)) = start
  induction runs generalizing names start with
  | nil =>
    rw [List.map_nil, eq_comm, List.map_eq_nil_iff] at h
    rw [h]
    rfl
  | cons m runs ih =>
    cases names with
    | nil => cases h
    | cons name names =>
      rw [List.map_cons, List.map_cons, List.cons.injEq] at h
      rw [List.foldlM_cons, List.foldl_cons, h.1]
      exact ih h.2 _

end Tally

theorem exists_summary (hne : h.runs ≠ []) (hmeasured : ∀ m ∈ h.runs, m.Measured)
    {names : List String} (hnames : h.runs.map (·.reranker) = names.map .text)
    : ∃ (entries : List (String × Value)) (counts : List (String × Nat)),
        h.summary = .ok entries
          ∧ Value.lookup? "total_queries" entries = some (.int h.runs.length)
          ∧ Value.lookup? "successful" entries = some (.int (successCount h.runs))
          ∧ Value.lookup? "failed" entries =
              some (.int (h.runs.length - successCount h.runs : Int))
          ∧ Value.lookup? "rerankers" entries =
              some (.dict (counts.map fun c => (c.1, .int c.2)))
          ∧ (counts.map (·.2)).sum = h.runs.length
          ∧ ∀ name, ((counts.filter (·.1 == name)).map (·.2)).sum = names.count name := by
  have hmean : ∀ f : Metrics → Value,
      (∀ m ∈ h.runs, f m ∈ [m.vectorTime, m.ftsTime, m.rerankTime, m.totalTime]) →
        ∃ v, mean (h.runs.map f) = .ok v := by
    intro f hf
    apply exists_mean_reals
    rw [List.forall_mem_map]
    exact fun m hm => (hmeasured m hm).times _ (hf m hm)
  obtain ⟨vectorTime, hvector⟩ := hmean (·.vectorTime) (by simp)
  obtain ⟨ftsTime, hfts⟩ := hmean (·.ftsTime) (by simp)
  obtain ⟨rerankTime, hrerank⟩ := hmean (·.rerankTime) (by simp)
  obtain ⟨totalTime, htotal⟩ := hmean (·.totalTime) (by simp)
  obtain ⟨results, hresults⟩ : ∃ v, mean (h.runs.map (·.resultsCount)) = .ok v := by
    apply exists_mean_sizes (by simpa using hne)
    rw [List.forall_mem_map]
    exact fun m hm => (hmeasured m hm).results
  have hpos : 0 < h.runs.length := List.length_pos_iff.2 hne
  obtain ⟨rate, hrate⟩ := exists_divide hpos
    (Nat.le_trans (List.length_filter_le _ _) (Nat.le_mul_of_pos_right _ (by decide)))
  let counts := (tally names).map fun c => (keyText c.1, c.2)
  have hcounts : counts.map (fun c => (c.1, Value.int c.2)) =
      (tally names).map fun c => (keyText c.1, .int c.2) := by
    rw [List.map_map]
    rfl
  have hsummary : h.summary = .ok [
      ("total_queries", .int h.runs.length), ("successful", .int (successCount h.runs)),
      ("failed", .int (h.runs.length - successCount h.runs : Int)), ("success_rate", .real rate),
      ("avg_vector_search_time_ms", vectorTime), ("avg_fts_search_time_ms", ftsTime),
      ("avg_rerank_time_ms", rerankTime), ("avg_total_time_ms", totalTime),
      ("avg_results", results), ("rerankers", .dict (counts.map fun c => (c.1, .int c.2)))] := by
    unfold summary summarize
    rw [List.isEmpty_eq_false_iff.2 hne, if_neg Bool.false_ne_true, hcounts]
    exact Except.bind_eq_ok_iff.2 ⟨_, rerankerCounts_eq hnames, Except.bind_eq_ok_iff.2 ⟨_, hrate,
      Except.bind_eq_ok_iff.2 ⟨_, hvector, Except.bind_eq_ok_iff.2 ⟨_, hfts,
      Except.bind_eq_ok_iff.2 ⟨_, hrerank, Except.bind_eq_ok_iff.2 ⟨_, htotal,
      Except.bind_eq_ok_iff.2 ⟨_, hresults, rfl⟩⟩⟩⟩⟩⟩⟩
  refine ⟨_, counts, hsummary, rfl, rfl, rfl, rfl, ?sum, ?count⟩
  case sum =>
    have hlength : names.length = h.runs.length := by
      rw [← List.length_map (f := Value.text), ← hnames, List.length_map]
    have hall := countOf_tally (fun _ => true) names
    rw [countOf, List.filter_true, List.countP_true] at hall
    rw [List.map_map, ← hlength, ← hall]
    rfl
  case count =>
    intro name
    have hcount := countOf_tally (·.sameKey (.text name)) names
    simp only [sameKey_text] at hcount
    rw [List.count, ← hcount, countOf, List.filter_map, List.map_map]
    congr 2
    apply List.filter_congr
    intro c hc
    obtain ⟨found, hfound⟩ := text_of_mem_tally hc
    rw [Function.comp_apply, hfound, sameKey_text]
    rfl

end MetricsHistory

end RankFusion
