import RankFusion.Proofs.Query.Rules
import RankFusion.Proofs.Request.Entries
import RankFusion.Request.Build

/-!
This module contains what becomes of a request that is accepted. Its strategy can always be made,
and so can its configuration and its query, unless a pair of bounds is out of order.
-/

namespace RankFusion

theorem requirePositive_toValue {s : Scalar} (h : Binary.zero.lt s.exact = true) (name : String)
    : requirePositive name s.toValue = .ok () :=
  (requirePositive_eq_ok_iff name).2 (.inr ⟨s, rfl, fun _ => h⟩)

theorem requireNonNegative_toValue {s : Scalar} (h : Binary.zero.le s.exact = true) (name : String)
    : requireNonNegative name s.toValue = .ok () :=
  (requireNonNegative_eq_ok_iff name).2 (.inr ⟨s, rfl, fun _ => h⟩)

namespace QueryRequest

variable {r : QueryRequest}

def strategy (r : QueryRequest) : Reranker :=
  match r.rerankMethod with
  | .rrf => .rrf (.real r.rrfConstant)
  | .linear => .linear (.real r.linearWeight) (.real r.linearFill)
  | .mrr => .mrr (.real r.mrrWeightVector) (.real r.mrrWeightFts)

theorem toReranker_eq (h : r.InBounds) (hweights : r.WeightsAgree)
    : r.toReranker = .ok r.strategy := by
  unfold toReranker rerankParameters strategy
  cases hmethod : r.rerankMethod with
  | rrf =>
    apply Reranker.create_name .rrf _ rfl
    . exact @Reranker.ofConstant_toValue (.real r.rrfConstant) h.rrfConstant
    . exact List.forall_mem_singleton.2 rfl
  | linear =>
    apply Reranker.create_name .linear _ rfl
    . exact @Reranker.ofWeights_toValue (.real r.linearWeight) (.real r.linearFill) h.linearWeight
        h.linearFill
    . exact List.forall_mem_cons.2 ⟨rfl, List.forall_mem_singleton.2 rfl⟩
  | mrr =>
    apply Reranker.create_name .mrr _ rfl
    . exact @Reranker.ofRankWeights_toValue (.real r.mrrWeightVector) (.real r.mrrWeightFts) _ _
        h.mrrWeightVector h.mrrWeightFts rfl rfl (hweights hmethod)
    . exact List.forall_mem_cons.2 ⟨rfl, List.forall_mem_singleton.2 rfl⟩

/--
Whether a request has a pair of bounds that are out of order, with the fault that reports it.
-/
inductive Misordered (r : QueryRequest) : ParameterFault → Prop where
  | probes {m n : Int} (hmin : r.minimumNprobes = some m) (hmax : r.maximumNprobes = some n)
      (h : n < m) : Misordered r (.probeOrder (.int m) (.int n))
  | range {lower upper : Binary} (hrange : r.distanceRange = some [some lower, some upper])
      (h : upper.le lower = true) : Misordered r (.rangeOrder (.real lower) (.real upper))

theorem requirePositive_count {o : Option Int} (h : ∀ n ∈ o, 0 < n) (name : String)
    : requirePositive name (optionalValue .int o) = .ok () := by
  cases o with
  | none => rfl
  | some n =>
    have hpos := (Scalar.lt_exact_int 0 n).trans (decide_eq_true (h n rfl))
    exact @requirePositive_toValue (.int n) hpos name

theorem requireNonNegative_count {o : Option Int} (h : ∀ n ∈ o, 0 ≤ n) (name : String)
    : requireNonNegative name (optionalValue .int o) = .ok () := by
  cases o with
  | none => rfl
  | some n =>
    have hnonneg := (Scalar.le_exact_int 0 n).trans (decide_eq_true (h n rfl))
    exact @requireNonNegative_toValue (.int n) hnonneg name

theorem requirePositive_real {o : Option Binary} (h : ∀ x ∈ o, Binary.zero.lt x = true)
    (name : String)
    : requirePositive name (optionalValue .real o) = .ok () := by
  cases o with
  | none => rfl
  | some x => exact @requirePositive_toValue (.real x) (h x rfl) name

theorem checkMetric_tuning (r : QueryRequest) : r.tuning.checkMetric = .ok () := by
  unfold VectorTuning.checkMetric tuning
  cases r.distanceMetric with
  | none => rfl
  | some m => rfl

theorem counts_tuning (h : r.InBounds)
    : (r.tuning.counts.forM fun c => requirePositive c.1 c.2) = .ok () := by
  rw [List.forM_eq_ok_iff]
  unfold VectorTuning.counts
  simp only [List.forall_mem_cons, List.not_mem_nil, false_imp_iff, implies_true, and_true]
  exact ⟨requirePositive_count h.nprobes _, requirePositive_count h.refineFactor _,
    requirePositive_count h.ef _, requirePositive_count h.minimumNprobes _,
    requirePositive_count h.maximumNprobes _⟩

theorem checkProbes_cases (r : QueryRequest)
    : (r.tuning.checkProbes = .ok ()
          ∧ ∀ m ∈ r.minimumNprobes, ∀ n ∈ r.maximumNprobes, m ≤ n)
        ∨ ∃ fault, r.Misordered fault
          ∧ r.tuning.checkProbes = .error (Failure.parameter fault).worded := by
  cases hmin : r.minimumNprobes with
  | none =>
    left
    refine ⟨?_, nofun⟩
    unfold VectorTuning.checkProbes tuning
    rw [hmin]
    rfl
  | some m =>
    cases hmax : r.maximumNprobes with
    | none =>
      left
      refine ⟨?_, nofun⟩
      unfold VectorTuning.checkProbes tuning
      rw [hmin, hmax]
      rfl
    | some n =>
      have hcheck : r.tuning.checkProbes = if n < m
          then .error (Failure.parameter (.probeOrder (.int m) (.int n))).worded else .ok () := by
        unfold VectorTuning.checkProbes tuning
        rw [hmin, hmax]
        dsimp only [optionalValue]
        rw [Value.compare_gt_int]
        by_cases hlt : n < m
        . rw [decide_eq_true hlt, if_pos hlt]
          rfl
        . rw [decide_eq_false hlt, if_neg hlt]
          rfl
      by_cases hlt : n < m
      . exact .inr ⟨_, .probes hmin hmax hlt, hcheck.trans (if_pos hlt)⟩
      . refine .inl ⟨hcheck.trans (if_neg hlt), ?_⟩
        rintro _ ⟨⟩ _ ⟨⟩
        omega

theorem checkRange_cases (h : r.InBounds)
    : (r.tuning.checkRange = .ok ()
          ∧ ∀ lower upper, r.distanceRange = some [some lower, some upper] → upper.le lower = false)
        ∨ ∃ fault, r.Misordered fault
          ∧ r.tuning.checkRange = .error (Failure.parameter fault).worded := by
  cases hrange : r.distanceRange with
  | none =>
    left
    refine ⟨?_, nofun⟩
    unfold VectorTuning.checkRange tuning
    rw [hrange]
    rfl
  | some bounds =>
    obtain ⟨a, b, rfl⟩ := List.length_eq_two.1 (h.distanceRange bounds hrange)
    have hcheck : r.tuning.checkRange = (do
        if !(optionalValue .real a).isNull && !(optionalValue .real b).isNull then
          if ← (optionalValue .real a).compare .ge (optionalValue .real b) then
            throw (Failure.parameter
              (.rangeOrder (optionalValue .real a) (optionalValue .real b))).worded) := by
      unfold VectorTuning.checkRange tuning
      rw [hrange]
      rfl
    cases a with
    | none => exact .inl ⟨hcheck, nofun⟩
    | some lower =>
      cases b with
      | none => exact .inl ⟨hcheck, nofun⟩
      | some upper =>
        have hcompare : (Value.real lower).compare .ge (.real upper) = .ok (upper.le lower) :=
          Scalar.compare_toValue .ge (.real lower) (.real upper)
        dsimp only [optionalValue] at hcheck
        rw [hcompare] at hcheck
        cases hle : upper.le lower with
        | true =>
          rw [hle] at hcheck
          exact .inr ⟨_, .range hrange hle, hcheck⟩
        | false =>
          rw [hle] at hcheck
          refine .inl ⟨hcheck, ?_⟩
          rintro _ _ ⟨⟩
          exact hle

theorem toConfig_cases (h : r.InBounds)
    : (r.toConfig = .ok r.config ∧ ∀ fault, ¬ r.Misordered fault)
        ∨ ∃ fault, r.Misordered fault
          ∧ r.toConfig = .error (Failure.parameter fault).worded := by
  have hcounts := counts_tuning h
  have hlimit := requireNonNegative_count h.limit "limit"
  have hoffset := requireNonNegative_count h.offset "offset"
  have hsub := requirePositive_count h.subSearchLimit "sub_search_limit"
  unfold toConfig QueryConfig.validate VectorTuning.validate config
  dsimp only
  rw [checkMetric_tuning, hcounts, hlimit, hoffset, hsub]
  obtain ⟨hprobes, hordered⟩ | ⟨fault, hfault, hprobes⟩ := checkProbes_cases r
  . obtain ⟨hrange, hranged⟩ | ⟨fault, hfault, hrange⟩ := checkRange_cases h
    . left
      rw [hprobes, hrange]
      refine ⟨rfl, ?_⟩
      rintro _ (⟨hmin, hmax, hlt⟩ | ⟨hbounds, hle⟩)
      . have := hordered _ hmin _ hmax
        omega
      . rw [hranged _ _ hbounds] at hle
        cases hle
    . right
      rw [hprobes, hrange]
      exact ⟨fault, hfault, rfl⟩
  . right
    rw [hprobes]
    exact ⟨fault, hfault, rfl⟩

theorem vector_vectorValue (xs : List Binary) : (vectorValue xs).vector = .ok xs := by
  have hreal : ∀ x ∈ xs, Value.toReal (.real x) = .ok (id x) := fun x _ => rfl
  have hitems := List.mapM_map_eq_ok hreal
  rw [List.map_id] at hitems
  exact hitems

def asked (r : QueryRequest) (concurrent : Value) : HybridQuery where
  query := r.query
  vector := r.vector
  reranker := .strategy r.strategy
  config := r.config
  withRowId := .bool r.withRowId
  concurrent := concurrent
  timeout := optionalValue .real r.timeout

def started (r : QueryRequest) (c : QueryConfig) (concurrent : Value) : HybridQuery where
  query := r.query
  vector := r.vector
  reranker := .strategy r.strategy
  config := c
  concurrent := concurrent
  timeout := optionalValue .real r.timeout

theorem create_started (h : r.InBounds) (c : QueryConfig) (concurrent : Value)
    : HybridQuery.create (.text r.query) (vectorValue r.vector) (.strategy r.strategy) c
          concurrent (optionalValue .real r.timeout) .null
        =
      .ok (r.started c concurrent) := by
  have hcomponents : HybridQuery.requireComponents (vectorValue r.vector) = .ok () := by
    cases hvector : r.vector with
    | nil => exact absurd hvector h.vector
    | cons x xs => rfl
  unfold HybridQuery.create
  rw [hcomponents, requirePositive_real h.timeout, vector_vectorValue]
  rfl

theorem build_eq (h : r.InBounds) (hweights : r.WeightsAgree) (concurrent : Value)
    : r.build concurrent = r.toConfig.map fun _ => r.asked concurrent := by
  unfold build
  rw [toReranker_eq h hweights]
  obtain ⟨hconfig, _⟩ | ⟨_, _, hconfig⟩ := toConfig_cases h
  . rw [hconfig]
    change (do
      let q ← HybridQuery.create (.text r.query) (vectorValue r.vector) (.strategy r.strategy)
        r.config concurrent (optionalValue .real r.timeout) .null
      return { q with withRowId := .bool r.withRowId }) = _
    rw [create_started h]
    rfl
  . rw [hconfig]
    rfl

/--
A request that is accepted can be built, and so can its configuration, unless a pair of bounds is
out of order; then both fail with a fault that names such a pair, if a text can show it.
-/
theorem build_of_read {es : List (String × Value)} (h : read es = .valid r) (concurrent : Value)
    : ((∀ fault, ¬ r.Misordered fault) →
          r.toConfig = .ok r.config ∧ r.build concurrent = .ok (r.asked concurrent))
        ∧ ((∃ fault, r.Misordered fault) →
          ∃ fault, r.Misordered fault
            ∧ r.toConfig = .error (Failure.parameter fault).worded
            ∧ r.build concurrent = .error (Failure.parameter fault).worded) := by
  obtain ⟨hbounds, _, hweights⟩ := rules_of_read h
  rw [build_eq hbounds hweights]
  obtain ⟨hconfig, hordered⟩ | ⟨fault, hfault, hconfig⟩ := toConfig_cases hbounds
  . rw [hconfig]
    refine ⟨fun _ => ⟨rfl, rfl⟩, ?_⟩
    rintro ⟨fault, hfault⟩
    exact absurd hfault (hordered fault)
  . rw [hconfig]
    exact ⟨fun hordered => absurd hfault (hordered fault), fun _ => ⟨fault, hfault, rfl, rfl⟩⟩

def probingSample (least most : Int) : QueryRequest where
  query := "q"
  vector := [.one]
  minimumNprobes := some least
  maximumNprobes := some most

theorem read_probingSample {least most : Int} (hleast : 0 < least) (hmost : 0 < most)
    : read (probingSample least most).entries = .valid (probingSample least most) := by
  have hbounds : InBounds (probingSample least most) :=
    { @inBounds_init "q" [.one] nofun with
      minimumNprobes := by rintro _ ⟨⟩; exact hleast
      maximumNprobes := by rintro _ ⟨⟩; exact hmost }
  exact (read_entries_iff hbounds).2 ⟨nofun, nofun, rfl⟩

theorem build_of_read_sample
    : read (probingSample 1 2).entries = .valid (probingSample 1 2)
        ∧ (probingSample 1 2).build (.bool true)
          = .ok ((probingSample 1 2).asked (.bool true)) := by
  have hread := @read_probingSample 1 2 (by decide) (by decide)
  refine ⟨hread, ((build_of_read hread (.bool true)).1 ?_).2⟩
  rintro _ (⟨hmin, hmax, hlt⟩ | ⟨hrange, _⟩)
  . cases hmin
    cases hmax
    omega
  . cases hrange

/--
A request is accepted whose bounds on the number of partitions are out of order. Neither its
configuration nor its query can be built.
-/
theorem not_built_of_read
    : read (probingSample 2 1).entries = .valid (probingSample 2 1)
        ∧ (probingSample 2 1).toConfig = .error (.parameter (.probeOrder (.int 2) (.int 1)))
        ∧ (probingSample 2 1).build (.bool true)
          = .error (.parameter (.probeOrder (.int 2) (.int 1))) :=
  ⟨@read_probingSample 2 1 (by decide) (by decide), rfl, rfl⟩

end QueryRequest

end RankFusion
