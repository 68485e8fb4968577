import RankFusion.Proofs.Rerank.Candidate
import RankFusion.Proofs.Settings.Reading
import RankFusion.Settings.Build

/-!
This module contains the strategies that settings describe. A section that is accepted makes the
strategy of its method with exactly its parameters, unless rank weights that are used do not sum to
one, which the section itself does not check.
-/

namespace RankFusion

namespace RerankerSettings

structure InBounds (s : RerankerSettings) : Prop where
  rrfConstant : Binary.zero.lt s.rrfConstant = true
  linearWeight : s.linearWeight.InUnit
  linearFill : Binary.zero.le s.linearFill = true
  mrrWeightVector : s.mrrWeightVector.InUnit
  mrrWeightFts : s.mrrWeightFts.InUnit

def WeightsAgree (s : RerankerSettings) : Prop :=
  s.method = .mrr →
    Reranker.sumsToOne (Format.double.add s.mrrWeightVector s.mrrWeightFts) = true

def sumFailure (s : RerankerSettings) : Failure :=
  .parameter (.weightSum (.real (Format.double.add s.mrrWeightVector s.mrrWeightFts)))

def Accepted (s : RerankerSettings) : Prop := ∃ es, Form.read fields {} es = .valid s

def candidate (s : RerankerSettings) : Reranker.Candidate :=
  match s.method with
  | .rrf => .rrf s.rrfConstant
  | .linear => .linear s.linearWeight s.linearFill
  | .mrr => .mrr s.mrrWeightVector s.mrrWeightFts

variable {s : RerankerSettings}

theorem toReranker_eq (s : RerankerSettings) : s.toReranker = s.candidate.create := by
  unfold toReranker candidate
  cases s.method <;> rfl

theorem inRange_candidate (h : s.InBounds) : s.candidate.strategy.InRange := by
  unfold candidate
  cases s.method with
  | rrf => exact h.rrfConstant
  | linear => exact ⟨h.linearWeight, h.linearFill⟩
  | mrr => exact ⟨h.mrrWeightVector, h.mrrWeightFts⟩

theorem weightsAgree_candidate_iff : s.candidate.WeightsAgree ↔ s.WeightsAgree := by
  unfold candidate WeightsAgree
  cases s.method with
  | rrf => exact ⟨fun _ => nofun, fun _ => trivial⟩
  | linear => exact ⟨fun _ => nofun, fun _ => trivial⟩
  | mrr => exact ⟨fun h _ => h, fun h => h rfl⟩

theorem reports_fields : ∀ f ∈ fields, f.Reports := by
  unfold fields
  simp only [List.forall_mem_cons]
  exact ⟨fun _ v => (Reader.reports_member _ v).map _,
    FormField.reports_ofReader (Reader.reports_boundedReal _),
    FormField.reports_ofReader (Reader.reports_boundedReal _),
    FormField.reports_ofReader (Reader.reports_boundedReal _),
    FormField.reports_ofReader (Reader.reports_boundedReal _),
    FormField.reports_ofReader (Reader.reports_boundedReal _),
    nofun⟩

theorem nodup_names : (fields.map (·.name)).Nodup := by decide

theorem isWellFormed_names : ∀ f ∈ fields, isWellFormed f.name = true := by
  have h : (fields.map (·.name)).all isWellFormed = true := by decide
  intro f hf
  exact List.all_eq_true.1 h f.name (List.mem_map_of_mem hf)

theorem inBounds_default : InBounds {} where
  rrfConstant := rfl
  linearWeight := ⟨rfl, rfl⟩
  linearFill := rfl
  mrrWeightVector := ⟨rfl, rfl⟩
  mrrWeightFts := ⟨rfl, rfl⟩

theorem keeps_inBounds : ∀ f ∈ fields, f.Keeps InBounds := by
  have hbounded {b : Bounds} {v : Value} {x : Binary} (h : Reader.boundedReal b v = .valid x) :
      b.broken? x = none :=
    (Reader.boundedReal_eq_valid_iff.1 h).2
  unfold fields
  simp only [List.forall_mem_cons]
  refine ⟨?method, ?rrfConstant, ?linearWeight, ?linearFill, ?mrrWeightVector, ?mrrWeightFts,
    nofun⟩
  case method =>
    intro x v y h hfill
    obtain ⟨_, _, rfl⟩ := Checked.map_eq_valid_iff.1 hfill
    exact { h with }
  case rrfConstant =>
    exact FormField.keeps_ofReader fun _ _ _ h hx =>
      { h with rrfConstant := Bounds.positive_broken?_iff.1 (hbounded hx) }
  case linearWeight =>
    exact FormField.keeps_ofReader fun _ _ _ h hx =>
      { h with linearWeight := Bounds.unit_broken?_iff.1 (hbounded hx) }
  case linearFill =>
    exact FormField.keeps_ofReader fun _ _ _ h hx =>
      { h with linearFill := Bounds.nonNegative_broken?_iff.1 (hbounded hx) }
  case mrrWeightVector =>
    exact FormField.keeps_ofReader fun _ _ _ h hx =>
      { h with mrrWeightVector := Bounds.unit_broken?_iff.1 (hbounded hx) }
  case mrrWeightFts =>
    exact FormField.keeps_ofReader fun _ _ _ h hx =>
      { h with mrrWeightFts := Bounds.unit_broken?_iff.1 (hbounded hx) }

theorem fills_entries (h : s.InBounds) : Form.Fills (fun f => some (f.value s)) fields {} s := by
  have hunit {x : Binary} (hx : x.InUnit) := Bounds.unit_broken?_iff.2 hx
  have hmethod := RerankMethod.ofName?_name s.method
  refine (Form.fills_member_iff hmethod rfl rfl).2 ?_
  refine (Form.fills_boundedReal_iff rfl rfl).2
    ⟨Bounds.positive_broken?_iff.2 h.rrfConstant, ?_⟩
  refine (Form.fills_boundedReal_iff rfl rfl).2 ⟨hunit h.linearWeight, ?_⟩
  refine (Form.fills_boundedReal_iff rfl rfl).2
    ⟨Bounds.nonNegative_broken?_iff.2 h.linearFill, ?_⟩
  refine (Form.fills_boundedReal_iff rfl rfl).2 ⟨hunit h.mrrWeightVector, ?_⟩
  refine (Form.fills_boundedReal_iff rfl rfl).2 ⟨hunit h.mrrWeightFts, ?_⟩
  exact .nil

theorem accepted_iff : s.Accepted ↔ s.InBounds := by
  constructor
  . rintro ⟨es, hread⟩
    obtain ⟨_, _, hfills⟩ := (Form.read_eq_valid_iff reports_fields).1 hread
    exact hfills.keeps keeps_inBounds inBounds_default
  . intro h
    refine ⟨Form.entries fields s, ?_⟩
    exact (Form.read_entries_iff reports_fields nodup_names isWellFormed_names).2 (fills_entries h)

theorem toReranker_of_agree (h : s.InBounds) (hagree : s.WeightsAgree)
    : s.toReranker = .ok s.candidate.strategy := by
  rw [toReranker_eq, Reranker.Candidate.create_eq_ok_iff]
  exact ⟨inRange_candidate h, weightsAgree_candidate_iff.2 hagree, rfl⟩

theorem toReranker_of_not_agree (h : s.InBounds) (hagree : ¬ s.WeightsAgree)
    : s.toReranker = .error s.sumFailure := by
  rw [toReranker_eq]
  obtain ⟨_, hweights, _⟩ | ⟨fault, hbreaks, hcreate⟩ := s.candidate.create_cases
  . exact absurd (weightsAgree_candidate_iff.1 hweights) hagree
  . obtain ⟨weightVector, weightFts, hmrr, rfl⟩ :=
      Reranker.Candidate.eq_weightSum_of_breaks (inRange_candidate h) hbreaks
    rw [hcreate]
    unfold candidate at hmrr
    split at hmrr
    . cases hmrr
    . cases hmrr
    . cases hmrr
      rfl

end RerankerSettings

theorem HybridQuery.create_strategy (r r' : Reranker) (query vector : Value) (config : QueryConfig)
    (concurrent timeout ftsColumns : Value)
    : create query vector (.strategy r) config concurrent timeout ftsColumns
        =
      (fun q => { q with reranker := .strategy r })
        <$> create query vector (.strategy r') config concurrent timeout ftsColumns := by
  unfold create
  cases ftsColumns.isNull with
  | true =>
    simp only [if_true, map_bind, map_pure]
    rfl
  | false =>
    simp only [Bool.false_eq_true, if_false, map_bind, map_pure]
    rfl

namespace Settings

variable {s : Settings} {around : Surroundings} {es : List (String × Value)}

theorem accepted_of_read (h : read around es = .ok s) : s.reranker.Accepted := by
  obtain ⟨given, d₁, d₂, d₃, d₄, _, hreranker, hquery, hmilvus, hmonitoring, _, rfl⟩ :=
    exists_of_read h
  refine takeSection_keeps (P := fun t => t.reranker.Accepted) hmonitoring ?_ fun _ _ _ ht _ => ht
  refine takeSection_keeps (P := fun t => t.reranker.Accepted) hmilvus ?_ fun _ _ _ ht _ => ht
  refine takeSection_keeps (P := fun t => t.reranker.Accepted) hquery ?_ fun _ _ _ ht _ => ht
  refine takeSection_keeps (P := fun t => t.reranker.Accepted) hreranker ⟨[], rfl⟩ ?_
  intro _ _ es' _ hread
  exact ⟨es', hread⟩

theorem toQuery_of_agree (h : s.reranker.InBounds) (hagree : s.reranker.WeightsAgree)
    (query vector : Value)
    : s.toQuery query vector
        =
      (fun q => { q with reranker := .strategy s.reranker.candidate.strategy })
        <$> ({ s with reranker := {} } : Settings).toQuery query vector := by
  have hmade : s.reranker.toReranker = pure s.reranker.candidate.strategy :=
    RerankerSettings.toReranker_of_agree h hagree
  have husual : RerankerSettings.toReranker {} = pure (.usual .rrf) := rfl
  unfold toQuery
  simp only [hmade, husual, pure_bind, map_bind]
  apply bind_congr
  intro config
  exact HybridQuery.create_strategy ..

/--
A reranker section that is accepted makes the strategy of its method with exactly its parameters,
and queries of the settings fail only as they do with the usual section, unless rank weights that
are used do not sum to one: then neither a strategy nor a query is made, and the sum is reported.
-/
theorem toQuery_of_accepted (h : s.reranker.Accepted) (query vector : Value)
    : (s.reranker.WeightsAgree →
          s.reranker.toReranker = .ok s.reranker.candidate.strategy
            ∧ s.toQuery query vector
              = (fun q => { q with reranker := .strategy s.reranker.candidate.strategy })
                <$> ({ s with reranker := {} } : Settings).toQuery query vector)
        ∧ (¬ s.reranker.WeightsAgree →
          s.reranker.toReranker = .error s.reranker.sumFailure
            ∧ s.toQuery query vector = .error s.reranker.sumFailure) := by
  have hbounds := RerankerSettings.accepted_iff.1 h
  constructor
  . intro hagree
    exact ⟨RerankerSettings.toReranker_of_agree hbounds hagree,
      toQuery_of_agree hbounds hagree query vector⟩
  . intro hagree
    have hfailed := RerankerSettings.toReranker_of_not_agree hbounds hagree
    exact ⟨hfailed, Except.bind_eq_error_iff.2 (.inl hfailed)⟩

def weighted (weightVector weightFts : Binary) : Settings where
  reranker := { method := .mrr, mrrWeightVector := weightVector, mrrWeightFts := weightFts }

def weightedEntries (weightVector weightFts : Binary) : List (String × Value) :=
  [("method", .text "mrr"), ("mrr_weight_vector", .real weightVector),
    ("mrr_weight_fts", .real weightFts)]

/-- A quarter and three quarters are the weights of the strategy that is made. -/
theorem toQuery_of_accepted_sample
    : let s := weighted (Decimal.read false 25 (-2)) (Decimal.read false 75 (-2))
      s.reranker.Accepted
        ∧ s.reranker.toReranker
          = .ok (.mrr (.real (Decimal.read false 25 (-2)))
              (.real (Decimal.read false 75 (-2)))) := by
  intro s
  have hread : read {} [("reranker",
      .dict (weightedEntries (Decimal.read false 25 (-2)) (Decimal.read false 75 (-2))))] =
        .ok s := rfl
  have haccepted := accepted_of_read hread
  have hmade := toQuery_of_accepted haccepted (.text "q") (.list [.real .one])
  exact ⟨haccepted, (hmade.1 fun _ => rfl).1⟩

/--
Settings are accepted whose rank weights are used and sum to less than one. Neither their strategy
nor a query can be made.
-/
theorem not_made_of_read
    : let weight := Decimal.read false 3 (-1)
      let fault := ParameterFault.weightSum (.real (Decimal.read false 6 (-1)))
      read {} [("reranker", .dict (weightedEntries weight weight))] = .ok (weighted weight weight)
        ∧ (weighted weight weight).reranker.toReranker = .error (.parameter fault)
        ∧ (weighted weight weight).toQuery (.text "q") (.list [.real .one])
          = .error (.parameter fault) :=
  ⟨rfl, rfl, rfl⟩

end Settings

end RankFusion
