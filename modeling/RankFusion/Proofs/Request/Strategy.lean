import RankFusion.Proofs.Request.Build
import RankFusion.Proofs.Rerank.Candidate

/-!
This module contains the strategies of requests. A request whose other fields are in order is
accepted exactly if the strategy that it asks for can be made from its parameters, and its query
uses that strategy.
-/

namespace RankFusion.QueryRequest

def leadingFields : List (FormField QueryRequest) := fields.take 13

def strategyFields : List (FormField QueryRequest) := (fields.drop 13).take 6

def trailingFields : List (FormField QueryRequest) := fields.drop 19

def strategyNames : List String :=
  ["rerank_method", "rrf_k", "linear_weight", "linear_fill", "mrr_weight_vector",
    "mrr_weight_fts"]

def otherEntries (es : List (String × Value)) : List (String × Value) :=
  es.filter fun e => e.1 ∉ strategyNames

def withUsualStrategy (r : QueryRequest) : QueryRequest :=
  { r with
    rerankMethod := .rrf
    rrfConstant := Reranker.defaultConstant
    linearWeight := Reranker.defaultWeight
    linearFill := .one
    mrrWeightVector := Reranker.defaultRankWeight
    mrrWeightFts := Reranker.defaultRankWeight }

def withStrategy (r : QueryRequest) : Reranker.Candidate → QueryRequest
  | .rrf k => { r.withUsualStrategy with rrfConstant := k }
  | .linear weight fill =>
    { r.withUsualStrategy with
      rerankMethod := .linear, linearWeight := weight, linearFill := fill }
  | .mrr weightVector weightFts =>
    { r.withUsualStrategy with
      rerankMethod := .mrr, mrrWeightVector := weightVector, mrrWeightFts := weightFts }

def asking (c : Reranker.Candidate) : QueryRequest := ({} : QueryRequest).withStrategy c

/--
Whether entries ask for a strategy: the fields that are about it have the values that they have in
the request for that strategy. A field that is not given is at its default.
-/
def Asks (es : List (String × Value)) (c : Reranker.Candidate) : Prop :=
  ∀ f ∈ strategyFields, (Value.lookup? f.name es).getD (f.value {}) = f.value (asking c)

variable {r base : QueryRequest} {c : Reranker.Candidate} {es : List (String × Value)}

theorem toReranker_withStrategy (base : QueryRequest) (c : Reranker.Candidate)
    : (base.withStrategy c).toReranker = c.create := by
  cases c <;> rfl

theorem toConfig_withStrategy (base : QueryRequest) (c : Reranker.Candidate)
    : (base.withStrategy c).toConfig = base.toConfig := by
  cases c <;> rfl

theorem weightsAgree_withStrategy_iff
    : (base.withStrategy c).WeightsAgree ↔ c.WeightsAgree := by
  cases c with
  | rrf k => exact ⟨fun _ => trivial, fun _ => nofun⟩
  | linear weight fill => exact ⟨fun _ => trivial, fun _ => nofun⟩
  | mrr weightVector weightFts => exact ⟨fun h => h rfl, fun h _ => h⟩

theorem inRange_iff
    : c.strategy.InRange
        ↔
      Binary.zero.lt (asking c).rrfConstant = true
        ∧ (asking c).linearWeight.InUnit
        ∧ Binary.zero.le (asking c).linearFill = true
        ∧ (asking c).mrrWeightVector.InUnit
        ∧ (asking c).mrrWeightFts.InUnit := by
  cases c with
  | rrf k =>
    constructor
    . intro hk
      exact ⟨hk, ⟨rfl, rfl⟩, rfl, ⟨rfl, rfl⟩, ⟨rfl, rfl⟩⟩
    . rintro ⟨hk, _⟩
      exact hk
  | linear weight fill =>
    constructor
    . rintro ⟨hweight, hfill⟩
      exact ⟨rfl, hweight, hfill, ⟨rfl, rfl⟩, ⟨rfl, rfl⟩⟩
    . rintro ⟨_, hweight, hfill, _⟩
      exact ⟨hweight, hfill⟩
  | mrr weightVector weightFts =>
    constructor
    . rintro ⟨hvector, hfts⟩
      exact ⟨rfl, ⟨rfl, rfl⟩, rfl, hvector, hfts⟩
    . rintro ⟨_, _, _, hvector, hfts⟩
      exact ⟨hvector, hfts⟩

section Fills

variable {x y : QueryRequest}

theorem fills_strategyFields_iff (h : Asks es c)
    : Form.Fills (fun f => Value.lookup? f.name es) strategyFields x.withUsualStrategy y
        ↔
      c.strategy.InRange ∧ x.withStrategy c = y := by
  unfold Asks strategyFields fields at h
  simp only [List.drop_succ_cons, List.drop_zero, List.take_succ_cons, List.take_zero,
    List.forall_mem_cons] at h
  obtain ⟨hmethod, hconstant, hweight, hfill, hvector, hfts, _⟩ := h
  simp only [inRange_iff, and_assoc]
  refine (Form.fills_asked_member_iff RerankMethod.ofName?_name hmethod rfl rfl rfl).trans ?_
  refine (Form.fills_asked_real_iff hconstant rfl rfl rfl rfl).trans ?_
  refine and_congr Bounds.positive_broken?_iff ?_
  refine (Form.fills_asked_real_iff hweight rfl rfl rfl rfl).trans ?_
  refine and_congr Bounds.unit_broken?_iff ?_
  refine (Form.fills_asked_real_iff hfill rfl rfl rfl rfl).trans ?_
  refine and_congr Bounds.nonNegative_broken?_iff ?_
  refine (Form.fills_asked_real_iff hvector rfl rfl rfl rfl).trans ?_
  refine and_congr Bounds.unit_broken?_iff ?_
  refine (Form.fills_asked_real_iff hfts rfl rfl rfl rfl).trans ?_
  refine and_congr Bounds.unit_broken?_iff ?_
  refine Form.fills_nil_iff.trans ?_
  cases c <;> rfl

theorem fields_eq : fields = leadingFields ++ (strategyFields ++ trailingFields) := rfl

theorem not_mem_strategyNames {f : FormField QueryRequest}
    (hf : f ∈ leadingFields ++ trailingFields)
    : f.name ∉ strategyNames := by
  have hnames : ∀ n ∈ (leadingFields ++ trailingFields).map (·.name), n ∉ strategyNames := by
    decide
  exact hnames f.name (List.mem_map_of_mem hf)

theorem mem_strategyNames {f : FormField QueryRequest} (hf : f ∈ strategyFields)
    : f.name ∈ strategyNames := by
  have hnames : strategyFields.map (·.name) = strategyNames := rfl
  exact hnames ▸ List.mem_map_of_mem hf

theorem exists_of_mem_strategyNames {name : String} (h : name ∈ strategyNames)
    : ∃ f ∈ fields, f.name = name := by
  have hnames : ∀ n ∈ strategyNames, n ∈ fields.map (·.name) := by decide
  exact List.mem_map.1 (hnames name h)

theorem lookup?_otherEntries {name : String} (h : name ∉ strategyNames)
    : Value.lookup? name (otherEntries es) = Value.lookup? name es :=
  Value.lookup?_filter (p := fun n => n ∉ strategyNames) (by simpa using h)

theorem lookup?_otherEntries_eq_none {name : String} (h : name ∈ strategyNames)
    : Value.lookup? name (otherEntries es) = none :=
  Value.lookup?_filter_eq_none (p := fun n => n ∉ strategyNames) (by simpa using h)

theorem commutes_fillAdditionalVectors (x : QueryRequest) (v : Value)
    : fillAdditionalVectors x.withUsualStrategy v
        = (fillAdditionalVectors x v).map withUsualStrategy := by
  unfold fillAdditionalVectors
  cases Reader.list (Reader.list Reader.real) v with
  | invalid is => rfl
  | valid vs =>
    dsimp only [Checked.bind, withUsualStrategy]
    cases misfit? x.vector vs <;> rfl

theorem commutes_withUsualStrategy : ∀ f ∈ leadingFields, f.Commutes withUsualStrategy := by
  unfold leadingFields fields
  simp only [List.take_succ_cons, List.take_zero, List.forall_mem_cons, List.not_mem_nil,
    false_imp_iff, implies_true, and_true]
  refine ⟨?_, ?_, commutes_fillAdditionalVectors, ?_⟩
  and_intros
  all_goals exact FormField.commutes_of_fill rfl fun _ _ => rfl

theorem commutes_withStrategy (c : Reranker.Candidate)
    : ∀ f ∈ trailingFields, f.Commutes (·.withStrategy c) := by
  unfold trailingFields fields
  simp only [List.drop_succ_cons, List.drop_zero, List.forall_mem_cons, List.not_mem_nil,
    false_imp_iff, implies_true, and_true]
  and_intros
  all_goals exact FormField.commutes_of_fill rfl fun _ _ => by cases c <;> rfl

theorem fills_otherEntries_iff
    : Form.Fills (fun f => Value.lookup? f.name (otherEntries es)) fields x y
        ↔
      ∃ u, Form.Fills (fun f => Value.lookup? f.name es) leadingFields x u
        ∧ Form.Fills (fun f => Value.lookup? f.name es) trailingFields u y := by
  have hleading : ∀ f ∈ leadingFields,
      Value.lookup? f.name (otherEntries es) = Value.lookup? f.name es := fun f hf =>
    lookup?_otherEntries (not_mem_strategyNames (List.mem_append_left _ hf))
  have htrailing : ∀ f ∈ trailingFields,
      Value.lookup? f.name (otherEntries es) = Value.lookup? f.name es := fun f hf =>
    lookup?_otherEntries (not_mem_strategyNames (List.mem_append_right _ hf))
  have hrequired : ∀ f ∈ strategyFields, f.required = false := by
    have hall : strategyFields.all (fun f => !f.required) = true := rfl
    intro f hf
    simpa using List.all_eq_true.1 hall f hf
  have hstrategy : ∀ f ∈ strategyFields,
      Value.lookup? f.name (otherEntries es) = none ∧ f.required = false := fun f hf =>
    ⟨lookup?_otherEntries_eq_none (mem_strategyNames hf), hrequired f hf⟩
  rw [fields_eq, Form.fills_append_iff]
  simp only [Form.fills_append_iff, Form.fills_none_iff hstrategy, Form.fills_congr hleading,
    Form.fills_congr htrailing, exists_eq_left']

theorem fills_iff_of_asks (h : Asks es c)
    : Form.Fills (fun f => Value.lookup? f.name es) fields {} y
        ↔
      c.strategy.InRange
        ∧ ∃ z, Form.Fills (fun f => Value.lookup? f.name (otherEntries es)) fields {} z
          ∧ z.withStrategy c = y := by
  have husual : ∀ f ∈ leadingFields, f.Keeps fun u => u.withUsualStrategy = u := fun f hf =>
    (commutes_withUsualStrategy f hf).keeps
  have hstrategy {u w : QueryRequest}
      (hleading : Form.Fills (fun f => Value.lookup? f.name es) leadingFields {} u)
      : Form.Fills (fun f => Value.lookup? f.name es) strategyFields u w
        ↔ c.strategy.InRange ∧ u.withStrategy c = w := by
    have hfilled := @fills_strategyFields_iff c es u w h
    rw [hleading.keeps husual rfl] at hfilled
    exact hfilled
  simp only [fills_otherEntries_iff]
  rw [fields_eq, Form.fills_append_iff]
  simp only [Form.fills_append_iff]
  constructor
  . rintro ⟨u, hleading, w, hasked, htrailing⟩
    obtain ⟨hrange, rfl⟩ := (hstrategy hleading).1 hasked
    obtain ⟨z, hz, rfl⟩ := (Form.fills_map_iff (commutes_withStrategy c)).1 htrailing
    exact ⟨hrange, z, ⟨u, hleading, hz⟩, rfl⟩
  . rintro ⟨hrange, z, ⟨u, hleading, hz⟩, rfl⟩
    have htrailing := (Form.fills_map_iff (commutes_withStrategy c)).2 ⟨z, hz, rfl⟩
    exact ⟨u, hleading, _, (hstrategy hleading).2 ⟨hrange, rfl⟩, htrailing⟩

end Fills

theorem known_otherEntries_iff
    : (∀ e ∈ otherEntries es, isWellFormed e.1 = true ∧ ∃ f ∈ fields, f.name = e.1)
        ↔
      ∀ e ∈ es, isWellFormed e.1 = true ∧ ∃ f ∈ fields, f.name = e.1 := by
  constructor
  . intro h e he
    by_cases hname : e.1 ∈ strategyNames
    . obtain ⟨f, hf, hfe⟩ := exists_of_mem_strategyNames hname
      exact ⟨hfe ▸ isWellFormed_names f hf, f, hf, hfe⟩
    . exact h e (List.mem_filter.2 ⟨he, decide_eq_true hname⟩)
  . intro h e he
    exact h e (List.mem_of_mem_filter he)

theorem formRead_iff
    : Form.read fields {} es = .valid r
        ↔
      (∀ e ∈ es, isWellFormed e.1 = true ∧ ∃ f ∈ fields, f.name = e.1)
        ∧ Form.Fills (fun f => Value.lookup? f.name es) fields {} r := by
  rw [Form.read_eq_valid_iff reports_fields, Form.unknownEntries_eq_nil_iff, ← and_assoc,
    ← forall₂_and]

theorem read_iff_of_asks (hasks : Asks es c) (hothers : read (otherEntries es) = .valid base)
    : read es = .valid r
        ↔
      c.strategy.InRange ∧ c.WeightsAgree ∧ base.withStrategy c = r := by
  obtain ⟨hbase, _⟩ := read_eq_valid_iff.1 hothers
  obtain ⟨hknown, hfills⟩ := formRead_iff.1 hbase
  rw [read_eq_valid_iff, formRead_iff, fills_iff_of_asks hasks]
  constructor
  . rintro ⟨⟨_, hrange, z, hz, rfl⟩, hweights⟩
    obtain rfl := hz.unique hfills
    exact ⟨hrange, weightsAgree_withStrategy_iff.1 hweights, rfl⟩
  . rintro ⟨hrange, hweights, rfl⟩
    exact ⟨⟨known_otherEntries_iff.1 hknown, hrange, base, hfills, rfl⟩,
      weightsAgree_withStrategy_iff.2 hweights⟩

/--
A request whose other fields are in order is accepted exactly if the strategy that it asks for can
be made by its name. If it is, its query uses that strategy, and is refused only if its
configuration is; if it is not, making the strategy fails with the report of an invalid parameter.
-/
theorem read_iff_create (hasks : Asks es c) (hothers : read (otherEntries es) = .valid base)
    (concurrent : Value)
    : ((∃ r, read es = .valid r) ↔ ∃ s, c.create = .ok s)
        ∧ (∀ r, read es = .valid r → ∃ s, c.create = .ok s
          ∧ (r.build concurrent).map (·.reranker) = base.toConfig.map fun _ => .strategy s)
        ∧ ((∀ r, read es ≠ .valid r) → ∃ f, c.create = .error f ∧ f.kind = .invalidParameter) := by
  have hread (r : QueryRequest) := @read_iff_of_asks r _ _ _ hasks hothers
  refine ⟨?accepted, ?used, ?refused⟩
  case accepted =>
    constructor
    . rintro ⟨r, hr⟩
      obtain ⟨hrange, hweights, _⟩ := (hread r).1 hr
      exact ⟨c.strategy, Reranker.Candidate.create_eq_ok_iff.2 ⟨hrange, hweights, rfl⟩⟩
    . rintro ⟨s, hs⟩
      obtain ⟨hrange, hweights, _⟩ := Reranker.Candidate.create_eq_ok_iff.1 hs
      exact ⟨base.withStrategy c, (hread _).2 ⟨hrange, hweights, rfl⟩⟩
  case used =>
    intro r hr
    obtain ⟨hbounds, _, hagree⟩ := rules_of_read hr
    have hmade : c.create = .ok r.strategy := by
      obtain ⟨_, _, rfl⟩ := (hread r).1 hr
      rw [← toReranker_withStrategy base]
      exact toReranker_eq hbounds hagree
    refine ⟨r.strategy, hmade, ?_⟩
    rw [build_eq hbounds hagree]
    obtain ⟨_, _, rfl⟩ := (hread r).1 hr
    rw [toConfig_withStrategy]
    cases base.toConfig <;> rfl
  case refused =>
    intro hrefused
    obtain ⟨hrange, hweights, _⟩ | ⟨fault, _, hcreate⟩ := Reranker.Candidate.create_cases c
    . exact absurd ((hread _).2 ⟨hrange, hweights, rfl⟩) (hrefused _)
    . exact ⟨.parameter fault, hcreate, rfl⟩

def strategyEntries : Reranker.Candidate → List (String × Value)
  | .rrf k => [("rerank_method", .text "rrf"), ("rrf_k", .real k)]
  | .linear weight fill =>
    [("rerank_method", .text "linear"), ("linear_weight", .real weight),
      ("linear_fill", .real fill)]
  | .mrr weightVector weightFts =>
    [("rerank_method", .text "mrr"), ("mrr_weight_vector", .real weightVector),
      ("mrr_weight_fts", .real weightFts)]

def sampleEntries (c : Reranker.Candidate) : List (String × Value) :=
  ("query", .text "q") :: ("vector", .list [.real .one]) :: strategyEntries c

theorem asks_sampleEntries (c : Reranker.Candidate) : Asks (sampleEntries c) c := by
  unfold Asks strategyFields fields
  simp only [List.drop_succ_cons, List.drop_zero, List.take_succ_cons, List.take_zero,
    List.forall_mem_cons, List.not_mem_nil, false_imp_iff, implies_true, and_true]
  and_intros
  all_goals cases c <;> rfl

theorem read_sampleEntries (c : Reranker.Candidate)
    : read (otherEntries (sampleEntries c)) = .valid { query := "q", vector := [.one] } := by
  cases c <;> rfl

/--
Half of the tolerance above one is accepted as the sum of the weights. The negative zero is refused
as a fusion constant.
-/
theorem read_iff_create_sample
    : (∃ r, read (sampleEntries (.mrr Reranker.defaultRankWeight
          (Decimal.read false 5000005 (-7)))) = .valid r)
        ∧ ∃ f, (Reranker.Candidate.rrf .negZero).create = .error f
          ∧ f.kind = .invalidParameter := by
  have hread (c : Reranker.Candidate) :=
    read_iff_create (asks_sampleEntries c) (read_sampleEntries c) (.bool true)
  refine ⟨(hread _).1.2 ⟨_, Reranker.Candidate.create_eq_ok_iff.2 ⟨?_, ?_, rfl⟩⟩,
    (hread _).2.2 ?_⟩
  . exact ⟨⟨rfl, rfl⟩, rfl, rfl⟩
  . rfl
  . intro r hr
    obtain ⟨s, hs⟩ := (hread _).1.1 ⟨r, hr⟩
    exact absurd (Reranker.Candidate.create_eq_ok_iff.1 hs).1 nofun

end RankFusion.QueryRequest
