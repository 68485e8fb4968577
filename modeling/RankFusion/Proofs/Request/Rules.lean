import RankFusion.Proofs.Validation.Form
import RankFusion.Request.Basic

/-!
This module contains the rules for requests. Every field keeps those for single fields, and a
request that is read obeys all rules.
-/

namespace RankFusion

theorem Reader.reports_selection : Reader.selection.Reports := by
  intro v
  unfold Reader.selection
  split
  . nofun
  . nofun
  . next hnames _ =>
    intro h
    rw [Checked.invalid.injEq, List.append_eq_nil_iff] at h
    have hreported := (Reader.reports_text.list v).under (.name "list[str]")
    cases hlist : (Reader.list Reader.text v).under (.name "list[str]") with
    | valid names => exact hnames names (Checked.under_eq_valid_iff.1 hlist)
    | invalid is =>
      rw [hlist] at h hreported
      exact hreported (congrArg Checked.invalid h.1)

namespace QueryRequest

structure InBounds (r : QueryRequest) : Prop where
  vector : r.vector ≠ []
  subSearchLimit : ∀ n ∈ r.subSearchLimit, 0 < n
  timeout : ∀ x ∈ r.timeout, Binary.zero.lt x = true
  limit : ∀ n ∈ r.limit, 0 ≤ n
  offset : ∀ n ∈ r.offset, 0 ≤ n
  rrfConstant : Binary.zero.lt r.rrfConstant = true
  linearWeight : r.linearWeight.InUnit
  linearFill : Binary.zero.le r.linearFill = true
  mrrWeightVector : r.mrrWeightVector.InUnit
  mrrWeightFts : r.mrrWeightFts.InUnit
  nprobes : ∀ n ∈ r.nprobes, 0 < n
  refineFactor : ∀ n ∈ r.refineFactor, 0 < n
  ef : ∀ n ∈ r.ef, 0 < n
  minimumNprobes : ∀ n ∈ r.minimumNprobes, 0 < n
  maximumNprobes : ∀ n ∈ r.maximumNprobes, 0 < n
  distanceRange : ∀ bounds ∈ r.distanceRange, bounds.length = 2

def DimensionsAgree (r : QueryRequest) : Prop :=
  ∀ v ∈ r.additionalVectors, v.length = r.vector.length

def WeightsAgree (r : QueryRequest) : Prop :=
  r.rerankMethod = .mrr →
    Reranker.sumsToOne (Format.double.add r.mrrWeightVector r.mrrWeightFts) = true

variable {r : QueryRequest}

theorem checkWeights_eq_valid_iff {y : QueryRequest}
    : checkWeights r = .valid y ↔ r.WeightsAgree ∧ r = y := by
  unfold checkWeights WeightsAgree
  dsimp only
  split
  . next h => simp [Checked.fail, h.1, h.2]
  . next h =>
    rw [Checked.valid.injEq]
    refine ⟨fun heq => ⟨fun hmrr => ?_, heq⟩, fun heq => heq.2⟩
    rw [not_and, Bool.not_eq_false] at h
    exact h hmrr

theorem misfit?_eq_none_iff {vector : List Binary} {vs : List (List Binary)} (h : vector ≠ [])
    : misfit? vector vs = none ↔ ∀ v ∈ vs, v.length = vector.length := by
  unfold misfit?
  rw [if_neg (by simpa using h), List.find?_eq_none]
  simp

theorem fillAdditionalVectors_eq_valid_iff {v : Value} {y : QueryRequest}
    : fillAdditionalVectors r v = .valid y
        ↔
      ∃ vs, Reader.list (Reader.list Reader.real) v = .valid vs
        ∧ misfit? r.vector vs = none
        ∧ { r with additionalVectors := vs } = y := by
  unfold fillAdditionalVectors
  rw [Checked.bind_eq_valid_iff]
  apply exists_congr
  intro vs
  apply and_congr_right
  intro _
  split
  . next h => simp [Checked.fail, h]
  . next h => simp [h]

theorem reports_fields : ∀ f ∈ fields, f.Reports := by
  have htext := Reader.reports_text
  have htruth := Reader.reports_truth
  have hreal (b : Bounds) := Reader.reports_boundedReal b
  have hcount (b : Bounds) : Reader.Reports (optionalCount b) :=
    (Reader.reports_boundedInteger b).optional
  have hadditional : ∀ x v, (fillAdditionalVectors x v).Reported := by
    intro x v
    apply (Reader.reports_real.list.list v).bind
    intro vs
    split
    . nofun
    . nofun
  unfold fields
  simp only [List.forall_mem_cons]
  exact ⟨fun _ v => (htext v).map _,
    fun _ v => (Reader.reports_real.listAtLeast 1 v).map _,
    hadditional,
    FormField.reports_ofReader htext.optional,
    FormField.reports_ofReader htruth,
    FormField.reports_ofReader htruth,
    FormField.reports_ofReader Reader.reports_selection.optional,
    FormField.reports_ofReader htruth,
    FormField.reports_ofReader htext.list.optional,
    FormField.reports_ofReader (hcount _),
    FormField.reports_ofReader (hreal _).optional,
    FormField.reports_ofReader (hcount _),
    FormField.reports_ofReader (hcount _),
    FormField.reports_ofReader (Reader.reports_member _),
    FormField.reports_ofReader (hreal _),
    FormField.reports_ofReader (hreal _),
    FormField.reports_ofReader (hreal _),
    FormField.reports_ofReader (hreal _),
    FormField.reports_ofReader (hreal _),
    FormField.reports_ofReader htext.optional,
    FormField.reports_ofReader (Reader.reports_member _).optional,
    FormField.reports_ofReader (hcount _),
    FormField.reports_ofReader (hcount _),
    FormField.reports_ofReader htruth,
    FormField.reports_ofReader (hcount _),
    FormField.reports_ofReader (hcount _),
    FormField.reports_ofReader (hcount _),
    FormField.reports_ofReader (Reader.reports_real.optional.listOfLength 2).optional,
    nofun⟩

theorem nodup_names : (fields.map (·.name)).Nodup := by decide

theorem isWellFormed_names : ∀ f ∈ fields, isWellFormed f.name = true := by
  have h : (fields.map (·.name)).all isWellFormed = true := by decide
  intro f hf
  exact List.all_eq_true.1 h f.name (List.mem_map_of_mem hf)

theorem pos_of_optionalCount {v : Value} {o : Option Int}
    (h : optionalCount .positive v = .valid o)
    : ∀ n ∈ o, 0 < n := by
  intro n hn
  have hbounded := Reader.boundedInteger_eq_valid_iff.1 (Reader.mem_of_optional h hn)
  exact Bounds.positive_broken?_int_iff.1 hbounded.2

theorem nonneg_of_optionalCount {v : Value} {o : Option Int}
    (h : optionalCount .nonNegative v = .valid o)
    : ∀ n ∈ o, 0 ≤ n := by
  intro n hn
  have hbounded := Reader.boundedInteger_eq_valid_iff.1 (Reader.mem_of_optional h hn)
  exact Bounds.nonNegative_broken?_int_iff.1 hbounded.2

theorem inUnit_of_boundedReal {v : Value} {x : Binary} (h : Reader.boundedReal .unit v = .valid x)
    : x.InUnit :=
  Bounds.unit_broken?_iff.1 (Reader.boundedReal_eq_valid_iff.1 h).2

theorem pos_of_boundedReal {v : Value} {x : Binary}
    (h : Reader.boundedReal .positive v = .valid x)
    : Binary.zero.lt x = true :=
  Bounds.positive_broken?_iff.1 (Reader.boundedReal_eq_valid_iff.1 h).2

theorem nonneg_of_boundedReal {v : Value} {x : Binary}
    (h : Reader.boundedReal .nonNegative v = .valid x)
    : Binary.zero.le x = true :=
  Bounds.nonNegative_broken?_iff.1 (Reader.boundedReal_eq_valid_iff.1 h).2

theorem exists_of_listAtLeast {v : Value} {xs : List Binary}
    (h : Reader.listAtLeast 1 Reader.real v = .valid xs)
    : ∃ vs, v = .list vs ∧ xs.length = vs.length := by
  obtain ⟨ys, hys, h⟩ := Checked.bind_eq_valid_iff.1 h
  obtain ⟨_, rfl⟩ := Checked.require_eq_valid_iff.1 h
  unfold Reader.list at hys
  split at hys
  . next vs => exact ⟨vs, rfl, Reader.length_of_items hys⟩
  . cases hys

theorem ne_nil_of_listAtLeast {v : Value} {xs : List Binary}
    (h : Reader.listAtLeast 1 Reader.real v = .valid xs)
    : xs ≠ [] :=
  List.ne_nil_of_length_pos (Reader.length_of_listAtLeast h)

theorem inBounds_init {query : String} {vector : List Binary} (h : vector ≠ [])
    : InBounds { query, vector } where
  vector := h
  subSearchLimit := nofun
  timeout := nofun
  limit := nofun
  offset := nofun
  rrfConstant := rfl
  linearWeight := ⟨rfl, rfl⟩
  linearFill := rfl
  mrrWeightVector := ⟨rfl, rfl⟩
  mrrWeightFts := ⟨rfl, rfl⟩
  nprobes := nofun
  refineFactor := nofun
  ef := nofun
  minimumNprobes := nofun
  maximumNprobes := nofun
  distanceRange := nofun

theorem keeps_inBounds : ∀ f ∈ fields, f.Keeps InBounds := by
  unfold fields
  simp only [List.forall_mem_cons]
  refine ⟨?query, ?vector, ?additionalVectors, ?filter, ?fastSearch, ?postfilter, ?select,
    ?withRowId, ?ftsColumns, ?subSearchLimit, ?timeout, ?limit, ?offset, ?rerankMethod,
    ?rrfConstant, ?linearWeight, ?linearFill, ?mrrWeightVector, ?mrrWeightFts, ?column,
    ?distanceMetric, ?nprobes, ?refineFactor, ?bypassVectorIndex, ?ef, ?minimumNprobes,
    ?maximumNprobes, ?distanceRange, nofun⟩
  case query =>
    intro x v y h hfill
    obtain ⟨_, _, rfl⟩ := Checked.map_eq_valid_iff.1 hfill
    exact { h with }
  case vector =>
    intro x v y h hfill
    obtain ⟨vector, hread, rfl⟩ := Checked.map_eq_valid_iff.1 hfill
    exact { h with vector := ne_nil_of_listAtLeast hread }
  case additionalVectors =>
    intro x v y h hfill
    obtain ⟨vs, _, _, rfl⟩ := fillAdditionalVectors_eq_valid_iff.1 hfill
    exact { h with }
  case subSearchLimit =>
    exact FormField.keeps_ofReader fun _ _ _ h hn =>
      { h with subSearchLimit := pos_of_optionalCount hn }
  case timeout =>
    exact FormField.keeps_ofReader fun _ _ _ h hx =>
      { h with timeout := fun _ hmem => pos_of_boundedReal (Reader.mem_of_optional hx hmem) }
  case limit =>
    exact FormField.keeps_ofReader fun _ _ _ h hn => { h with limit := nonneg_of_optionalCount hn }
  case offset =>
    exact FormField.keeps_ofReader fun _ _ _ h hn => { h with offset := nonneg_of_optionalCount hn }
  case rrfConstant =>
    exact FormField.keeps_ofReader fun _ _ _ h hx => { h with rrfConstant := pos_of_boundedReal hx }
  case linearWeight =>
    exact FormField.keeps_ofReader fun _ _ _ h hx =>
      { h with linearWeight := inUnit_of_boundedReal hx }
  case linearFill =>
    exact FormField.keeps_ofReader fun _ _ _ h hx =>
      { h with linearFill := nonneg_of_boundedReal hx }
  case mrrWeightVector =>
    exact FormField.keeps_ofReader fun _ _ _ h hx =>
      { h with mrrWeightVector := inUnit_of_boundedReal hx }
  case mrrWeightFts =>
    exact FormField.keeps_ofReader fun _ _ _ h hx =>
      { h with mrrWeightFts := inUnit_of_boundedReal hx }
  case nprobes =>
    exact FormField.keeps_ofReader fun _ _ _ h hn => { h with nprobes := pos_of_optionalCount hn }
  case refineFactor =>
    exact FormField.keeps_ofReader fun _ _ _ h hn =>
      { h with refineFactor := pos_of_optionalCount hn }
  case ef =>
    exact FormField.keeps_ofReader fun _ _ _ h hn => { h with ef := pos_of_optionalCount hn }
  case minimumNprobes =>
    exact FormField.keeps_ofReader fun _ _ _ h hn =>
      { h with minimumNprobes := pos_of_optionalCount hn }
  case maximumNprobes =>
    exact FormField.keeps_ofReader fun _ _ _ h hn =>
      { h with maximumNprobes := pos_of_optionalCount hn }
  case distanceRange =>
    exact FormField.keeps_ofReader fun _ _ _ h hbounds =>
      { h with distanceRange := fun _ hmem =>
          Reader.length_of_listOfLength (Reader.mem_of_optional hbounds hmem) }
  -- The rules say nothing about the other fields.
  all_goals exact FormField.keeps_ofReader fun _ _ _ h _ => { h with }

theorem dimensions_of_fill {n : Nat} (hn : n ≠ 0)
    : ∀ f ∈ fields, ∀ x v y, (f.name = "vector" → ∀ vs, v = .list vs → vs.length = n) →
        x.vector.length = n ∧ x.DimensionsAgree → f.fill x v = .valid y →
        y.vector.length = n ∧ y.DimensionsAgree := by
  unfold fields
  simp only [List.forall_mem_cons, List.not_mem_nil, false_imp_iff, implies_true, and_true]
  refine ⟨?query, ?vector, ?additionalVectors, ?others⟩
  case vector =>
    intro x v y hv hx hfill
    obtain ⟨vector, hread, rfl⟩ := Checked.map_eq_valid_iff.1 hfill
    obtain ⟨vs, rfl, hlength⟩ := exists_of_listAtLeast hread
    have hvector : vector.length = n := hlength.trans (hv rfl vs rfl)
    refine ⟨hvector, ?_⟩
    intro w hw
    exact (hx.2 w hw).trans (hx.1.trans hvector.symm)
  case additionalVectors =>
    intro x v y _ hx hfill
    obtain ⟨vs, _, hfits, rfl⟩ := fillAdditionalVectors_eq_valid_iff.1 hfill
    have hne : x.vector ≠ [] := List.ne_nil_of_length_pos (by omega)
    exact ⟨hx.1, (misfit?_eq_none_iff hne).1 hfits⟩
  case query =>
    intro x v y _ hx hfill
    obtain ⟨_, _, rfl⟩ := Checked.map_eq_valid_iff.1 hfill
    exact hx
  and_intros
  all_goals
    intro x v y _ hx hfill
    obtain ⟨_, _, rfl⟩ := FormField.fill_ofReader_iff.1 hfill
    exact hx

theorem exists_init_of_fills {given : FormField QueryRequest → Option Value}
    (h : Form.Fills given fields {} r)
    : ∃ query vector, vector ≠ []
        ∧ Form.Fills given (fields.drop 2) { query, vector } r := by
  cases h with
  | absent _ hrequired => cases hrequired
  | filled _ hquery h =>
    cases h with
    | absent _ hrequired => cases hrequired
    | filled _ hvector h =>
      obtain ⟨query, _, rfl⟩ := Checked.map_eq_valid_iff.1 hquery
      obtain ⟨vector, hread, rfl⟩ := Checked.map_eq_valid_iff.1 hvector
      exact ⟨query, vector, ne_nil_of_listAtLeast hread, h⟩

theorem inBounds_of_fills {given : FormField QueryRequest → Option Value}
    (h : Form.Fills given fields {} r)
    : r.InBounds := by
  obtain ⟨query, vector, hne, hrest⟩ := exists_init_of_fills h
  exact hrest.keeps (fun f hf => keeps_inBounds f (List.mem_of_mem_drop hf)) (inBounds_init hne)

theorem dimensionsAgree_of_fills {given : FormField QueryRequest → Option Value}
    (h : Form.Fills given fields {} r)
    : r.DimensionsAgree := by
  obtain ⟨query, vector, hne, hrest⟩ := exists_init_of_fills h
  have hlength : vector.length ≠ 0 := by simpa using hne
  have hnames : "vector" ∉ (fields.drop 2).map (·.name) := by decide
  have hinit : ∀ w ∈ ([] : List (List Binary)), w.length = vector.length := nofun
  have hkeeps : ∀ f ∈ fields.drop 2, f.Keeps fun r =>
      r.vector.length = vector.length ∧ r.DimensionsAgree := by
    intro f hf x v y hx hfill
    apply dimensions_of_fill hlength f (List.mem_of_mem_drop hf) x v y _ hx hfill
    intro hname
    exact absurd (hname ▸ List.mem_map_of_mem hf) hnames
  obtain ⟨hvector, hagree⟩ := hrest.keeps hkeeps ⟨rfl, hinit⟩
  exact hagree

theorem read_eq_valid_iff {es : List (String × Value)}
    : read es = .valid r ↔ Form.read fields {} es = .valid r ∧ r.WeightsAgree := by
  unfold read
  rw [Checked.bind_eq_valid_iff]
  constructor
  . rintro ⟨x, hx, hcheck⟩
    obtain ⟨hweights, rfl⟩ := checkWeights_eq_valid_iff.1 hcheck
    exact ⟨hx, hweights⟩
  . rintro ⟨hread, hweights⟩
    exact ⟨r, hread, checkWeights_eq_valid_iff.2 ⟨hweights, rfl⟩⟩

theorem rules_of_read {es : List (String × Value)} (h : read es = .valid r)
    : r.InBounds ∧ r.DimensionsAgree ∧ r.WeightsAgree := by
  obtain ⟨hread, hweights⟩ := read_eq_valid_iff.1 h
  obtain ⟨_, _, hfills⟩ := (Form.read_eq_valid_iff reports_fields).1 hread
  exact ⟨inBounds_of_fills hfills, dimensionsAgree_of_fills hfills, hweights⟩

end QueryRequest

end RankFusion
