import RankFusion.Proofs.Rerank.Parameter
import RankFusion.Proofs.Request.Rules

/-!
This module contains how the entries of a request are read. Those of a request that obeys the rules
for single fields are accepted exactly if it obeys the other two rules, and then as that request.
-/

namespace RankFusion

theorem Reader.selection_toValue (s : Selection) : Reader.selection s.toValue = .valid s := by
  cases s with
  | columns names =>
    have hlist : Reader.list Reader.text (Selection.toValue (.columns names)) = .valid names :=
      Reader.list_map fun s _ => Reader.text_text s
    unfold Reader.selection
    rw [hlist]
  | mapping es =>
    have hdict : Reader.dict Reader.text (Selection.toValue (.mapping es)) = .valid es :=
      Reader.entries_map fun e _ => Reader.text_text e.2
    unfold Reader.selection
    rw [hdict]
    rfl

namespace QueryRequest

variable {r : QueryRequest}

section Shown

variable {α : Type} {reader : Reader α} {shown : α → Value} {b : Bounds}

theorem optional_optionalValue {o : Option α} (hnull : ∀ x, shown x ≠ .null)
    (h : ∀ x ∈ o, reader (shown x) = .valid x)
    : Reader.optional reader (optionalValue shown o) = .valid o := by
  cases o with
  | none => rfl
  | some x => exact Reader.optional_some (hnull x) (h x rfl)

theorem optionalCount_optionalValue {o : Option Int}
    (h : ∀ n ∈ o, b.broken? (Scalar.int n).exact = none)
    : optionalCount b (optionalValue .int o) = .valid o :=
  optional_optionalValue nofun fun n hn =>
    Reader.boundedInteger_int (h n hn)

theorem list_textsValue (ss : List String) : Reader.list Reader.text (textsValue ss) = .valid ss :=
  Reader.list_map fun s _ => Reader.text_text s

theorem list_vectorValue (xs : List Binary)
    : Reader.list Reader.real (vectorValue xs) = .valid xs :=
  Reader.list_map fun x _ => Reader.real_real x

theorem listAtLeast_vectorValue {xs : List Binary} (h : xs ≠ [])
    : Reader.listAtLeast 1 Reader.real (vectorValue xs) = .valid xs :=
  Reader.listAtLeast_map (fun x _ => Reader.real_real x) (List.length_pos_of_ne_nil h)

theorem list_vectorValues (vs : List (List Binary))
    : Reader.list (Reader.list Reader.real) (.list (vs.map vectorValue)) = .valid vs :=
  Reader.list_map fun xs _ => list_vectorValue xs

theorem listOfLength_rangeValue {bounds : List (Option Binary)} (h : bounds.length = 2)
    : Reader.listOfLength 2 (.optional .real) (rangeValue bounds) = .valid bounds :=
  Reader.listOfLength_map
    (fun _ _ => optional_optionalValue nofun fun x _ => Reader.real_real x) h

end Shown

theorem fills_entries (h : r.InBounds) (hdimensions : r.DimensionsAgree)
    : Form.Fills (fun f => some (f.value r)) fields {} r := by
  have hpos {o : Option Int} (ho : ∀ n ∈ o, 0 < n) :
      optionalCount .positive (optionalValue .int o) = .valid o :=
    optionalCount_optionalValue fun n hn => Bounds.positive_broken?_int_iff.2 (ho n hn)
  have hnonneg {o : Option Int} (ho : ∀ n ∈ o, 0 ≤ n) :
      optionalCount .nonNegative (optionalValue .int o) = .valid o :=
    optionalCount_optionalValue fun n hn => Bounds.nonNegative_broken?_int_iff.2 (ho n hn)
  have hunit {x : Binary} (hx : x.InUnit) : Reader.boundedReal .unit (.real x) = .valid x :=
    Reader.boundedReal_real (Bounds.unit_broken?_iff.2 hx)
  have hconstant := Reader.boundedReal_real (Bounds.positive_broken?_iff.2 h.rrfConstant)
  have hfill := Reader.boundedReal_real (Bounds.nonNegative_broken?_iff.2 h.linearFill)
  have htext (o : Option String) : Reader.optional .text (optionalValue .text o) = .valid o :=
    optional_optionalValue nofun fun s _ => Reader.text_text s
  have hfits : misfit? r.vector r.additionalVectors = none :=
    (misfit?_eq_none_iff h.vector).2 hdimensions
  unfold fields
  refine Form.fills_field rfl (Reader.text_text _) ?_
  refine Form.fills_field rfl (listAtLeast_vectorValue h.vector) ?_
  refine .filled rfl (fillAdditionalVectors_eq_valid_iff.2 ⟨_, list_vectorValues _, hfits, rfl⟩) ?_
  refine Form.fills_field rfl (htext r.filter) ?_
  refine Form.fills_field rfl (Reader.truth_bool _) ?_
  refine Form.fills_field rfl (Reader.truth_bool _) ?_
  refine Form.fills_field rfl (optional_optionalValue ?_ fun s _ => Reader.selection_toValue s) ?_
  . intro s
    cases s <;> nofun
  refine Form.fills_field rfl (Reader.truth_bool _) ?_
  refine Form.fills_field rfl (optional_optionalValue nofun fun ss _ => list_textsValue ss) ?_
  refine Form.fills_field rfl (hpos h.subSearchLimit) ?_
  refine Form.fills_field rfl (optional_optionalValue nofun fun x hx => ?_) ?_
  . exact Reader.boundedReal_real (Bounds.positive_broken?_iff.2 (h.timeout x hx))
  refine Form.fills_field rfl (hnonneg h.limit) ?_
  refine Form.fills_field rfl (hnonneg h.offset) ?_
  refine Form.fills_field rfl (Reader.member_text (RerankMethod.ofName?_name _)) ?_
  refine Form.fills_field rfl hconstant ?_
  refine Form.fills_field rfl (hunit h.linearWeight) ?_
  refine Form.fills_field rfl hfill ?_
  refine Form.fills_field rfl (hunit h.mrrWeightVector) ?_
  refine Form.fills_field rfl (hunit h.mrrWeightFts) ?_
  refine Form.fills_field rfl (htext r.column) ?_
  refine Form.fills_field rfl (optional_optionalValue nofun fun m _ => ?_) ?_
  . exact Reader.member_text (DistanceMetric.ofName?_name m)
  refine Form.fills_field rfl (hpos h.nprobes) ?_
  refine Form.fills_field rfl (hpos h.refineFactor) ?_
  refine Form.fills_field rfl (Reader.truth_bool _) ?_
  refine Form.fills_field rfl (hpos h.ef) ?_
  refine Form.fills_field rfl (hpos h.minimumNprobes) ?_
  refine Form.fills_field rfl (hpos h.maximumNprobes) ?_
  refine Form.fills_field rfl (optional_optionalValue nofun fun bounds hbounds => ?_) ?_
  . exact listOfLength_rangeValue (h.distanceRange bounds hbounds)
  exact .nil

theorem formRead_entries_iff {y : QueryRequest}
    : Form.read fields {} r.entries = .valid y
        ↔
      Form.Fills (fun f => some (f.value r)) fields {} y :=
  Form.read_entries_iff reports_fields nodup_names isWellFormed_names

theorem dimensionsAgree_of_fills_entries {y : QueryRequest} (hvector : r.vector ≠ [])
    (h : Form.Fills (fun f => some (f.value r)) fields {} y)
    : r.DimensionsAgree := by
  obtain ⟨query, _, h⟩ := (Form.fills_cons_iff rfl rfl).1 h
  obtain ⟨vector, hread, h⟩ := (Form.fills_cons_iff rfl rfl).1 h
  cases h with
  | absent hgiven => cases hgiven
  | filled hgiven hadditional _ =>
    cases hgiven
    obtain ⟨vs, hlist, hfits, _⟩ := fillAdditionalVectors_eq_valid_iff.1 hadditional
    obtain rfl : vector = r.vector :=
      Checked.valid.inj (hread.symm.trans (listAtLeast_vectorValue hvector))
    obtain rfl : vs = r.additionalVectors :=
      Checked.valid.inj (hlist.symm.trans (list_vectorValues r.additionalVectors))
    exact (misfit?_eq_none_iff hvector).1 hfits

theorem read_entries_iff {y : QueryRequest} (h : r.InBounds)
    : read r.entries = .valid y ↔ r.DimensionsAgree ∧ r.WeightsAgree ∧ y = r := by
  rw [read_eq_valid_iff, formRead_entries_iff]
  constructor
  . rintro ⟨hfills, hweights⟩
    have hdimensions := dimensionsAgree_of_fills_entries h.vector hfills
    have hread := formRead_entries_iff.2 (fills_entries h hdimensions)
    obtain rfl : y = r := Checked.valid.inj ((formRead_entries_iff.2 hfills).symm.trans hread)
    exact ⟨hdimensions, hweights, rfl⟩
  . rintro ⟨hdimensions, hweights, rfl⟩
    exact ⟨fills_entries h hdimensions, hweights⟩

end QueryRequest

end RankFusion
