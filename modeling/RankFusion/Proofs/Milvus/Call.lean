import RankFusion.Milvus.Executor
import RankFusion.Proofs.Milvus.Result
import RankFusion.Query.Basic

/-!
This module contains the search calls of a query. With well-formed settings both sides are called,
and an engine that is open turns the answers into batches.
-/

namespace RankFusion

def Value.IsBound (v : Value) : Prop := v = .null ∨ ∃ s : Scalar, v = s.toValue

def Value.IsBeyondReal (v : Value) : Prop :=
  ∃ (n : Int) (negative : Bool), v = .int n ∧ Format.double.ofInt n = .infinity negative

/--
Whether a bound on distances has no double precision value where one is computed with. That is so
if the metric is a similarity.
-/
def VectorTuning.Overflows (m : DistanceMetric) (t : VectorTuning) : Prop :=
  m.isSimilarity = true
    ∧ ∃ lower upper : Value, t.distanceRange = .list [lower, upper]
      ∧ (lower.IsBeyondReal ∨ upper.IsBeyondReal)

namespace Milvus

open Hit (projection)

/--
Whether a query can be searched for on both sides of a collection, projected on fields, before its
deadline.
-/
structure Searches (c : CollectionConfig) (q : HybridQuery) (timeout : Value)
    (fields : List Projected) : Prop where
  query : q.query ≠ ""
  select : q.config.select = .list (fields.map fun f => .text f.1)
  ftsColumns : q.config.ftsColumns = .null
    ∨ ∃ columns : List Value, q.config.ftsColumns = .list columns ∧ columns.length ≤ 1
  /-- A bound on distances is only computed with if the metric is a similarity. -/
  range : q.config.vector.distanceRange = .null
    ∨ ∃ lower upper : Value, q.config.vector.distanceRange = .list [lower, upper]
        ∧ ((metricOf c (q.request .vector timeout)).isSimilarity = true
            → lower.IsBound ∧ upper.IsBound)
  fits : ¬ q.config.vector.Overflows (metricOf c (q.request .vector timeout))
  vectors : ∃ vectors : List (List Value),
    q.config.vector.additionalVectors = .list (vectors.map .list)
  deadline : ∀ side, MilvusExecutor.deadlineFailure? (q.request side timeout) = none

variable {q : HybridQuery} {fields : List Projected} {c : CollectionConfig} {timeout : Value}

theorem complementValue_toValue (s : Scalar)
    : complementValue s.toValue = s.toReal.map fun x => .real (complement x) := by
  cases s with
  | bool b => rfl
  | int n => rfl
  | real x => rfl

section Range

variable {m : DistanceMetric}

theorem boundEntry_of_beyond (hm : m.isSimilarity = true) (name : String) {bound : Value}
    (h : bound.IsBeyondReal)
    : boundEntry m name bound = .error (.operand .tooLargeForReal) := by
  obtain ⟨n, negative, rfl, hn⟩ := h
  have hreal : (Scalar.int n).toReal = .error (.operand .tooLargeForReal) := by
    change Value.realOfInt n = _
    unfold Value.realOfInt
    rw [hn]
  have hcomplement := complementValue_toValue (.int n)
  rw [hreal] at hcomplement
  change (if m.isSimilarity then complementValue (.int n) else _).map _ = _
  rw [if_pos hm]
  exact congrArg (Except.map _) hcomplement

theorem exists_boundEntry (name : String) {bound : Value}
    (h : m.isSimilarity = true → bound.IsBound)
    (hfits : m.isSimilarity = true → ¬ bound.IsBeyondReal)
    : ∃ entries, boundEntry m name bound = .ok entries := by
  unfold boundEntry distanceOf
  cases hsimilarity : m.isSimilarity with
  | false =>
    split
    . exact ⟨_, rfl⟩
    . exact ⟨_, rfl⟩
  | true =>
    obtain rfl | ⟨s, rfl⟩ := h hsimilarity
    . exact ⟨_, rfl⟩
    . rw [Scalar.isNull_toValue, if_pos rfl, complementValue_toValue]
      cases s with
      | bool b => exact ⟨_, rfl⟩
      | real x => exact ⟨_, rfl⟩
      | int n =>
        change ∃ entries, ((Value.realOfInt n).map _).map _ = .ok entries
        unfold Value.realOfInt
        split
        . next negative hn => exact absurd ⟨n, negative, rfl, hn⟩ (hfits hsimilarity)
        . exact ⟨_, rfl⟩

theorem exists_rangeEntries {lower upper : Value}
    (h : m.isSimilarity = true → lower.IsBound ∧ upper.IsBound)
    (hfits : m.isSimilarity = true → ¬ (lower.IsBeyondReal ∨ upper.IsBeyondReal))
    : ∃ entries, rangeEntries m lower upper = .ok entries := by
  obtain ⟨outer, houter⟩ := exists_boundEntry "radius" (fun hm => (h hm).2)
    fun hm hbeyond => hfits hm (.inr hbeyond)
  obtain ⟨inner, hinner⟩ := exists_boundEntry "range_filter" (fun hm => (h hm).1)
    fun hm hbeyond => hfits hm (.inl hbeyond)
  unfold rangeEntries
  exact ⟨_, Except.bind_eq_ok_iff.2 ⟨outer, houter, Except.bind_eq_ok_iff.2 ⟨inner, hinner, rfl⟩⟩⟩

theorem rangeEntries_of_beyond (hm : m.isSimilarity = true) {lower upper : Value}
    (hupper : upper.IsBound) (h : lower.IsBeyondReal ∨ upper.IsBeyondReal)
    : rangeEntries m lower upper = .error (.operand .tooLargeForReal) := by
  unfold rangeEntries
  by_cases hbeyond : upper.IsBeyondReal
  . rw [boundEntry_of_beyond hm _ hbeyond]
    rfl
  . obtain ⟨outer, houter⟩ := exists_boundEntry "radius" (fun _ => hupper) fun _ => hbeyond
    rw [houter, boundEntry_of_beyond hm _ (h.resolve_right hbeyond)]
    rfl

theorem exists_tuningParams {t : VectorTuning}
    (h : t.distanceRange = .null
      ∨ ∃ lower upper : Value, t.distanceRange = .list [lower, upper]
          ∧ (m.isSimilarity = true → lower.IsBound ∧ upper.IsBound))
    (hfits : ¬ t.Overflows m)
    : ∃ params, tuningParams m t = .ok params := by
  unfold tuningParams
  obtain hnull | ⟨lower, upper, hrange, hbounds⟩ := h
  . rw [hnull]
    exact ⟨_, rfl⟩
  . obtain ⟨entries, hentries⟩ :=
      exists_rangeEntries hbounds fun hm hbeyond => hfits ⟨hm, lower, upper, hrange, hbeyond⟩
    rw [hrange]
    exact ⟨_, Except.bind_eq_ok_iff.2 ⟨(lower, upper), rfl,
      Except.bind_eq_ok_iff.2 ⟨entries, hentries, rfl⟩⟩⟩

theorem tuningParams_of_overflows {t : VectorTuning} (h : t.Overflows m)
    (hbounds : ∀ lower upper : Value, t.distanceRange = .list [lower, upper] → upper.IsBound)
    : tuningParams m t = .error (.operand .tooLargeForReal) := by
  obtain ⟨hm, lower, upper, hrange, hbeyond⟩ := h
  have hentries := rangeEntries_of_beyond hm (hbounds lower upper hrange) hbeyond
  unfold tuningParams
  rw [hrange]
  change rangeEntries m lower upper >>= _ = _
  rw [hentries]
  rfl

end Range

theorem exists_queryVectors {s : SubSearch} {components : List Value} {vectors : List (List Value)}
    (hvector : s.vector = .list components)
    (hvectors : s.tuning.additionalVectors = .list (vectors.map .list))
    : ∃ data, queryVectors s = .ok data := by
  have hmore : (vectors.map Value.list).mapM Value.items = .ok vectors := by
    rw [List.mapM_eq_ok_iff, List.forall₂_map_left_iff, List.forall₂_same]
    intro vs _
    rfl
  unfold queryVectors
  rw [hvector, hvectors]
  exact ⟨_, Except.bind_eq_ok_iff.2 ⟨_, rfl, Except.bind_eq_ok_iff.2 ⟨_, rfl,
    Except.bind_eq_ok_iff.2 ⟨_, hmore, rfl⟩⟩⟩⟩

theorem exists_vectorCall (h : Searches c q timeout fields)
    : ∃ side, vectorCall c (q.request .vector timeout) = .ok side := by
  obtain ⟨vectors, hvectors⟩ := h.vectors
  obtain ⟨params, hparams⟩ := exists_tuningParams h.range h.fits
  obtain ⟨data, hdata⟩ := @exists_queryVectors (q.request .vector timeout) _ _ rfl hvectors
  unfold vectorCall
  exact ⟨_, Except.bind_eq_ok_iff.2 ⟨params, hparams,
    Except.bind_eq_ok_iff.2 ⟨data, hdata, rfl⟩⟩⟩

theorem exists_textCall (h : Searches c q timeout fields)
    : ∃ side, textCall c (q.request .fts timeout) = .ok side := by
  have htruthy : (q.request .fts timeout).queryText.isTruthy = true := by
    change (q.query != "") = true
    simpa using h.query
  have hcolumns : ∃ columns : List Value,
      orElse (q.request .fts timeout).ftsColumns (.list []) = .list columns
        ∧ ¬ columns.length > 1 := by
    change ∃ columns : List Value, orElse q.config.ftsColumns (.list []) = _ ∧ _
    obtain hnull | ⟨columns, hcolumns, hlength⟩ := h.ftsColumns
    . rw [hnull]
      exact ⟨[], rfl, by decide⟩
    . rw [hcolumns]
      cases columns with
      | nil => exact ⟨[], rfl, by decide⟩
      | cons column columns => exact ⟨_, rfl, Nat.not_lt.2 hlength⟩
  obtain ⟨columns, hcolumns, hlength⟩ := hcolumns
  unfold textCall
  rw [htruthy, hcolumns]
  refine ⟨⟨[(q.request .fts timeout).queryText], sparseFieldFor c (columns.headD .null), "BM25",
    [("drop_ratio_search", c.dropRatio)]⟩, Except.bind_eq_ok_iff.2 ⟨columns.length, rfl, ?_⟩⟩
  rw [if_neg hlength]
  exact Except.bind_eq_ok_iff.2 ⟨columns.headD .null, rfl, rfl⟩

theorem ofColumns_select (h : Searches c q timeout fields) (side : Side)
    : Projection.ofColumns (q.request side timeout).columns = .ok (projection fields) := by
  have hselect : (q.request side timeout).columns = .list (fields.map fun f => .text f.1) := by
    cases side with
    | vector => exact h.select
    | fts => exact h.select
  rw [hselect]
  rfl

theorem exists_searchCall (h : Searches c q timeout fields) (side : Side)
    : ∃ call, searchCall c (q.request side timeout) = .ok (call, projection fields) := by
  have hside : ∃ part, sideCall c (q.request side timeout) = .ok part := by
    cases side with
    | vector => exact exists_vectorCall h
    | fts => exact exists_textCall h
  obtain ⟨part, hpart⟩ := hside
  unfold searchCall
  exact ⟨_, Except.bind_eq_ok_iff.2 ⟨part, hpart,
    Except.bind_eq_ok_iff.2 ⟨_, ofColumns_select h side, rfl⟩⟩⟩

theorem searchCall_of_overflows {s : SubSearch} (hside : s.side = .vector)
    (hvector : s.vector.isNull = false) (h : s.tuning.Overflows (metricOf c s))
    (hupper : ∀ lower upper : Value, s.tuning.distanceRange = .list [lower, upper] →
      upper.IsBound)
    : searchCall c s = .error (.operand .tooLargeForReal) := by
  unfold searchCall sideCall
  rw [hside]
  dsimp only
  unfold vectorCall vectorParams
  rw [hvector, tuningParams_of_overflows h hupper]
  rfl

namespace MilvusExecutor

variable {e : MilvusExecutor} {client : Client} {types : FieldTypes}

/--
Whether an engine on a collection is open, and the types of the fields are those it knows, or else
those that it learns from the description.
-/
structure Ready (client : Client) (c : CollectionConfig) (types : FieldTypes) (e : MilvusExecutor) :
    Prop where
  config : e.config = c
  opened : e.closed = false
  types : e.fieldTypes = some types
    ∨ (e.fieldTypes = none ∧ client.describe.bind describedTypes = .ok types)

theorem Ready.exists_learnFields (h : e.Ready client c types)
    : ∃ descriptions, e.learnFields client = (.ok types, descriptions) := by
  unfold learnFields
  obtain hknown | ⟨hunknown, hdescribed⟩ := h.types
  . rw [hknown]
    exact ⟨0, rfl⟩
  . rw [hunknown, hdescribed]
    exact ⟨1, rfl⟩

theorem Ready.execute (h : e.Ready client c types) {s : SubSearch} {call : SearchCall}
    {p : Projection} {lists : Value} (hcall : searchCall c s = .ok (call, p))
    (hdeadline : deadlineFailure? s = none) (hanswer : client.search call = .hits lists)
    : (e.execute client s).reply.outcome = toBatch c types s p lists
        ∧ (e.execute client s).executor.Ready client c types := by
  obtain ⟨descriptions, hlearn⟩ := h.exists_learnFields
  unfold MilvusExecutor.execute MilvusExecutor.search answered
  rw [h.config, hcall]
  dsimp only
  rw [h.opened, hlearn, hdeadline, hanswer]
  exact ⟨rfl, rfl, rfl, .inl rfl⟩

end MilvusExecutor

end Milvus

end RankFusion
