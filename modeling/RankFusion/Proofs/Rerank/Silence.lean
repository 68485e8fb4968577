import RankFusion.Proofs.Rerank.Acceptance
import RankFusion.Proofs.Rerank.Monotone

/-!
This module contains what the extreme weights leave out. A side that counts nothing adds a zero, be
it of either sign, and no zero shows in the relevance. So the numbers of that side, or for a fusion
by ranks all of its rows, can be any others.
-/

namespace RankFusion

namespace Format

variable {f : Format} {x y : Binary}

theorem mul_eq_signedZero (hx : x.dyadic? = some 0) (hy : y.isFinite = true)
    : f.mul x y = .signedZero (x.isNegative != y.isNegative) := by
  obtain ⟨v, hv⟩ := Option.isSome_iff_exists.1 hy
  unfold mul
  rw [hx, hv]
  exact if_pos (.inl rfl)

theorem sub_one_add_signedZero (x : Binary) (s : Bool)
    : f.sub .one (f.add x (.signedZero s)) = f.sub .one (f.add x .zero) := by
  cases s with
  | false => rfl
  | true =>
    cases x with
    | nan => rfl
    | infinity t => rfl
    | negZero => rfl
    | finite v =>
      have hadd : f.add (.finite v) .zero = f.round (v + 0).toRat := rfl
      rw [hadd, Dyadic.add_zero]
      rfl

end Format

namespace Relevance

variable {weight distance score : Binary} {vector vector' fts fts' : Ranking} {id : Int}

theorem combine_one (hscore : score.isFinite = true)
    : combine .one distance score =
        Format.single.sub .one
          (Format.single.add (Format.single.mul .one (Format.single.sub .one distance)) .zero) := by
  have hcomplement : Format.single.sub .one .one = .zero := by decide
  have hshare := Format.mul_eq_signedZero (f := .single) (x := .zero) rfl hscore
  rw [combine_eq]
  unfold blend
  rw [hcomplement, hshare, Format.sub_one_add_signedZero]

theorem combine_zero (hweight : weight.dyadic? = some 0) (hdistance : distance.IsSingle)
    : combine weight distance score =
        Format.single.sub .one (Format.single.add (Format.single.mul .one score) .zero) := by
  have hcomplement : Format.single.sub .one weight = .one := by
    cases weight with
    | nan => cases hweight
    | infinity s => cases hweight
    | negZero => decide
    | finite v =>
      cases hweight
      decide
  have hshare := Format.mul_eq_signedZero (f := .single) hweight
    (within_similarity hdistance).isFinite
  rw [combine_eq]
  unfold blend
  rw [hcomplement, hshare, Format.add_comm, Format.sub_one_add_signedZero]

theorem unsigned_reciprocalRank (ids : Ranking) (id : Int) : (reciprocalRank ids id).Unsigned := by
  unfold reciprocalRank
  split
  . next rank _ => exact unsigned_rankShare rank
  . exact Binary.unsigned_zero

theorem mul_reciprocalRank (hweight : weight.dyadic? = some 0) (ids : Ranking) (id : Int)
    : Format.single.mul weight (reciprocalRank ids id) = .signedZero weight.isNegative := by
  rw [Format.mul_eq_signedZero hweight inUnit_reciprocalRank.within.isFinite,
    (unsigned_reciprocalRank ids id).2, Bool.bne_false]

theorem meanReciprocalRank_congr_fts (hweight : weight.dyadic? = some 0) (weightVector : Binary)
    : meanReciprocalRank weightVector weight vector fts id =
        meanReciprocalRank weightVector weight vector fts' id := by
  unfold meanReciprocalRank
  rw [mul_reciprocalRank hweight, mul_reciprocalRank hweight]

theorem meanReciprocalRank_congr_vector (hweight : weight.dyadic? = some 0) (weightFts : Binary)
    : meanReciprocalRank weight weightFts vector fts id =
        meanReciprocalRank weight weightFts vector' fts id := by
  unfold meanReciprocalRank
  rw [mul_reciprocalRank hweight, mul_reciprocalRank hweight]

end Relevance

namespace Batch

variable {name column : String} {b b' vector vector' fts fts' : Batch} {ids : Ranking}
  {cells : List Value}

/--
Whether two batches differ in the cells of the columns of one name only.
-/
structure AgreesBut (name : String) (b b' : Batch) : Prop where
  metadata : b'.metadata = b.metadata
  rows : b'.rows = b.rows
  columns : List.Forall₂ (fun c c' : Column => c'.field = c.field
    ∧ (c.field.name ≠ name → c'.values = c.values)) b.columns b'.columns

theorem AgreesBut.schema_eq (h : AgreesBut name b b') : b'.schema = b.schema := by
  unfold schema
  rw [h.metadata, List.map_eq_map_of_forall₂ h.columns.flip fun _ _ hc => hc.1]

theorem AgreesBut.cells_eq_ok (h : AgreesBut name b b') (hname : column ≠ name) {c : Cells}
    (hc : b.cells column = .ok c)
    : b'.cells column = .ok c := by
  obtain ⟨hcount, d, hd, hdname, rfl⟩ := cells_eq_ok_iff.1 hc
  obtain ⟨d', hd', hfield, hvalues⟩ := List.exists_right_of_forall₂ h.columns hd
  refine cells_eq_ok_iff.2 ⟨by rwa [h.schema_eq], d', hd', by rw [hfield, hdname], ?_⟩
  unfold Column.cells
  rw [hfield, hvalues (hdname ▸ hname)]

theorem AgreesBut.rowIds_eq_ok (h : AgreesBut name b b') (hname : rowIdColumn ≠ name)
    (hids : b.rowIds = .ok ids)
    : b'.rowIds = .ok ids := by
  obtain ⟨c, hc, htype, hvalues⟩ := rowIds_eq_ok_iff.1 hids
  exact rowIds_eq_ok_iff.2 ⟨c, h.cells_eq_ok hname hc, htype, hvalues⟩

theorem AgreesBut.ranking_eq_ok (h : AgreesBut name b b') (hname : rowIdColumn ≠ name)
    (hids : b.ranking = .ok ids)
    : b'.ranking = .ok ids := by
  unfold ranking at hids ⊢
  rw [h.rows]
  split at hids
  . next hrows => rwa [if_pos hrows]
  . next hrows =>
    rw [if_neg hrows]
    exact h.rowIds_eq_ok hname hids

theorem HasOne.congr {kind : ColumnType → Prop} (h : b.HasOne column kind)
    (hb : b'.schema = b.schema)
    : b'.HasOne column kind := by
  unfold HasOne at h ⊢
  rwa [hb]

theorem Compatible.congr (h : vector.Compatible fts) (hvector : vector'.schema = vector.schema)
    (hfts : fts'.schema = fts.schema)
    : vector'.Compatible fts' where
  vectorKeyed := h.vectorKeyed.congr hvector
  ftsKeyed := h.ftsKeyed.congr hfts
  joins := by
    rw [hvector, hfts]
    exact h.joins

theorem Alone.congr (h : b.Alone) (hb : b'.schema = b.schema) : b'.Alone where
  keyed := h.keyed.congr hb
  unscored := by
    rw [hb]
    exact h.unscored
  supported := by
    rw [hb]
    exact h.supported

theorem Fusible.congr (h : vector.Fusible fts) (hvector : vector'.schema = vector.schema)
    (hvectorRows : vector'.rows = vector.rows) (hfts : fts'.schema = fts.schema)
    (hftsRows : fts'.rows = fts.rows)
    : vector'.Fusible fts' := by
  unfold Fusible at h ⊢
  rw [hvectorRows, hftsRows, hvector, hfts]
  obtain ⟨hv, hf, hcompatible, hscores⟩ | ⟨hv, hf, halone⟩ | ⟨hv, hf, halone⟩ |
    ⟨hv, hf, hkeyed, hscores⟩ := h
  . exact .inl ⟨hv, hf, hcompatible.congr hvector hfts, hscores⟩
  . exact .inr (.inl ⟨hv, hf, halone.congr hvector⟩)
  . exact .inr (.inr (.inl ⟨hv, hf, halone.congr hfts⟩))
  . exact .inr (.inr (.inr ⟨hv, hf, hkeyed.congr hfts, hscores⟩))

theorem Measured.congr (h : vector.Measured fts) (hvector : vector'.schema = vector.schema)
    (hvectorRows : vector'.rows = vector.rows) (hfts : fts'.schema = fts.schema)
    (hftsRows : fts'.rows = fts.rows)
    : vector'.Measured fts' := by
  unfold Measured
  rw [hvectorRows, hftsRows]
  exact ⟨fun hrows => (h.1 hrows).congr hvector, fun hrows => (h.2 hrows).congr hfts⟩

/--
Whether the numbers of a column are numbers in single precision, too. Rows may have none.
-/
def FiniteColumn (b : Batch) (name : String) : Prop :=
  ∀ ids cells, b.scored name = .ok (ids, cells) → Relevance.FiniteCells cells

theorem finiteColumn_of_scored (h : b.scored name = .ok (ids, cells))
    (hcells : Relevance.FiniteCells cells)
    : b.FiniteColumn name := by
  intro ids' cells' h'
  rw [h] at h'
  cases h'
  exact hcells

/--
Whether two fused batches have the same identifiers, each with the same relevance bit for bit.
-/
def RankedAlike (b b' : Batch) : Prop :=
  ∃ (ids : Ranking) (scores : List Binary),
    b.rowIds = .ok ids
      ∧ b'.rowIds = .ok ids
      ∧ b.cells relevanceColumn = .ok ⟨.float32, scores.map .real⟩
      ∧ b'.cells relevanceColumn = .ok ⟨.float32, scores.map .real⟩

def Earns (b : Batch) (x : Int) (score : Binary) : Prop :=
  ∃ (ids : Ranking) (scores : List Binary) (i : Nat),
    b.rowIds = .ok ids
      ∧ b.cells relevanceColumn = .ok ⟨.float32, scores.map .real⟩
      ∧ ids[i]? = some (some x)
      ∧ scores[i]? = some score

end Batch

namespace Reranker

variable {r : Reranker} {weight fill weightVector weightFts : Scalar} {a f : Binary} {x : Int}
  {score score' : Binary} {vector vector' fts fts' result result' : Batch}
  {relevance relevance' : Int → Except Failure Binary}

theorem rankedAlike_of_relevance
    (hvector : ∀ ids, vector.ranking = .ok ids → vector'.ranking = .ok ids)
    (hfts : ∀ ids, fts.ranking = .ok ids → fts'.ranking = .ok ids)
    (hrelevance : ∀ relevance relevance', r.relevance vector fts = .ok relevance →
      r.relevance vector' fts' = .ok relevance' → relevance' = relevance)
    (h : r.rerank vector fts = .ok result) (h' : r.rerank vector' fts' = .ok result')
    : result.RankedAlike result' := by
  obtain ⟨relevance, merged, ids, hfound, hmerged, hids, _, _, hsorted, hcells⟩ :=
    sortedIds_of_rerank h
  obtain ⟨relevance', merged', ids', hfound', hmerged', hids', _, _, hsorted', hcells'⟩ :=
    sortedIds_of_rerank h'
  have hsame := hrelevance relevance relevance' hfound hfound'
  obtain ⟨vectorIds, ftsIds, hvectorIds, hftsIds, heq⟩ := Batch.ids_of_merge hmerged hids
  have heq' := Batch.ids_eq_mergedIds (hvector vectorIds hvectorIds) (hfts ftsIds hftsIds) hmerged'
    hids'
  rw [← heq] at heq'
  subst hsame heq'
  exact ⟨_, _, hsorted, hsorted', hcells, hcells'⟩

theorem relevance_of_earns (h : r.rerank vector fts = .ok result) (hx : result.Earns x score)
    : ∃ relevance, r.relevance vector fts = .ok relevance ∧ relevance x = .ok score := by
  obtain ⟨relevance, merged, ids, sorted, hrelevance, _, _, hscores, _, hsorted, hperm, hcells⟩ :=
    rows_of_rerank h
  obtain ⟨ids', scores, i, hids', hcells', hi, hscore⟩ := hx
  rw [hsorted] at hids'
  cases hids'
  rw [hcells] at hcells'
  have hmap : (sorted.map (Batch.scoreOf relevance)).map Value.real = scores.map .real :=
    congrArg Cells.values (Except.ok.inj hcells')
  have hreal : Function.Injective Value.real := fun _ _ heq => Value.real.inj heq
  have hlists := hreal.list_map hmap
  rw [← hlists, List.getElem?_map, hi, Option.map_some, Option.some.injEq] at hscore
  refine ⟨relevance, hrelevance, ?_⟩
  rw [← hscore]
  exact hscores x (hperm.mem_iff.1 (List.mem_of_getElem? hi))

theorem earns_unique
    (hrelevance : ∀ relevance relevance', r.relevance vector fts = .ok relevance →
      r.relevance vector' fts' = .ok relevance' → relevance' = relevance)
    (h : r.rerank vector fts = .ok result) (h' : r.rerank vector' fts' = .ok result')
    (hx : result.Earns x score) (hx' : result'.Earns x score')
    : score' = score := by
  obtain ⟨relevance, hfound, hscore⟩ := relevance_of_earns h hx
  obtain ⟨relevance', hfound', hscore'⟩ := relevance_of_earns h' hx'
  rw [hrelevance relevance relevance' hfound hfound', hscore] at hscore'
  exact (Except.ok.inj hscore').symm

theorem exists_rerank_congr (hr : r.Convertible) (hvector : vector'.schema = vector.schema)
    (hvectorRows : vector'.rows = vector.rows) (hfts : fts'.schema = fts.schema)
    (hftsRows : fts'.rows = fts.rows) (h : r.rerank vector fts = .ok result)
    : ∃ result', r.rerank vector' fts' = .ok result' := by
  obtain ⟨hfusible, hmeasured⟩ := (exists_rerank_iff hr).1 ⟨result, h⟩
  exact (exists_rerank_iff hr).2 ⟨hfusible.congr hvector hvectorRows hfts hftsRows,
    fun hmethod => (hmeasured hmethod).congr hvector hvectorRows hfts hftsRows⟩

theorem convertible_linear (ha : weight.toSingle = .ok a) (hf : fill.toSingle = .ok f)
    : (linear weight fill).Convertible := by
  simp only [Convertible, parameters, List.forall_mem_cons]
  exact ⟨⟨a, ha⟩, ⟨f, hf⟩, by simp⟩

theorem linear_relevance_eq_ok (ha : weight.toSingle = .ok a) (hf : fill.toSingle = .ok f)
    (h : (linear weight fill).relevance vector fts = .ok relevance)
    : ∃ vectorIds distances ftsIds scores,
        vector.scored distanceColumn = .ok (vectorIds, distances)
          ∧ fts.scored scoreColumn = .ok (ftsIds, scores)
          ∧ relevance = fun x => .ok
              (Relevance.linearCombination a f (Relevance.lastValue? vectorIds distances x)
                (Relevance.lastValue? ftsIds scores x)) := by
  have hsides := h
  unfold Reranker.relevance at hsides
  obtain ⟨⟨vectorIds, distances⟩, hdistances, hsides⟩ := Except.bind_eq_ok_iff.1 hsides
  obtain ⟨⟨ftsIds, scores⟩, hscores, _⟩ := Except.bind_eq_ok_iff.1 hsides
  rw [relevance_linear ha hf hdistances hscores] at h
  exact ⟨vectorIds, distances, ftsIds, scores, hdistances, hscores, (Except.ok.inj h).symm⟩

theorem linear_relevance_congr_fts (hone : weight.toSingle = .ok .one)
    (hf : fill.toSingle = .ok f) (hfill : f.IsSingle) (hfinite : fts.FiniteColumn scoreColumn)
    (hfinite' : fts'.FiniteColumn scoreColumn)
    (h : (linear weight fill).relevance vector fts = .ok relevance)
    (h' : (linear weight fill).relevance vector fts' = .ok relevance')
    : relevance' = relevance := by
  obtain ⟨vectorIds, distances, ftsIds, scores, hdistances, hscores, rfl⟩ :=
    linear_relevance_eq_ok hone hf h
  obtain ⟨vectorIds', distances', ftsIds', scores', hdistances', hscores', rfl⟩ :=
    linear_relevance_eq_ok hone hf h'
  cases hdistances.symm.trans hdistances'
  funext x
  have hscore : ((Relevance.lastValue? ftsIds scores x).getD f).IsSingle :=
    Relevance.isSingle_getD_lastValue? hfill (hfinite _ _ hscores)
  have hscore' : ((Relevance.lastValue? ftsIds' scores' x).getD f).IsSingle :=
    Relevance.isSingle_getD_lastValue? hfill (hfinite' _ _ hscores')
  unfold Relevance.linearCombination
  rw [Relevance.combine_one hscore.isFinite, Relevance.combine_one hscore'.isFinite]

theorem linear_relevance_congr_vector (ha : weight.toSingle = .ok a) (hzero : a.dyadic? = some 0)
    (hf : fill.toSingle = .ok f) (hfill : f.IsSingle)
    (hfinite : vector.FiniteColumn distanceColumn)
    (hfinite' : vector'.FiniteColumn distanceColumn)
    (h : (linear weight fill).relevance vector fts = .ok relevance)
    (h' : (linear weight fill).relevance vector' fts = .ok relevance')
    : relevance' = relevance := by
  obtain ⟨vectorIds, distances, ftsIds, scores, hdistances, hscores, rfl⟩ :=
    linear_relevance_eq_ok ha hf h
  obtain ⟨vectorIds', distances', ftsIds', scores', hdistances', hscores', rfl⟩ :=
    linear_relevance_eq_ok ha hf h'
  cases hscores.symm.trans hscores'
  funext x
  have hdistance : ((Relevance.lastValue? vectorIds distances x).getD f).IsSingle :=
    Relevance.isSingle_getD_lastValue? hfill (hfinite _ _ hdistances)
  have hdistance' : ((Relevance.lastValue? vectorIds' distances' x).getD f).IsSingle :=
    Relevance.isSingle_getD_lastValue? hfill (hfinite' _ _ hdistances')
  unfold Relevance.linearCombination
  rw [Relevance.combine_zero hzero hdistance, Relevance.combine_zero hzero hdistance']

theorem mrr_relevance_eq_ok (h : (mrr weightVector weightFts).relevance vector fts = .ok relevance)
    : ∃ vectorIds ftsIds v w,
        vector.ranking = .ok vectorIds
          ∧ fts.ranking = .ok ftsIds
          ∧ weightVector.toSingle = .ok v
          ∧ weightFts.toSingle = .ok w
          ∧ relevance = fun x => .ok (Relevance.meanReciprocalRank v w vectorIds ftsIds x) := by
  unfold Reranker.relevance at h
  simp only [Except.bind_eq_ok_iff, Except.pure_eq_ok_iff] at h
  obtain ⟨vectorIds, hvector, ftsIds, hfts, v, hv, w, hw, rfl⟩ := h
  exact ⟨vectorIds, ftsIds, v, w, hvector, hfts, hv, hw, rfl⟩

theorem mrr_relevance_congr_fts (ha : weightFts.toSingle = .ok a) (hzero : a.dyadic? = some 0)
    (h : (mrr weightVector weightFts).relevance vector fts = .ok relevance)
    (h' : (mrr weightVector weightFts).relevance vector fts' = .ok relevance')
    : relevance' = relevance := by
  obtain ⟨vectorIds, ftsIds, v, w, hvector, _, hv, hw, rfl⟩ := mrr_relevance_eq_ok h
  obtain ⟨vectorIds', ftsIds', v', w', hvector', _, hv', hw', rfl⟩ := mrr_relevance_eq_ok h'
  cases hvector.symm.trans hvector'
  cases hv.symm.trans hv'
  cases ha.symm.trans hw
  cases ha.symm.trans hw'
  funext x
  rw [Relevance.meanReciprocalRank_congr_fts hzero]

theorem mrr_relevance_congr_vector (ha : weightVector.toSingle = .ok a)
    (hzero : a.dyadic? = some 0)
    (h : (mrr weightVector weightFts).relevance vector fts = .ok relevance)
    (h' : (mrr weightVector weightFts).relevance vector' fts = .ok relevance')
    : relevance' = relevance := by
  obtain ⟨vectorIds, ftsIds, v, w, _, hfts, hv, hw, rfl⟩ := mrr_relevance_eq_ok h
  obtain ⟨vectorIds', ftsIds', v', w', _, hfts', hv', hw', rfl⟩ := mrr_relevance_eq_ok h'
  cases hfts.symm.trans hfts'
  cases hw.symm.trans hw'
  cases ha.symm.trans hv
  cases ha.symm.trans hv'
  funext x
  rw [Relevance.meanReciprocalRank_congr_vector hzero]

/-- A side that counts nothing is silent. Under a linear combination its numbers can be any others,
and under the mean reciprocal rank its rows, without a change of the relevance of an identifier. -/
theorem silent_of_extreme (hf : fill.toSingle = .ok f)
    (hfinite : f.isFinite = true)
    : (∀ vector fts fts' result : Batch, weight.toSingle = .ok .one →
        fts.AgreesBut scoreColumn fts' →
        fts.FiniteColumn scoreColumn → fts'.FiniteColumn scoreColumn →
        (linear weight fill).rerank vector fts = .ok result →
        ∃ result', (linear weight fill).rerank vector fts' = .ok result'
          ∧ result.RankedAlike result')
      ∧ (∀ (vector vector' fts result : Batch) (a : Binary), weight.toSingle = .ok a →
        a.dyadic? = some 0 →
        vector.AgreesBut distanceColumn vector' →
        vector.FiniteColumn distanceColumn → vector'.FiniteColumn distanceColumn →
        (linear weight fill).rerank vector fts = .ok result →
        ∃ result', (linear weight fill).rerank vector' fts = .ok result'
          ∧ result.RankedAlike result')
      ∧ (∀ (vector fts fts' result result' : Batch) (a : Binary), weightFts.toSingle = .ok a →
        a.dyadic? = some 0 →
        (mrr weightVector weightFts).rerank vector fts = .ok result →
        (mrr weightVector weightFts).rerank vector fts' = .ok result' →
        ∀ x s s', result.Earns x s → result'.Earns x s' → s' = s)
      ∧ (∀ (vector vector' fts result result' : Batch) (a : Binary),
        weightVector.toSingle = .ok a →
        a.dyadic? = some 0 →
        (mrr weightVector weightFts).rerank vector fts = .ok result →
        (mrr weightVector weightFts).rerank vector' fts = .ok result' →
        ∀ x s s', result.Earns x s → result'.Earns x s' → s' = s) := by
  have hfill : f.IsSingle := by
    obtain ⟨y, _, rfl⟩ := Scalar.toSingle_eq_ok hf
    exact ⟨hfinite, Format.convert_convert⟩
  refine ⟨?_, ?_, ?_, ?_⟩
  . intro vector fts fts' result hone hagrees hcells hcells' h
    obtain ⟨result', h'⟩ := exists_rerank_congr (convertible_linear hone hf) rfl rfl
      hagrees.schema_eq hagrees.rows h
    exact ⟨result', h', rankedAlike_of_relevance (fun _ hids => hids)
      (fun _ => hagrees.ranking_eq_ok (by decide))
      (fun _ _ => linear_relevance_congr_fts hone hf hfill hcells hcells') h h'⟩
  . intro vector vector' fts result a ha hzero hagrees hcells hcells' h
    obtain ⟨result', h'⟩ := exists_rerank_congr (convertible_linear ha hf) hagrees.schema_eq
      hagrees.rows rfl rfl h
    exact ⟨result', h', rankedAlike_of_relevance (fun _ => hagrees.ranking_eq_ok (by decide))
      (fun _ hids => hids)
      (fun _ _ => linear_relevance_congr_vector ha hzero hf hfill hcells hcells') h h'⟩
  . intro vector fts fts' result result' a ha hzero h h' x s s' hx hx'
    exact earns_unique (fun _ _ => mrr_relevance_congr_fts ha hzero) h h' hx hx'
  . intro vector vector' fts result result' a ha hzero h h' x s s' hx hx'
    exact earns_unique (fun _ _ => mrr_relevance_congr_vector ha hzero) h h' hx hx'

/-- The text scores are swapped under a weight of one and the distances under a weight of zero.
Under the mean reciprocal rank, the rows of the side with a weight of zero are replaced by others.
-/
theorem silent_of_extreme_sample
    : let vector := measuredSample distanceColumn [(1, .zero), (2, .one)]
      let fts := measuredSample scoreColumn [(2, .zero), (3, .one)]
      let vectorSwapped := measuredSample distanceColumn [(1, .one), (2, .zero)]
      let ftsSwapped := measuredSample scoreColumn [(2, .one), (3, .zero)]
      let vectorOther := measuredSample distanceColumn [(3, .one), (4, .one), (2, .zero)]
      let ftsOther := measuredSample scoreColumn [(4, .one), (1, .one), (2, .zero)]
      (∃ result result', (linear (.int 1) (.int 0)).rerank vector fts = .ok result
        ∧ (linear (.int 1) (.int 0)).rerank vector ftsSwapped = .ok result'
        ∧ result.RankedAlike result')
      ∧ (∃ result result', (linear (.int 0) (.int 0)).rerank vector fts = .ok result
        ∧ (linear (.int 0) (.int 0)).rerank vectorSwapped fts = .ok result'
        ∧ result.RankedAlike result')
      ∧ (∃ result result', (mrr (.int 1) (.int 0)).rerank vector fts = .ok result
        ∧ (mrr (.int 1) (.int 0)).rerank vector ftsOther = .ok result'
        ∧ ∀ x s s', result.Earns x s → result'.Earns x s' → s' = s)
      ∧ (∃ result result', (mrr (.int 0) (.int 1)).rerank vector fts = .ok result
        ∧ (mrr (.int 0) (.int 1)).rerank vectorOther fts = .ok result'
        ∧ ∀ x s s', result.Earns x s → result'.Earns x s' → s' = s) := by
  intro vector fts vectorSwapped ftsSwapped vectorOther ftsOther
  have hvectorAgrees : vector.AgreesBut distanceColumn vectorSwapped :=
    ⟨rfl, rfl, .cons ⟨rfl, fun _ => rfl⟩ (.cons ⟨rfl, fun h => absurd rfl h⟩ .nil)⟩
  have hftsAgrees : fts.AgreesBut scoreColumn ftsSwapped :=
    ⟨rfl, rfl, .cons ⟨rfl, fun _ => rfl⟩ (.cons ⟨rfl, fun h => absurd rfl h⟩ .nil)⟩
  have hzeroOne : Relevance.FiniteCells [.real .zero, .real .one] :=
    Relevance.finiteCells_map_real [.zero, .one] (by decide)
  have honeZero : Relevance.FiniteCells [.real .one, .real .zero] :=
    Relevance.finiteCells_map_real [.one, .zero] (by decide)
  obtain ⟨hone, _, hftsSilent, _⟩ :=
    @silent_of_extreme (.int 1) (.int 0) (.int 1) (.int 0) .zero rfl rfl
  obtain ⟨_, hzero, _, hvectorSilent⟩ :=
    @silent_of_extreme (.int 0) (.int 0) (.int 0) (.int 1) .zero rfl rfl
  refine ⟨?_, ?_, ?_, ?_⟩
  . obtain ⟨result, h⟩ : ∃ result, (linear (.int 1) (.int 0)).rerank vector fts = .ok result :=
      exists_rerank (relevance_linear rfl rfl rfl rfl) rfl rfl (fun _ _ => ⟨_, rfl⟩) (by decide)
        (by decide)
    obtain ⟨result', h', halike⟩ := hone vector fts ftsSwapped result rfl hftsAgrees
      (Batch.finiteColumn_of_scored rfl hzeroOne) (Batch.finiteColumn_of_scored rfl honeZero) h
    exact ⟨result, result', h, h', halike⟩
  . obtain ⟨result, h⟩ : ∃ result, (linear (.int 0) (.int 0)).rerank vector fts = .ok result :=
      exists_rerank (relevance_linear rfl rfl rfl rfl) rfl rfl (fun _ _ => ⟨_, rfl⟩) (by decide)
        (by decide)
    obtain ⟨result', h', halike⟩ := hzero vector vectorSwapped fts result .zero rfl rfl
      hvectorAgrees (Batch.finiteColumn_of_scored rfl hzeroOne)
      (Batch.finiteColumn_of_scored rfl honeZero) h
    exact ⟨result, result', h, h', halike⟩
  . obtain ⟨result, h⟩ : ∃ result, (mrr (.int 1) (.int 0)).rerank vector fts = .ok result :=
      exists_rerank rfl rfl rfl (fun _ _ => ⟨_, rfl⟩) (by decide) (by decide)
    obtain ⟨result', h'⟩ : ∃ result, (mrr (.int 1) (.int 0)).rerank vector ftsOther = .ok result :=
      exists_rerank rfl rfl rfl (fun _ _ => ⟨_, rfl⟩) (by decide) (by decide)
    exact ⟨result, result', h, h', hftsSilent _ _ _ _ _ .zero rfl rfl h h'⟩
  . obtain ⟨result, h⟩ : ∃ result, (mrr (.int 0) (.int 1)).rerank vector fts = .ok result :=
      exists_rerank rfl rfl rfl (fun _ _ => ⟨_, rfl⟩) (by decide) (by decide)
    obtain ⟨result', h'⟩ : ∃ result, (mrr (.int 0) (.int 1)).rerank vectorOther fts = .ok result :=
      exists_rerank rfl rfl rfl (fun _ _ => ⟨_, rfl⟩) (by decide) (by decide)
    exact ⟨result, result', h, h', hvectorSilent _ _ _ _ _ .zero rfl rfl h h'⟩

end Reranker

end RankFusion
