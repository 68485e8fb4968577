import Mathlib.Data.List.Nodup
import RankFusion.Proofs.Rerank.Dominance
import RankFusion.Proofs.Rerank.Finite

/-!
This module contains the direction of linear scoring. The blend of similarity and text score is
taken from one, so a row that is no farther and matches the text no less is no more relevant,
however the operations are rounded. It comes behind, unless the two rows are equally relevant.
-/

namespace RankFusion

namespace Binary

variable {x : Binary}

/--
Whether a value is a number in single precision.
-/
structure IsSingle (x : Binary) : Prop where
  isFinite : x.isFinite = true
  rounded : Format.single.convert x = x

theorem IsSingle.within (h : x.IsSingle) : x.Within (-greatest) greatest :=
  within_greatest h.rounded h.isFinite

end Binary

namespace Relevance

variable {weight distance distance' score score' fill : Binary} {ids : Ranking} {cells : List Value}
  {id : Int}

set_option maxRecDepth 2000 in
theorem within_similarity (h : distance.IsSingle)
    : (Format.single.sub .one distance).Within (-greatest) greatest :=
  Format.within_sub Binary.within_one h.within (by decide) (by decide)

theorem within_complement (h : weight.InUnit) : (Format.single.sub .one weight).Within 0 1 :=
  Format.within_sub Binary.within_one h.within (by decide) (by decide)

set_option maxRecDepth 2000 in
theorem within_share (hweight : weight.Within 0 1) (h : score.Within (-greatest) greatest)
    : (Format.single.mul weight score).Within (-greatest) greatest :=
  Format.within_mul hweight h (by decide) (by decide) (by decide) (by decide)

def blend (weight distance score : Binary) : Binary :=
  Format.single.add (Format.single.mul weight (Format.single.sub .one distance))
    (Format.single.mul (Format.single.sub .one weight) score)

theorem combine_eq
    : combine weight distance score = Format.single.sub .one (blend weight distance score) :=
  rfl

theorem isNaN_blend (hweight : weight.InUnit) (hdistance : distance.IsSingle)
    (hscore : score.IsSingle)
    : (blend weight distance score).isNaN = false :=
  Format.isNaN_add (within_share hweight.within (within_similarity hdistance)).bot_lt
    (within_share (within_complement hweight) hscore.within).bot_lt

theorem extended_blend_le (hweight : weight.InUnit) (hdistance : distance.IsSingle)
    (hdistance' : distance'.IsSingle) (hscore : score.IsSingle) (hscore' : score'.IsSingle)
    (hcloser : distance.le distance' = true) (hbetter : score'.le score = true)
    : (blend weight distance' score').extended ≤ (blend weight distance score).extended := by
  have hsimilarity : (Format.single.sub .one distance').extended ≤
      (Format.single.sub .one distance).extended := by
    obtain ⟨hnumber, hnumber', hle⟩ := Binary.le_iff.1 hcloser
    exact Format.extended_sub_anti Binary.within_one hnumber hnumber' hle
  unfold blend
  apply Format.extended_add_mono
  . exact (within_share hweight.within (within_similarity hdistance')).bot_lt
  . exact (within_share (within_complement hweight) hscore'.within).bot_lt
  . exact Format.extended_mul_mono_within hweight.within (within_similarity hdistance')
      (within_similarity hdistance) hsimilarity
  . exact Format.extended_mul_mono_within (within_complement hweight) hscore'.within
      hscore.within (Binary.le_iff.1 hbetter).2.2

theorem combine_le (hweight : weight.InUnit) (hdistance : distance.IsSingle)
    (hdistance' : distance'.IsSingle) (hscore : score.IsSingle) (hscore' : score'.IsSingle)
    (hcloser : distance.le distance' = true) (hbetter : score'.le score = true)
    : (combine weight distance score).le (combine weight distance' score') = true := by
  have hnumber := isNaN_blend hweight hdistance hscore
  have hnumber' := isNaN_blend hweight hdistance' hscore'
  rw [combine_eq, combine_eq]
  refine Binary.le_iff.2 ⟨Format.isNaN_sub_of_within Binary.within_one hnumber,
    Format.isNaN_sub_of_within Binary.within_one hnumber', ?_⟩
  exact Format.extended_sub_anti Binary.within_one hnumber' hnumber
    (extended_blend_le hweight hdistance hdistance' hscore hscore' hcloser hbetter)

def FiniteCells (cells : List Value) : Prop :=
  ∀ v ∈ cells, ∀ x, ofCell? v = some x → x.isFinite = true

theorem finiteCells_map_real (scores : List Binary)
    (h : ∀ x ∈ scores, (Format.single.convert x).isFinite = true)
    : FiniteCells (scores.map .real) := by
  intro v hv x hx
  obtain ⟨y, hy, rfl⟩ := List.mem_map.1 hv
  cases hx
  exact h y hy

theorem convert_of_ofCell? {v : Value} {x : Binary} (h : ofCell? v = some x)
    : Format.single.convert x = x := by
  cases v with
  | int n =>
    cases h
    exact Format.convert_convert
  | real y =>
    cases h
    exact Format.convert_convert
  | _ => cases h

theorem isSingle_getD_lastValue? (hfill : fill.IsSingle) (hcells : FiniteCells cells)
    : ((lastValue? ids cells id).getD fill).IsSingle := by
  cases h : lastValue? ids cells id with
  | none => exact hfill
  | some x =>
    obtain ⟨⟨y, v⟩, hmem, hv⟩ := List.mem_filterMap.1 (List.mem_of_getLast? h)
    dsimp only at hv
    split at hv
    . exact ⟨hcells v (List.of_mem_zip hmem).2 x hv, convert_of_ofCell? hv⟩
    . cases hv

end Relevance

namespace Ranking

variable {vector fts : Ranking}

theorem nodup_mergedIds (hvector : vector.Nodup) (hfts : fts.Nodup)
    : (mergedIds vector fts).Nodup := by
  unfold mergedIds
  split
  . exact hfts
  . rw [List.nodup_append]
    refine ⟨hvector, ?_, ?_⟩
    . apply List.Nodup.map_on _ ((pairwise_unseenPositions _ fts).imp Nat.ne_of_lt)
      intro i hi j hj heq
      obtain ⟨x, hx, _⟩ := Batch.MergeOf.mem_kept_iff.1 hi
      obtain ⟨y, hy, _⟩ := Batch.MergeOf.mem_kept_iff.1 hj
      rw [List.getD_eq_getElem?_getD, List.getD_eq_getElem?_getD, hx, hy] at heq
      cases heq
      obtain ⟨hlt, _⟩ := List.getElem?_eq_some_iff.1 hx
      exact (List.getElem?_inj hlt hfts).1 (hx.trans hy.symm)
    . intro a ha b hb heq
      obtain ⟨j, hj, rfl⟩ := List.mem_map.1 hb
      obtain ⟨x, hx, hnew, _⟩ := Batch.MergeOf.mem_kept_iff.1 hj
      rw [List.getD_eq_getElem?_getD, hx, Option.getD_some] at heq
      rw [heq] at ha
      exact hnew ha

theorem position_of_nodup {ids : Ranking} (h : ids.Nodup) {positions : List Nat} {x : Int}
    {p i : Nat} (hp : ids[p]? = some (some x))
    (hi : (positions.map fun i => ids.getD i none)[i]? = some (some x))
    : positions[i]? = some p ∧ ids.getD p none = some x := by
  rw [List.getElem?_map, Option.map_eq_some_iff] at hi
  obtain ⟨q, hq, hx⟩ := hi
  obtain ⟨hlt, _⟩ := List.getElem?_eq_some_iff.1 hp
  have heq : p = q := (List.getElem?_inj hlt h).1 (hp.trans (getElem?_of_getD hx).symm)
  rw [← heq] at hq hx
  exact ⟨hq, hx⟩

end Ranking

theorem Binary.order_of_pairwise {positions : List Nat} {score : Nat → Binary} {i j p q : Nat}
    (horder : positions.Pairwise fun p q =>
      (score p).Outranks (score q) ∨ ((score p).Ties (score q) ∧ p < q))
    (hp : positions[i]? = some p) (hq : positions[j]? = some q)
    (hle : (score p).le (score q) = true)
    : ((score p).eq (score q) = false → j < i)
        ∧ ((score p).eq (score q) = true → (i < j ↔ p < q)) := by
  obtain ⟨hnumber, _, _⟩ := Binary.le_iff.1 hle
  have hbefore : i < j → (score p).Ties (score q) ∧ p < q := by
    intro hij
    obtain ⟨hi, rfl⟩ := List.getElem?_eq_some_iff.1 hp
    obtain ⟨hj, rfl⟩ := List.getElem?_eq_some_iff.1 hq
    obtain hbetter | hties := List.pairwise_iff_getElem.1 horder i j hi hj hij
    . exact absurd hbetter (not_outranks_of_le hle)
    . exact hties
  constructor
  . intro hne
    rcases Nat.lt_trichotomy i j with hij | rfl | hji
    . obtain ⟨heq | ⟨hnan, _⟩, _⟩ := hbefore hij
      . rw [heq] at hne
        cases hne
      . rw [hnan] at hnumber
        cases hnumber
    . rw [hp] at hq
      cases hq
      rw [Binary.eq, hle] at hne
      cases hne
    . exact hji
  . intro heq
    rw [Binary.eq, Bool.and_eq_true] at heq
    exact ⟨fun hij => (hbefore hij).2, fun hpq => lt_of_pairwise horder hp hq hpq heq.2⟩

namespace Reranker

variable {weight fill : Scalar} {v w : Value} {a f : Binary} {vector fts result : Batch}
  {vectorIds ftsIds : Ranking} {distances scores : List Value}

theorem relevance_linear (hweight : weight.toSingle = .ok a) (hfill : fill.toSingle = .ok f)
    (hdistances : vector.scored distanceColumn = .ok (vectorIds, distances))
    (hscores : fts.scored scoreColumn = .ok (ftsIds, scores))
    : (linear weight fill).relevance vector fts = .ok fun x =>
        .ok (Relevance.linearCombination a f (Relevance.lastValue? vectorIds distances x)
          (Relevance.lastValue? ftsIds scores x)) := by
  unfold relevance
  simp only [hweight, hfill, hdistances, hscores]
  rfl

/--
Whether a batch has distinct identifiers with numbers, all of which are numbers in single precision,
too. A row may be without a number.
-/
structure Measures (b : Batch) (column : String) (ids : Ranking) (cells : List Value) : Prop where
  scored : b.scored column = .ok (ids, cells)
  nodup : ids.Nodup
  finite : Relevance.FiniteCells cells

theorem ranking_of_scored {b : Batch} {column : String} {ids : Ranking} {cells : List Value}
    (h : b.scored column = .ok (ids, cells))
    : b.ranking = .ok ids := by
  unfold Batch.scored at h
  unfold Batch.ranking
  split at h
  . next hrows =>
    cases h
    exact if_pos hrows
  . next hrows =>
    obtain ⟨ids', hids, h⟩ := Except.bind_eq_ok_iff.1 h
    obtain ⟨_, _, h⟩ := Except.bind_eq_ok_iff.1 h
    cases h
    rw [if_neg hrows]
    exact hids

theorem order_of_rerank {r : Reranker} (hnodup : ∀ merged ids, vector.merge fts = .ok merged →
      merged.rowIds = .ok ids → ids.Nodup)
    (h : r.rerank vector fts = .ok result)
    : ∃ (relevance : Int → Except Failure Binary) (merged : Batch) (ids sorted : Ranking)
        (relevances : List Binary),
        r.relevance vector fts = .ok relevance
          ∧ vector.merge fts = .ok merged
          ∧ merged.rowIds = .ok ids
          ∧ result.rowIds = .ok sorted
          ∧ result.cells relevanceColumn = .ok ⟨.float32, relevances.map .real⟩
          ∧ ∀ (x y : Int) (p q i j : Nat) (s t : Binary),
              ids[p]? = some (some x) → ids[q]? = some (some y) →
              sorted[i]? = some (some x) → sorted[j]? = some (some y) →
              relevance x = .ok s → relevance y = .ok t → s.le t = true →
              relevances[i]? = some s ∧ relevances[j]? = some t
                ∧ (s.eq t = false → j < i)
                ∧ (s.eq t = true → (i < j ↔ p < q)) := by
  obtain ⟨relevance, merged, ids, hlength, hrelevance, hmerged, hids, _, hnames, rfl⟩ :=
    rerank_eq_ok h
  have hperm := descendingPositions_perm ((ids.map (Batch.scoreOf relevance)).map .real)
  have horder := Batch.pairwise_scores ids (Batch.scoreOf relevance)
  rw [List.length_map, List.length_map] at hperm
  generalize descendingPositions ((ids.map (Batch.scoreOf relevance)).map .real) = positions
    at hperm horder h ⊢
  have hdistinct := hnodup merged ids hmerged hids
  refine ⟨relevance, merged, ids, _,
    positions.map fun i => Batch.scoreOf relevance (ids.getD i none), hrelevance, hmerged, hids,
    Batch.rowIds_gather (Batch.rowIds_withScores (by decide) hids), ?_, ?_⟩
  . rw [List.map_map, Batch.cells_gather (Batch.cells_withScores_self hnames)]
    unfold Cells.gather
    dsimp only
    rw [Batch.map_getD_scores fun i hi => List.mem_range.1 (hperm.mem_iff.1 hi)]
    rfl
  . intro x y p q i j s t hp hq hi hj hs ht hle
    obtain ⟨hi, hx⟩ := Ranking.position_of_nodup hdistinct hp hi
    obtain ⟨hj, hy⟩ := Ranking.position_of_nodup hdistinct hq hj
    have hsx : Batch.scoreOf relevance (ids.getD p none) = s := by
      rw [hx]
      exact Batch.scoreOf_some hs
    have hty : Batch.scoreOf relevance (ids.getD q none) = t := by
      rw [hy]
      exact Batch.scoreOf_some ht
    rw [← hsx, ← hty] at hle ⊢
    refine ⟨?_, ?_, Binary.order_of_pairwise horder hi hj hle⟩
    . rw [List.getElem?_map, hi, Option.map_some]
    . rw [List.getElem?_map, hj, Option.map_some]

/-- A row that is no farther than another one and matches the text no less is no more relevant under
a linear combination. It comes behind the other one, unless the two are equally relevant and stay in
the order of the merge. -/
theorem linear_monotone (hmade : ofWeights v w = .ok (linear weight fill))
    : ∃ a, weight.toSingle = .ok a
        ∧ (∀ f d d' s s' : Binary, d.IsSingle → d'.IsSingle → s.IsSingle → s'.IsSingle →
            d.le d' = true → s'.le s = true →
            (Relevance.linearCombination a f (some d) (some s)).le
              (Relevance.linearCombination a f (some d') (some s')) = true)
        ∧ ∀ f vector fts result vectorIds distances ftsIds scores,
            fill.toSingle = .ok f → f.isFinite = true →
            Measures vector distanceColumn vectorIds distances →
            Measures fts scoreColumn ftsIds scores →
            (linear weight fill).rerank vector fts = .ok result →
            ∃ (merged : Batch) (ids sorted : Ranking) (relevances : List Binary),
              vector.merge fts = .ok merged
                ∧ merged.rowIds = .ok ids
                ∧ result.rowIds = .ok sorted
                ∧ result.cells relevanceColumn = .ok ⟨.float32, relevances.map .real⟩
                ∧ ∀ (x y : Int) (p q i j : Nat),
                    ids[p]? = some (some x) → ids[q]? = some (some y) →
                    sorted[i]? = some (some x) → sorted[j]? = some (some y) →
                    ((Relevance.lastValue? vectorIds distances x).getD f).le
                      ((Relevance.lastValue? vectorIds distances y).getD f) = true →
                    ((Relevance.lastValue? ftsIds scores y).getD f).le
                      ((Relevance.lastValue? ftsIds scores x).getD f) = true →
                    ∃ s t : Binary, relevances[i]? = some s ∧ relevances[j]? = some t
                      ∧ s.le t = true
                      ∧ (s.eq t = false → j < i)
                      ∧ (s.eq t = true → (i < j ↔ p < q)) := by
  obtain ⟨weight', fill', heq, hunit, _⟩ := ofWeights_eq_ok hmade
  cases heq
  obtain ⟨a, ha⟩ := Scalar.exists_toSingle_of_inUnit hunit
  have hweight := Scalar.inUnit_of_toSingle hunit ha
  refine ⟨a, ha, ?_, ?_⟩
  . intro f d d' s s' hd hd' hs hs' hcloser hbetter
    exact Relevance.combine_le hweight hd hd' hs hs' hcloser hbetter
  . intro f vector fts result vectorIds distances ftsIds scores hf hfinite hvector hfts h
    have hfill : f.IsSingle := by
      obtain ⟨y, _, rfl⟩ := Scalar.toSingle_eq_ok hf
      exact ⟨hfinite, Format.convert_convert⟩
    have hnodup : ∀ merged ids, vector.merge fts = .ok merged → merged.rowIds = .ok ids →
        ids.Nodup := by
      intro merged ids hmerged hids
      rw [Batch.ids_eq_mergedIds (ranking_of_scored hvector.scored)
        (ranking_of_scored hfts.scored) hmerged hids]
      exact Ranking.nodup_mergedIds hvector.nodup hfts.nodup
    obtain ⟨relevance, merged, ids, sorted, relevances, hrelevance, hmerged, hids, hsorted, hcells,
      horder⟩ := order_of_rerank hnodup h
    rw [relevance_linear ha hf hvector.scored hfts.scored] at hrelevance
    cases hrelevance
    refine ⟨merged, ids, sorted, relevances, hmerged, hids, hsorted, hcells, ?_⟩
    intro x y p q i j hp hq hi hj hcloser hbetter
    have hle := Relevance.combine_le hweight
      (Relevance.isSingle_getD_lastValue? hfill hvector.finite)
      (Relevance.isSingle_getD_lastValue? hfill hvector.finite)
      (Relevance.isSingle_getD_lastValue? hfill hfts.finite)
      (Relevance.isSingle_getD_lastValue? hfill hfts.finite) hcloser hbetter
    obtain ⟨hs, ht, hplaces⟩ := horder x y p q i j _ _ hp hq hi hj rfl rfl hle
    exact ⟨_, _, hs, ht, hle, hplaces⟩

def measuredSample (column : String) (rows : List (Int × Binary)) : Batch where
  columns := [⟨⟨rowIdColumn, .uint64, false⟩, rows.map fun e => .int e.1⟩,
    ⟨⟨column, .float32, true⟩, rows.map fun e => .real e.2⟩]
  metadata := none
  aligned := by simp [rowCount]

/-- The first row is closer and matches the text, and the second one does neither. -/
theorem linear_monotone_sample
    : let vector := measuredSample distanceColumn [(1, .zero), (2, .one)]
      let fts := measuredSample scoreColumn [(2, .zero), (1, .one)]
      ofWeights (.int 1) (.int 0) = .ok (linear (.int 1) (.int 0))
        ∧ Measures vector distanceColumn [some 1, some 2] [.real .zero, .real .one]
        ∧ Measures fts scoreColumn [some 2, some 1] [.real .zero, .real .one]
        ∧ ∃ (result : Batch) (sorted : Ranking) (relevances : List Binary),
            (linear (.int 1) (.int 0)).rerank vector fts = .ok result
              ∧ result.rowIds = .ok sorted
              ∧ result.cells relevanceColumn = .ok ⟨.float32, relevances.map .real⟩
              ∧ ∀ i j : Nat, sorted[i]? = some (some 1) → sorted[j]? = some (some 2) →
                  ∃ s t : Binary, relevances[i]? = some s ∧ relevances[j]? = some t
                    ∧ s.le t = true ∧ (s.eq t = false → j < i) := by
  intro vector fts
  have hmade : ofWeights (.int 1) (.int 0) = .ok (linear (.int 1) (.int 0)) := by rfl
  have hfinite : Relevance.FiniteCells [.real .zero, .real .one] :=
    Relevance.finiteCells_map_real [.zero, .one] (by decide)
  have hvector : Measures vector distanceColumn [some 1, some 2] [.real .zero, .real .one] :=
    ⟨rfl, by decide, hfinite⟩
  have hfts : Measures fts scoreColumn [some 2, some 1] [.real .zero, .real .one] :=
    ⟨rfl, by decide, hfinite⟩
  obtain ⟨result, h⟩ : ∃ result, (linear (.int 1) (.int 0)).rerank vector fts = .ok result :=
    exists_rerank (relevance_linear rfl rfl hvector.scored hfts.scored) rfl rfl
      (fun _ _ => ⟨_, rfl⟩) (by decide) (by decide)
  obtain ⟨_, _, _, hlinear⟩ := linear_monotone hmade
  obtain ⟨merged, ids, sorted, relevances, hmerged, hids, hsorted, hcells, horder⟩ :=
    hlinear _ _ _ _ _ _ _ _ rfl (by decide) hvector hfts h
  cases hmerged
  cases hids
  refine ⟨hmade, hvector, hfts, result, sorted, relevances, h, hsorted, hcells, ?_⟩
  intro i j hi hj
  obtain ⟨s, t, hs, ht, hle, hbehind, _⟩ :=
    horder 1 2 0 1 i j rfl rfl hi hj (by decide) (by decide)
  exact ⟨s, t, hs, ht, hle, hbehind⟩

end Reranker

end RankFusion
