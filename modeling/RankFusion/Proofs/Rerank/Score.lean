import RankFusion.Proofs.Rerank.Failure

/-!
This module contains the score of every row of a fusion. It is found for every identifier of the
merge, and it is the formula of the strategy, with all repeated and absent identifiers and all
absent distances and scores accounted for.
-/

namespace RankFusion

namespace Reranker

variable {r : Reranker} {vector fts merged : Batch} {ids : Ranking} {score : Int → Binary}

/--
Whether a strategy finds the given scores for all identifiers of some rows, and attaches them to
those rows.
-/
structure Attaches (r : Reranker) (vector fts : Batch) (ids : Ranking) (score : Int → Binary) :
    Prop where
  found :
    ∃ lookup, r.scoring vector fts = .ok lookup ∧ ∀ x, some x ∈ ids → lookup x = .ok (score x)
  /-- A row without an identifier has the score zero. -/
  attached :
    ∀ result, r.rerank vector fts = .ok result →
      ∃ sorted : Ranking,
        sorted.Perm ids
          ∧ result.rowIds = .ok sorted
          ∧ result.cells relevanceColumn =
              .ok ⟨.float32, sorted.map fun x => .real ((x.map score).getD .zero)⟩

theorem Attaches.of_relevance {lookup relevance : Int → Except Failure Binary}
    (hmerged : vector.merge fts = .ok merged) (hids : merged.rowIds = .ok ids)
    (hlookup : r.scoring vector fts = .ok lookup)
    (hfound : ∀ x, some x ∈ ids → lookup x = .ok (score x))
    (hrelevance : r.relevance vector fts = .ok relevance)
    (hscore : ∀ x, relevance x = .ok (score x))
    : r.Attaches vector fts ids score := by
  refine ⟨⟨lookup, hlookup, hfound⟩, ?_⟩
  intro result h
  obtain ⟨_, _, _, sorted, hrelevance', hmerged', hids', _, _, hsorted, hperm, hcells⟩ :=
    rows_of_rerank h
  cases hrelevance.symm.trans hrelevance'
  cases hmerged.symm.trans hmerged'
  cases hids.symm.trans hids'
  refine ⟨sorted, hperm, hsorted, ?_⟩
  rw [hcells, List.map_map]
  congr 3
  funext x
  cases x with
  | none => rfl
  | some x => exact congrArg Value.real (Batch.scoreOf_some (hscore x))

section Strategies

variable {vectorIds ftsIds : Ranking}

theorem attaches_rrf (hmerged : vector.merge fts = .ok merged) (hids : merged.rowIds = .ok ids)
    (hvector : vector.ranking = .ok vectorIds) (hfts : fts.ranking = .ok ftsIds)
    (hsides : ∀ x, some x ∈ ids → some x ∈ vectorIds ∨ some x ∈ ftsIds) {k : Scalar} {c : Binary}
    (hk : k.toSingle = .ok c)
    : (rrf k).Attaches vector fts ids (Relevance.reciprocalRankFusion c vectorIds ftsIds) := by
  refine .of_relevance hmerged hids ?_ (fun x hx => ScoreTable.get_ofShares (hsides x hx)) ?_
    fun _ => rfl
  . unfold scoring
    simp only [hk, hvector, hfts]
    rfl
  . unfold relevance
    simp only [hk, hvector, hfts]
    rfl

theorem attaches_mrr (hmerged : vector.merge fts = .ok merged) (hids : merged.rowIds = .ok ids)
    (hvector : vector.ranking = .ok vectorIds) (hfts : fts.ranking = .ok ftsIds)
    (hsides : ∀ x, some x ∈ ids → some x ∈ vectorIds ∨ some x ∈ ftsIds)
    {weightVector weightFts : Scalar} {v f : Binary} (hv : weightVector.toSingle = .ok v)
    (hf : weightFts.toSingle = .ok f)
    : (mrr weightVector weightFts).Attaches vector fts ids
        (Relevance.meanReciprocalRank v f vectorIds ftsIds) := by
  refine .of_relevance hmerged hids ?_ (fun x hx => ScoreTable.get_weigh (hsides x hx)) ?_
    fun _ => rfl
  . unfold scoring
    simp only [hv, hf, hvector, hfts]
    rfl
  . unfold relevance
    simp only [hv, hf, hvector, hfts]
    rfl

theorem attaches_linear (hmerged : vector.merge fts = .ok merged) (hids : merged.rowIds = .ok ids)
    {weight fill : Scalar} {w d : Binary} {distances scores : List Value}
    (hw : weight.toSingle = .ok w) (hd : fill.toSingle = .ok d)
    (hdistances : vector.scored distanceColumn = .ok (vectorIds, distances))
    (hscores : fts.scored scoreColumn = .ok (ftsIds, scores))
    : (linear weight fill).Attaches vector fts ids fun x =>
        Relevance.linearCombination w d (Relevance.lastValue? vectorIds distances x)
          (Relevance.lastValue? ftsIds scores x) := by
  have hlinear : (linear weight fill).relevance vector fts = .ok fun x =>
      .ok (Relevance.linearCombination w d (Relevance.lastValue? vectorIds distances x)
        (Relevance.lastValue? ftsIds scores x)) := by
    unfold relevance
    simp only [hw, hd, hdistances, hscores]
    rfl
  have hscoring : (linear weight fill).scoring vector fts =
      (linear weight fill).relevance vector fts := by
    unfold scoring relevance
    simp only [ScoreTable.lookup_ofCells]
  exact .of_relevance hmerged hids (hscoring.trans hlinear) (fun _ _ => rfl) hlinear fun _ => rfl

end Strategies

theorem score_exact (hmerged : vector.merge fts = .ok merged) (hids : merged.rowIds = .ok ids)
    : let single := Format.single
      let whole (n : Nat) := single.convert (Format.double.ofInt n)
      let lastShare (ids : Ranking) (x : Int) :=
        match (ids.positions x).getLast? with
        | some rank => single.div .one (whole (rank + 1))
        | none => .zero
      ∃ vectorIds ftsIds : Ranking,
        vector.ranking = .ok vectorIds
          ∧ fts.ranking = .ok ftsIds
          -- no identifier is looked up in vain
          ∧ (∀ (r : Reranker) (x : Int), r.rerank vector fts ≠ .error (.operand (.missingId x)))
          -- the shares of all rows of an identifier, those of the vector side first
          ∧ (∀ k c, k.toSingle = .ok c →
              (rrf k).Attaches vector fts ids fun x =>
                ((vectorIds.positions x ++ ftsIds.positions x).map fun rank =>
                  single.div .one (single.add (whole rank) c)).foldl single.add .zero)
          -- the reciprocal ranks of the last rows of an identifier
          ∧ (∀ weightVector weightFts v f,
              weightVector.toSingle = .ok v →
              weightFts.toSingle = .ok f →
              (mrr weightVector weightFts).Attaches vector fts ids fun x =>
                single.add (single.mul v (lastShare vectorIds x))
                  (single.mul f (lastShare ftsIds x)))
          -- the distance and the score of the last rows of an identifier that have one
          ∧ (∀ weight fill w d distances scores,
              weight.toSingle = .ok w →
              fill.toSingle = .ok d →
              vector.scored distanceColumn = .ok (vectorIds, distances) →
              fts.scored scoreColumn = .ok (ftsIds, scores) →
              (linear weight fill).Attaches vector fts ids fun x =>
                let distance := (Relevance.lastValue? vectorIds distances x).getD d
                let score := (Relevance.lastValue? ftsIds scores x).getD d
                single.sub .one (single.add (single.mul w (single.sub .one distance))
                  (single.mul (single.sub .one w) score))) := by
  intro single whole lastShare
  obtain ⟨vectorIds, ftsIds, hvector, hfts, hmergedIds⟩ := Batch.ids_of_merge hmerged hids
  have hsides : ∀ x, some x ∈ ids → some x ∈ vectorIds ∨ some x ∈ ftsIds := by
    intro x hx
    rw [hmergedIds] at hx
    exact Ranking.mem_mergedIds.1 hx
  refine ⟨vectorIds, ftsIds, hvector, hfts, ?_, ?_, ?_, ?_⟩
  . intro r x h
    obtain hcolumn | ⟨hdata, _⟩ | ⟨hlarge, _⟩ := fails_fusion _ h
    . cases hcolumn
    . cases hdata
    . cases hlarge
  . intro k c hk
    exact attaches_rrf hmerged hids hvector hfts hsides hk
  . intro weightVector weightFts v f hv hf
    exact attaches_mrr hmerged hids hvector hfts hsides hv hf
  . intro weight fill w d distances scores hw hd hdistances hscores
    exact attaches_linear hmerged hids hw hd hdistances hscores

theorem score_exact_sample
    : let half : Binary := .finite (.ofIntWithPrec 1 1)
      let quarter : Binary := .finite (.ofIntWithPrec 1 2)
      ∃ merged rrfScore mrrScore linearScore,
        distanceSample.merge scoreSample = .ok merged
          ∧ merged.rowIds = .ok [some 7, none, some 7, some 2]
          -- one, a third and a half, each rounded
          ∧ (rrf (.int 1)).scoring distanceSample scoreSample = .ok rrfScore
          ∧ rrfScore 7 = .ok (.finite (.ofIntWithPrec 15379115 23))
          -- the half of a third
          ∧ (mrr (.real half) (.real half)).scoring distanceSample scoreSample = .ok mrrScore
          ∧ mrrScore 2 = .ok (.finite (.ofIntWithPrec 11184811 26))
          -- seven eighths and five eighths
          ∧ (linear (.real half) (.real quarter)).scoring distanceSample scoreSample =
              .ok linearScore
          ∧ linearScore 7 = .ok (.finite (.ofIntWithPrec 7 3))
          ∧ linearScore 2 = .ok (.finite (.ofIntWithPrec 5 3)) := by
  intro half quarter
  have hids : ∃ merged, distanceSample.merge scoreSample = .ok merged
      ∧ merged.rowIds = .ok [some 7, none, some 7, some 2] := ⟨_, rfl, rfl⟩
  obtain ⟨merged, hmerged, hids⟩ := hids
  obtain ⟨_, _, hvector, hfts, _, hrrf, hmrr, hlinear⟩ := score_exact hmerged hids
  cases hvector
  cases hfts
  have hone : (Scalar.int 1).toSingle = .ok .one := by rfl
  have hhalf : (Scalar.real half).toSingle = .ok half := by rfl
  have hquarter : (Scalar.real quarter).toSingle = .ok quarter := by rfl
  obtain ⟨rrfScore, hrrfScore, hrrfFound⟩ := (hrrf _ _ hone).found
  obtain ⟨mrrScore, hmrrScore, hmrrFound⟩ := (hmrr _ _ _ _ hhalf hhalf).found
  obtain ⟨linearScore, hlinearScore, hlinearFound⟩ :=
    (hlinear _ _ _ _ _ _ hhalf hquarter rfl rfl).found
  refine ⟨merged, rrfScore, mrrScore, linearScore, hmerged, hids, hrrfScore, ?_, hmrrScore, ?_,
    hlinearScore, ?_, ?_⟩
  . exact (hrrfFound 7 (by decide)).trans (congrArg Except.ok (by decide +kernel))
  . exact (hmrrFound 2 (by decide)).trans (congrArg Except.ok (by decide +kernel))
  . exact (hlinearFound 7 (by decide)).trans (congrArg Except.ok (by decide +kernel))
  . exact (hlinearFound 2 (by decide)).trans (congrArg Except.ok (by decide +kernel))

end Reranker

end RankFusion
