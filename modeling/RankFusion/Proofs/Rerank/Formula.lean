import RankFusion.Rerank.Fuse

/-!
This module contains the relevance of a row identifier as a formula: of all its positions on both
sides, of the last ones, or of what is measured there. No table is filled for it.
-/

namespace RankFusion

namespace Ranking

def positions (ids : Ranking) (id : Int) : List Nat :=
  ids.zipIdx.filterMap fun (x, i) => if x = some id then some i else none

end Ranking

namespace Relevance

def reciprocalRankFusion (k : Binary) (vector fts : Ranking) (id : Int) : Binary :=
  ((vector.positions id ++ fts.positions id).map (fusionShare k)).foldl Format.single.add .zero

/--
The reciprocal of the one-based rank of an identifier's last row, zero if there is none.
-/
def reciprocalRank (ids : Ranking) (id : Int) : Binary :=
  match (ids.positions id).getLast? with
  | some rank => Format.single.div .one (ofRank (rank + 1))
  | none => .zero

def meanReciprocalRank (weightVector weightFts : Binary) (vector fts : Ranking) (id : Int) :
    Binary :=
  Format.single.add (Format.single.mul weightVector (reciprocalRank vector id))
    (Format.single.mul weightFts (reciprocalRank fts id))

def lastValue? (ids : Ranking) (cells : List Value) (id : Int) : Option Binary :=
  ((ids.zip cells).filterMap fun (x, v) => if x = some id then ofCell? v else none).getLast?

end Relevance

namespace Reranker

def relevance (r : Reranker) (vector fts : Batch) :
    Except Failure (Int → Except Failure Binary) := do
  match r with
  | rrf k =>
    let k ← k.toSingle
    let vectorIds ← vector.ranking
    let ftsIds ← fts.ranking
    return fun id => .ok (Relevance.reciprocalRankFusion k vectorIds ftsIds id)
  | linear weight fill =>
    let (vectorIds, distances) ← vector.scored distanceColumn
    let (ftsIds, scores) ← fts.scored scoreColumn
    return fun id => do
      let weight ← weight.toSingle
      let fill ← fill.toSingle
      return Relevance.linearCombination weight fill (Relevance.lastValue? vectorIds distances id)
        (Relevance.lastValue? ftsIds scores id)
  | mrr weightVector weightFts =>
    let vectorIds ← vector.ranking
    let ftsIds ← fts.ranking
    let weightVector ← weightVector.toSingle
    let weightFts ← weightFts.toSingle
    return fun id => .ok (Relevance.meanReciprocalRank weightVector weightFts vectorIds ftsIds id)

end Reranker

end RankFusion
