import RankFusion.Batch.Merge
import RankFusion.Batch.Sort
import RankFusion.Rerank.Table

/-!
This module contains the fusion of two ranked batches: they are merged, every row is given the
relevance of its identifier, and the rows are sorted by it.
-/

namespace RankFusion

namespace Batch

/--
The row identifiers of a batch. A batch without rows needs no column of them.
-/
def ranking (b : Batch) : Except Failure Ranking := if b.rows = 0 then .ok [] else b.rowIds

/--
The row identifiers and the cells of a column of numbers. A batch without rows needs neither.
-/
def scored (b : Batch) (name : String) : Except Failure (Ranking × List Value) := do
  if b.rows = 0 then return ([], [])
  let ids ← b.rowIds
  return (ids, ← b.numbers name)

/--
The batch with the relevance of every row added and sorted by it. Rows without an identifier have
the relevance zero.
-/
def scoreAndSort (b : Batch) (relevance : Int → Except Failure Binary) : Except Failure Batch := do
  let ids ← b.rowIds
  let scores ← ids.mapM fun id => match id with
    | some id => relevance id
    | none => return .zero
  let scored ← b.append relevanceColumn scores
  scored.sortDescending relevanceColumn

end Batch

namespace Reranker

/--
The score of row identifiers under a strategy, which goes through the rows of both sides once and
then looks up what it has found.
-/
def scoring (r : Reranker) (vector fts : Batch) :
    Except Failure (Int → Except Failure Binary) := do
  match r with
  | rrf k =>
    let k ← k.toSingle
    let vectorIds ← vector.ranking
    let ftsIds ← fts.ranking
    return (ScoreTable.ofShares k vectorIds ftsIds).get
  | linear weight fill =>
    let (vectorIds, distances) ← vector.scored distanceColumn
    let (ftsIds, scores) ← fts.scored scoreColumn
    let distanceOf := ScoreTable.ofCells vectorIds distances
    let scoreOf := ScoreTable.ofCells ftsIds scores
    return fun id => do
      let weight ← weight.toSingle
      let fill ← fill.toSingle
      return Relevance.linearCombination weight fill (distanceOf.lookup id) (scoreOf.lookup id)
  | mrr weightVector weightFts =>
    let vectorRanks := ScoreTable.ofRanks (← vector.ranking)
    let ftsRanks := ScoreTable.ofRanks (← fts.ranking)
    let weightVector ← weightVector.toSingle
    let weightFts ← weightFts.toSingle
    return (ScoreTable.weigh weightVector weightFts vectorRanks ftsRanks).get

def rerank (r : Reranker) (vector fts : Batch) : Except Failure Batch := do
  let score ← r.scoring vector fts
  let merged ← vector.merge fts
  merged.scoreAndSort score

end Reranker

end RankFusion
