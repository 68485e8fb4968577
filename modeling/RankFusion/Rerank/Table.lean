import RankFusion.Rerank.Relevance

/-!
This module contains the tables of scores. A strategy fills them row by row from both sides, and
then looks up the identifiers of the merged rows.
-/

namespace RankFusion

namespace Ranking

def shares (ids : Ranking) (share : Nat → Binary) : List (Int × Binary) :=
  ids.zipIdx.filterMap fun (x, rank) => x.map fun id => (id, share rank)

def measures (ids : Ranking) (cells : List Value) : List (Int × Binary) :=
  (ids.zip cells).filterMap fun (x, v) => do return (← x, ← Relevance.ofCell? v)

end Ranking

abbrev ScoreTable := List (Int × Binary)

namespace ScoreTable

def insert (id : Int) (x : Binary) : ScoreTable → ScoreTable
  | [] => [(id, x)]
  | (y, z) :: t => if y = id then (y, x) :: t else (y, z) :: insert id x t

def get (t : ScoreTable) (id : Int) : Except Failure Binary :=
  match t.lookup id with
  | some x => .ok x
  | none => .error (.operand (.missingId id))

def getOrZero (t : ScoreTable) (id : Int) : Binary := (t.lookup id).getD .zero

def enterAll (t : ScoreTable) (rows : List (Int × Binary)) : ScoreTable :=
  rows.foldl (fun t (id, x) => insert id x t) t

def addAll (t : ScoreTable) (rows : List (Int × Binary)) : ScoreTable :=
  rows.foldl (fun t (id, x) => insert id (Format.single.add (t.getOrZero id) x) t) t

def ofShares (k : Binary) (vector fts : Ranking) : ScoreTable :=
  addAll (addAll [] (vector.shares (Relevance.fusionShare k)))
    (fts.shares (Relevance.fusionShare k))

def ofRanks (ids : Ranking) : ScoreTable := enterAll [] (ids.shares Relevance.rankShare)

def ofCells (ids : Ranking) (cells : List Value) : ScoreTable := enterAll [] (ids.measures cells)

def weigh (weightVector weightFts : Binary) (vector fts : ScoreTable) : ScoreTable :=
  enterAll [] ((vector ++ fts).map fun (id, _) =>
    (id, Relevance.weightedSum weightVector weightFts (vector.getOrZero id) (fts.getOrZero id)))

end ScoreTable

end RankFusion
