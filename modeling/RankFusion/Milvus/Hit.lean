import RankFusion.Milvus.Distance
import RankFusion.Order.Sort

/-!
This module contains the hits that a search returns, and the ranking of the hits of several query
vectors.
-/

namespace RankFusion.Milvus

def reported (hit : Value) : Except Failure Binary := do (← hit.part "distance").toReal

/--
A hit with its rank value, a distance or a score.
-/
structure RankedHit where
  hit : Value
  value : Binary

structure BestHit where
  id : Value
  ranked : RankedHit

/--
The best hits with another hit of a row. It takes the place of the former one if it is closer.
-/
def improve (id : Value) (r : RankedHit) : List BestHit → List BestHit
  | [] => [⟨id, r⟩]
  | b :: bs =>
    if b.id.sameKey id then (if r.value.lt b.ranked.value then ⟨b.id, r⟩ else b) :: bs
    else b :: improve id r bs

def addHit (m : DistanceMetric) (bs : List BestHit) (hit : Value) :
    Except Failure (List BestHit) := do
  let distance := toDistance m (← reported hit)
  let id ← hit.part "id"
  id.requireKey
  return improve id ⟨hit, distance⟩ bs

/--
The best hit of every row over all query vectors, closest first. Rows at equal distance, and the
rows of a single query vector, stay in the order in which they were first returned.
-/
def bestHits (m : DistanceMetric) (lists : Value) : Except Failure (List RankedHit) := do
  let lists ← lists.items
  let best ← lists.foldlM (fun best list => do (← list.items).foldlM (addHit m) best) []
  let ranked := best.map (·.ranked)
  if lists.length = 1 then return ranked
  else return Order.sort (fun a b => a.value.lt b.value) ranked

def scoredHits (lists : Value) : Except Failure (List RankedHit) := do
  let scored ← (← lists.items).mapM fun list => do
    (← list.items).mapM fun hit => return ⟨hit, ← reported hit⟩
  return scored.flatten

end RankFusion.Milvus
