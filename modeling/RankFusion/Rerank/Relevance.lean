import RankFusion.Rerank.Reranker

/-!
This module contains what a row earns under each strategy: by its rank in a list, or by what is
measured of it. Every operation is rounded to single precision.
-/

namespace RankFusion

/--
The row identifiers of a ranked list, best first. A row may be without one.
-/
abbrev Ranking := List (Option Int)

namespace Relevance

def ofRank (rank : Nat) : Binary := Format.single.convert (Format.double.ofInt rank)

def fusionShare (k : Binary) (rank : Nat) : Binary :=
  Format.single.div .one (Format.single.add (ofRank rank) k)

def rankShare (rank : Nat) : Binary := Format.single.div .one (ofRank (rank + 1))

def weightedSum (weightVector weightFts vector fts : Binary) : Binary :=
  Format.single.add (Format.single.mul weightVector vector) (Format.single.mul weightFts fts)

/--
A distance or score in single precision. Integers are rounded to double precision first.
-/
def ofCell? : Value → Option Binary
  | .int n => some (Format.single.convert (Format.double.ofInt n))
  | .real x => some (Format.single.convert x)
  | _ => none

/--
The linear combination of a distance and a text score. The distance is turned into a similarity,
and the blend is turned back.
-/
def combine (weight distance score : Binary) : Binary :=
  let f := Format.single
  f.sub .one (f.add (f.mul weight (f.sub .one distance)) (f.mul (f.sub .one weight) score))

def linearCombination (weight fill : Binary) (distance? score? : Option Binary) : Binary :=
  combine weight (distance?.getD fill) (score?.getD fill)

end Relevance

end RankFusion
