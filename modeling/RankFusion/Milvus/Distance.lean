import RankFusion.Number.Scalar
import RankFusion.Query.Distance

/-!
This module contains the relation between the distances of the library, where smaller means closer,
and the values that Milvus reports and filters by.
-/

namespace RankFusion.Milvus

def complement (x : Binary) : Binary := Format.double.sub .one x

def complementValue (v : Value) : Except Failure Value :=
  match Scalar.ofValue? v with
  | some s => s.toReal.map fun x => .real (complement x)
  | none => .error (.operand (.noArithmetic "-" "float" v.kindName))

/--
The distance that a reported value stands for. A similarity and its distance add up to one.
-/
def toDistance (m : DistanceMetric) (x : Binary) : Binary :=
  if m.isSimilarity then complement x else x

def distanceOf (m : DistanceMetric) (v : Value) : Except Failure Value :=
  if m.isSimilarity then complementValue v else .ok v

def boundEntry (m : DistanceMetric) (name : String) (bound : Value) :
    Except Failure (List (String × Value)) :=
  if bound.isNull then .ok [] else (distanceOf m bound).map fun v => [(name, v)]

def rangeEntries (m : DistanceMetric) (lower upper : Value) :
    Except Failure (List (String × Value)) := do
  return (← boundEntry m "radius" upper) ++ (← boundEntry m "range_filter" lower)

def metricName : DistanceMetric → String
  | .l2 => "L2"
  | .cosine => "COSINE"
  | .dot => "IP"
  | .hamming => "HAMMING"

def requireMetric (v : Value) : Except Failure DistanceMetric :=
  match DistanceMetric.ofValue? v with
  | some m => .ok m
  | none => .error (Failure.operand (.notMember v "DistanceType")).worded

end RankFusion.Milvus
