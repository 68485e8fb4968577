import RankFusion.Value

/-!
This module contains the distance metrics of vector search.
-/

namespace RankFusion

inductive DistanceMetric where
  /-- The Euclidean distance. -/
  | l2
  /-- One minus the cosine similarity. -/
  | cosine
  /-- The dot product. -/
  | dot
  /-- The number of differing bits. -/
  | hamming
  deriving DecidableEq, Repr

namespace DistanceMetric

def name : DistanceMetric → String
  | l2 => "l2"
  | cosine => "cosine"
  | dot => "dot"
  | hamming => "hamming"

def all : List DistanceMetric := [l2, cosine, dot, hamming]

def ofName? (s : String) : Option DistanceMetric := all.find? fun m => m.name == s

theorem ofName?_name (m : DistanceMetric) : ofName? m.name = some m := by
  cases m <;> rfl

def ofValue? : Value → Option DistanceMetric
  | .text s => ofName? s
  | _ => none

def isSimilarity : DistanceMetric → Bool
  | cosine | dot => true
  | l2 | hamming => false

end DistanceMetric

inductive MetricChoice where
  /-- The metric is left to the engine. -/
  | usual
  | metric (m : DistanceMetric)
  /-- A datum that is no metric. It stays behind only if a text cannot report it. -/
  | stray (v : Value)

namespace MetricChoice

def ofOption : Option DistanceMetric → MetricChoice
  | none => usual
  | some m => metric m

def ofValue (v : Value) : MetricChoice :=
  if v.isNull then usual
  else
    match DistanceMetric.ofValue? v with
    | some m => metric m
    | none => stray v

def toValue : MetricChoice → Value
  | usual => .null
  | metric m => .text m.name
  | stray v => v

end MetricChoice

end RankFusion
