import RankFusion.Query.Distance
import RankFusion.Value.Operand

/-!
This module contains the tuning of the vector side of a query and the rules it has to obey. Absent
values leave the choice to the engine.
-/

namespace RankFusion

def requirePositive (name : String) (value : Value) : Except Failure Unit := do
  if !value.isNull then
    if ← value.compare .le (.int 0) then throw (Failure.parameter (.notPositive name value)).worded

def requireNonNegative (name : String) (value : Value) : Except Failure Unit := do
  if !value.isNull then
    if ← value.compare .lt (.int 0) then throw (Failure.parameter (.negative name value)).worded

structure VectorTuning where
  /-- The vector column to search. -/
  column : Value := .null
  distanceMetric : MetricChoice := .usual
  /-- How many partitions of the index to probe. -/
  nprobes : Value := .null
  /-- How many times the wanted rows to refine. -/
  refineFactor : Value := .null
  /-- Whether to search without the index. -/
  bypassVectorIndex : Value := .bool false
  /-- The width of a graph search. -/
  ef : Value := .null
  minimumNprobes : Value := .null
  maximumNprobes : Value := .null
  /-- The lower and the upper bound on the distance. -/
  distanceRange : Value := .null
  /-- Vectors to search alongside the main one. -/
  additionalVectors : Value := .list []

namespace VectorTuning

def counts (t : VectorTuning) : List (String × Value) :=
  [("nprobes", t.nprobes), ("refine_factor", t.refineFactor), ("ef", t.ef),
   ("minimum_nprobes", t.minimumNprobes), ("maximum_nprobes", t.maximumNprobes)]

def checkMetric (t : VectorTuning) : Except Failure Unit :=
  match t.distanceMetric with
  | .stray v => throw (Failure.parameter (.unknownDistance v)).worded
  | _ => .ok ()

def checkProbes (t : VectorTuning) : Except Failure Unit := do
  if !t.minimumNprobes.isNull && !t.maximumNprobes.isNull then
    if ← t.minimumNprobes.compare .gt t.maximumNprobes then
      throw (Failure.parameter (.probeOrder t.minimumNprobes t.maximumNprobes)).worded

def checkRange (t : VectorTuning) : Except Failure Unit := do
  if !t.distanceRange.isNull then
    let (lower, upper) ← t.distanceRange.pair
    if !lower.isNull && !upper.isNull then
      if ← lower.compare .ge upper then throw (Failure.parameter (.rangeOrder lower upper)).worded

def validate (t : VectorTuning) : Except Failure Unit := do
  t.checkMetric
  t.counts.forM fun c => requirePositive c.1 c.2
  t.checkProbes
  t.checkRange

def entries (t : VectorTuning) : List (String × Value) :=
  [("column", t.column), ("distance_type", t.distanceMetric.toValue), ("nprobes", t.nprobes),
   ("refine_factor", t.refineFactor), ("bypass_vector_index", t.bypassVectorIndex), ("ef", t.ef),
   ("minimum_nprobes", t.minimumNprobes), ("maximum_nprobes", t.maximumNprobes),
   ("distance_range", t.distanceRange), ("additional_vectors", t.additionalVectors)]

def parameters : List String := (entries {}).map (·.1)

def ofEntries (es : List (String × Value)) : Except Failure VectorTuning := do
  requireKeywords "VectorSearchParams.__init__" parameters es
  let given (name : String) (usual : Value) := (Value.lookup? name es).getD usual
  let t : VectorTuning := {
    column := given "column" .null
    distanceMetric := .ofValue (given "distance_type" .null)
    nprobes := given "nprobes" .null
    refineFactor := given "refine_factor" .null
    bypassVectorIndex := given "bypass_vector_index" (.bool false)
    ef := given "ef" .null
    minimumNprobes := given "minimum_nprobes" .null
    maximumNprobes := given "maximum_nprobes" .null
    distanceRange := given "distance_range" .null
    additionalVectors := given "additional_vectors" (.list []) }
  t.validate
  return t

/--
The tuning with the settings in a mapping. Any other datum holds no settings.
-/
def ofValue : Value → Except Failure VectorTuning
  | .dict es => ofEntries es
  | _ => ofEntries []

end VectorTuning

end RankFusion
