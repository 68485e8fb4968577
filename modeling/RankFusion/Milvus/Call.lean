import RankFusion.Milvus.Distance
import RankFusion.Search.Reply
import RankFusion.Text.Identifier

/-!
This module contains the search calls that sub-searches turn into.
-/

namespace RankFusion.Milvus

/--
What a search takes from the collection if a sub-search does not name it.
-/
structure CollectionConfig where
  collection : String
  vectorField : Value := .text "vector"
  sparseField : Value := .text "sparse"
  /-- The text field whose terms are in the sparse field. -/
  textField : Value := .text "text"
  distanceMetric : DistanceMetric := .cosine
  limit : Value := .int 100
  /-- The share of unimportant terms that a text search drops. -/
  dropRatio : Value := .real (Decimal.read false 2 (-1))

structure SearchCall where
  collection : String
  /-- The vectors or texts to search for. -/
  data : List Value
  /-- The field to search. -/
  field : Value
  metric : String
  params : List (String × Value)
  filter : Value
  limit : Value
  outputFields : List Value

namespace SearchCall

def entries (c : SearchCall) : List (String × Value) :=
  [("collection_name", .text c.collection), ("data", .list c.data), ("anns_field", c.field),
   ("search_params", .dict [("metric_type", .text c.metric), ("params", .dict c.params)]),
   ("filter", c.filter), ("limit", c.limit), ("output_fields", .list c.outputFields)]

end SearchCall

/--
The projection of a sub-search: the fields to fetch, and the output names of those that are renamed.
-/
structure Projection where
  fields : List Value
  renames : List (String × String)

namespace Projection

/--
The output name of a field. The last of several new names counts.
-/
def outputName (p : Projection) (field : String) : String :=
  ((p.renames.reverse.find? fun r => r.1 == field).map (·.2)).getD field

def requireField : Value → Except Failure String
  | .text s => if isIdentifier s then .ok s else .error (.search (.computedColumn s))
  | v => .error (.operand (.missingAttribute v.kindName "isidentifier"))

def ofColumns : Value → Except Failure Projection
  | .null => .ok ⟨[], []⟩
  | .dict es => do
    let names ← es.mapM fun e => requireField e.2
    return ⟨names.map .text, names.zip (es.map (·.1))⟩
  | v => v.items.map fun fields => ⟨fields, []⟩

end Projection

/--
A datum, or another one in place of it if it counts as false.
-/
def orElse (v usual : Value) : Value := if v.isTruthy then v else usual

structure SideCall where
  data : List Value
  field : Value
  metric : String
  params : List (String × Value)

def tuningParams (m : DistanceMetric) (t : VectorTuning) :
    Except Failure (List (String × Value)) := do
  let count (name : String) (v : Value) := if v.isNull then [] else [(name, v)]
  let range ← if t.distanceRange.isNull then pure []
    else do
      let (lower, upper) ← t.distanceRange.pair
      rangeEntries m lower upper
  return count "nprobe" t.nprobes ++ count "ef" t.ef ++ count "refine_k" t.refineFactor ++ range

/--
The names of the settings of a sub-search that Milvus has no equivalent for.
-/
def ignoredSettings (s : SubSearch) : List String :=
  let t := s.tuning
  let settings := [("bypass_vector_index", t.bypassVectorIndex.isTruthy),
    ("minimum_nprobes", !t.minimumNprobes.isNull), ("maximum_nprobes", !t.maximumNprobes.isNull),
    ("fast_search", s.fastSearch.isTruthy), ("postfilter", s.postfilter.isTruthy)]
  (settings.filter (·.2)).map (·.1)

def metricOf (c : CollectionConfig) (s : SubSearch) : DistanceMetric :=
  match s.tuning.distanceMetric with
  | .metric m => m
  | _ => c.distanceMetric

def queryVectors (s : SubSearch) : Except Failure (List Value) := do
  let main ← s.vector.items
  let more ← (← s.tuning.additionalVectors.items).mapM Value.items
  return (main :: more).map .list

/--
The search parameters of a vector search. It has to have a vector.
-/
def vectorParams (c : CollectionConfig) (s : SubSearch) : Except Failure (List (String × Value)) :=
  if s.vector.isNull then .error (.search .noVector)
  else tuningParams (metricOf c s) s.tuning

def vectorCall (c : CollectionConfig) (s : SubSearch) : Except Failure SideCall := do
  let params ← vectorParams c s
  return {
    data := ← queryVectors s
    field := orElse s.tuning.column c.vectorField
    metric := metricName (metricOf c s)
    params }

def sparseFieldFor (c : CollectionConfig) (column : Value) : Value :=
  if column.isNull || column.equal c.textField then c.sparseField else column

def firstColumn (columns : Value) : Except Failure Value :=
  match columns with
  | .dict (_ :: _) => .error (.operand (.missingPosition 0))
  | v => do return (← v.items).headD .null

def textCall (c : CollectionConfig) (s : SubSearch) : Except Failure SideCall := do
  if !s.queryText.isTruthy then throw (.search .noQueryText)
  let columns := orElse s.ftsColumns (.list [])
  if (← columns.length) > 1 then throw (Failure.search (.severalTextColumns columns)).worded
  return {
    data := [s.queryText]
    field := sparseFieldFor c (← firstColumn columns)
    metric := "BM25"
    params := [("drop_ratio_search", c.dropRatio)] }

def sideCall (c : CollectionConfig) (s : SubSearch) : Except Failure SideCall :=
  match s.side with
  | .vector => vectorCall c s
  | .fts => textCall c s

def callLog (c : CollectionConfig) (s : SubSearch) : List LogEntry :=
  let ignored := ignoredSettings s
  let reached := s.side == .vector && (vectorParams c s).isOk
  if reached && !ignored.isEmpty then
    [⟨.warning, "Milvus has no equivalent for " ++ (Value.list (ignored.map .text)).render ++
      ", ignoring"⟩]
  else []

def searchCall (c : CollectionConfig) (s : SubSearch) :
    Except Failure (SearchCall × Projection) := do
  let side ← sideCall c s
  let projection ← Projection.ofColumns s.columns
  return (
    { collection := c.collection
      data := side.data
      field := side.field
      metric := side.metric
      params := side.params
      filter := orElse s.predicate (.text "")
      limit := orElse s.limit c.limit
      outputFields := projection.fields }, projection)

end RankFusion.Milvus
