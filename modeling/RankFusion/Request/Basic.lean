import RankFusion.Query.Distance
import RankFusion.Request.Attribute
import RankFusion.Rerank.Reranker
import RankFusion.Validation.Form

/-!
This module contains requests for queries as they come from outside, with the rules that a request
has to obey when it is read and whenever one of its fields is assigned.
-/

namespace RankFusion

inductive Selection where
  | columns (names : List String)
  | mapping (entries : List (String × String))

def Selection.toValue : Selection → Value
  | columns names => .list (names.map .text)
  | mapping es => .dict (es.map fun e => (e.1, .text e.2))

/--
Reads a choice of output columns. If it is neither, the issues with both are reported.
-/
def Reader.selection : Reader Selection := fun v =>
  match Reader.list Reader.text v, Reader.dict Reader.text v with
  | .valid names, _ => .valid (.columns names)
  | _, .valid es => .valid (.mapping es)
  | names, es => .invalid ((names.under (.name "list[str]")).issues ++
      (es.under (.name "dict[str,str]")).issues)

structure QueryRequest where
  query : String := ""
  vector : List Binary := []
  additionalVectors : List (List Binary) := []
  filter : Option String := none
  fastSearch : Bool := false
  postfilter : Bool := false
  select : Option Selection := none
  withRowId : Bool := true
  ftsColumns : Option (List String) := none
  subSearchLimit : Option Int := none
  timeout : Option Binary := none
  limit : Option Int := none
  offset : Option Int := none
  rerankMethod : RerankMethod := .rrf
  rrfConstant : Binary := Reranker.defaultConstant
  linearWeight : Binary := Reranker.defaultWeight
  linearFill : Binary := .one
  mrrWeightVector : Binary := Reranker.defaultRankWeight
  mrrWeightFts : Binary := Reranker.defaultRankWeight
  column : Option String := none
  distanceMetric : Option DistanceMetric := none
  nprobes : Option Int := none
  refineFactor : Option Int := none
  bypassVectorIndex : Bool := false
  ef : Option Int := none
  minimumNprobes : Option Int := none
  maximumNprobes : Option Int := none
  distanceRange : Option (List (Option Binary)) := none

namespace QueryRequest

def optionalValue {α : Type} (f : α → Value) : Option α → Value
  | some x => f x
  | none => .null

def vectorValue (xs : List Binary) : Value := .list (xs.map .real)

def textsValue (ss : List String) : Value := .list (ss.map .text)

def rangeValue (bounds : List (Option Binary)) : Value := .list (bounds.map (optionalValue .real))

def misfit? (vector : List Binary) (vs : List (List Binary)) : Option (List Binary) :=
  if vector.isEmpty then none else vs.find? fun v => v.length != vector.length

/--
Fills in the additional vectors. They have to have the dimension of the vector.
-/
def fillAdditionalVectors (r : QueryRequest) (v : Value) : Checked QueryRequest :=
  (Reader.list (Reader.list Reader.real) v).bind fun vs =>
    match misfit? r.vector vs with
    | some w => .fail (.rule (.vectorDimension w.length r.vector.length))
    | none => .valid { r with additionalVectors := vs }

def optionalCount (b : Bounds) : Reader (Option Int) := .optional (.boundedInteger b)

def fields : List (FormField QueryRequest) := [
  { FormField.ofReader "query" Reader.text (fun r x => { r with query := x })
      (fun r => .text r.query) with required := true },
  { FormField.ofReader "vector" (Reader.listAtLeast 1 Reader.real)
      (fun r x => { r with vector := x }) (fun r => vectorValue r.vector) with required := true },
  { name := "additional_vectors"
    fill := fillAdditionalVectors
    value := fun r => .list (r.additionalVectors.map vectorValue) },
  .ofReader "filter" (.optional .text) (fun r x => { r with filter := x })
    (fun r => optionalValue .text r.filter),
  .ofReader "fast_search" .truth (fun r x => { r with fastSearch := x })
    (fun r => .bool r.fastSearch),
  .ofReader "postfilter" .truth (fun r x => { r with postfilter := x })
    (fun r => .bool r.postfilter),
  .ofReader "select" (.optional .selection) (fun r x => { r with select := x })
    (fun r => optionalValue Selection.toValue r.select),
  .ofReader "with_row_id" .truth (fun r x => { r with withRowId := x })
    (fun r => .bool r.withRowId),
  .ofReader "fts_columns" (.optional (.list .text)) (fun r x => { r with ftsColumns := x })
    (fun r => optionalValue textsValue r.ftsColumns),
  .ofReader "sub_search_limit" (optionalCount .positive)
    (fun r x => { r with subSearchLimit := x }) (fun r => optionalValue .int r.subSearchLimit),
  .ofReader "timeout" (.optional (.boundedReal .positive)) (fun r x => { r with timeout := x })
    (fun r => optionalValue .real r.timeout),
  .ofReader "limit" (optionalCount .nonNegative) (fun r x => { r with limit := x })
    (fun r => optionalValue .int r.limit),
  .ofReader "offset" (optionalCount .nonNegative) (fun r x => { r with offset := x })
    (fun r => optionalValue .int r.offset),
  .ofReader "rerank_method" (.member RerankMethod.ofName?)
    (fun r x => { r with rerankMethod := x }) (fun r => .text r.rerankMethod.name),
  .ofReader "rrf_k" (.boundedReal .positive) (fun r x => { r with rrfConstant := x })
    (fun r => .real r.rrfConstant),
  .ofReader "linear_weight" (.boundedReal .unit) (fun r x => { r with linearWeight := x })
    (fun r => .real r.linearWeight),
  .ofReader "linear_fill" (.boundedReal .nonNegative) (fun r x => { r with linearFill := x })
    (fun r => .real r.linearFill),
  .ofReader "mrr_weight_vector" (.boundedReal .unit) (fun r x => { r with mrrWeightVector := x })
    (fun r => .real r.mrrWeightVector),
  .ofReader "mrr_weight_fts" (.boundedReal .unit) (fun r x => { r with mrrWeightFts := x })
    (fun r => .real r.mrrWeightFts),
  .ofReader "column" (.optional .text) (fun r x => { r with column := x })
    (fun r => optionalValue .text r.column),
  .ofReader "distance_type" (.optional (.member DistanceMetric.ofName?))
    (fun r x => { r with distanceMetric := x })
    (fun r => optionalValue (fun m => .text m.name) r.distanceMetric),
  .ofReader "nprobes" (optionalCount .positive) (fun r x => { r with nprobes := x })
    (fun r => optionalValue .int r.nprobes),
  .ofReader "refine_factor" (optionalCount .positive) (fun r x => { r with refineFactor := x })
    (fun r => optionalValue .int r.refineFactor),
  .ofReader "bypass_vector_index" .truth (fun r x => { r with bypassVectorIndex := x })
    (fun r => .bool r.bypassVectorIndex),
  .ofReader "ef" (optionalCount .positive) (fun r x => { r with ef := x })
    (fun r => optionalValue .int r.ef),
  .ofReader "minimum_nprobes" (optionalCount .positive)
    (fun r x => { r with minimumNprobes := x }) (fun r => optionalValue .int r.minimumNprobes),
  .ofReader "maximum_nprobes" (optionalCount .positive)
    (fun r x => { r with maximumNprobes := x }) (fun r => optionalValue .int r.maximumNprobes),
  .ofReader "distance_range" (.optional (.listOfLength 2 (.optional .real)))
    (fun r x => { r with distanceRange := x }) (fun r => optionalValue rangeValue r.distanceRange)]

def checkWeights (r : QueryRequest) : Checked QueryRequest :=
  let total := Format.double.add r.mrrWeightVector r.mrrWeightFts
  if r.rerankMethod = .mrr ∧ Reranker.sumsToOne total = false then
    .fail (.rule (.weightSum total))
  else .valid r

/--
The request in some entries. The rule over the whole is checked only if every field is in order.
-/
def read (es : List (String × Value)) : Checked QueryRequest :=
  (Form.read fields {} es).bind checkWeights

def entries (r : QueryRequest) : List (String × Value) := Form.entries fields r

def failureOf : List Issue → Option Failure
  | [] => none
  | is => some (.invalid is)

/--
The request after an assignment, and the failure if there is one. A value that breaks the rule of
its field is dropped; one that breaks only the rule over the whole stays.
-/
def assign (r : QueryRequest) (name : String) (v : Value) : QueryRequest × Option Failure :=
  match assignAttribute? name v with
  | some (.ok ()) => (r, none)
  | some (.error f) => (r, some f)
  | none =>
    match Form.assign fields r name v with
    | .invalid is => (r, failureOf is)
    | .valid changed => (changed, failureOf (checkWeights changed).issues)

end QueryRequest

end RankFusion
