import RankFusion.Query.Builder
import RankFusion.Request.Basic

/-!
This module contains the queries that requests turn into.
-/

namespace RankFusion.QueryRequest

def tuning (r : QueryRequest) : VectorTuning where
  column := optionalValue .text r.column
  distanceMetric := .ofOption r.distanceMetric
  nprobes := optionalValue .int r.nprobes
  refineFactor := optionalValue .int r.refineFactor
  bypassVectorIndex := .bool r.bypassVectorIndex
  ef := optionalValue .int r.ef
  minimumNprobes := optionalValue .int r.minimumNprobes
  maximumNprobes := optionalValue .int r.maximumNprobes
  distanceRange := optionalValue rangeValue r.distanceRange
  additionalVectors := .list (r.additionalVectors.map vectorValue)

def config (r : QueryRequest) : QueryConfig where
  predicate := optionalValue .text r.filter
  fastSearch := .bool r.fastSearch
  postfilter := .bool r.postfilter
  select := optionalValue Selection.toValue r.select
  limit := optionalValue .int r.limit
  offset := optionalValue .int r.offset
  ftsColumns := optionalValue textsValue r.ftsColumns
  subSearchLimit := optionalValue .int r.subSearchLimit
  vector := r.tuning

def toConfig (r : QueryRequest) : Except Failure QueryConfig := do
  r.config.validate
  return r.config

def rerankParameters (r : QueryRequest) : List (String × Value) :=
  match r.rerankMethod with
  | .rrf => [("k", .real r.rrfConstant)]
  | .linear => [("weight", .real r.linearWeight), ("fill", .real r.linearFill)]
  | .mrr => [("weight_vector", .real r.mrrWeightVector), ("weight_fts", .real r.mrrWeightFts)]

def toReranker (r : QueryRequest) : Except Failure Reranker :=
  Reranker.create (.text r.rerankMethod.name) r.rerankParameters

def build (r : QueryRequest) (concurrent : Value) : Except Failure HybridQuery := do
  let reranker ← r.toReranker
  let config ← r.toConfig
  let q ← HybridQuery.create (.text r.query) (vectorValue r.vector) (.strategy reranker) config
    concurrent (optionalValue .real r.timeout) .null
  return { q with withRowId := .bool r.withRowId }

end RankFusion.QueryRequest
