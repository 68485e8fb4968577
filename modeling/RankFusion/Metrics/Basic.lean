import RankFusion.Number.Scalar

/-!
This module contains the metrics of a run.
-/

namespace RankFusion

inductive QueryStage where
  | configured
  | subSearching
  | reranking
  | sliced
  | complete
  deriving DecidableEq, Repr

namespace QueryStage

def name : QueryStage → String
  | configured => "configured"
  | subSearching => "sub_searches_executing"
  | reranking => "reranking"
  | sliced => "sliced"
  | complete => "complete"

def ofValue (v : Value) : Except Failure QueryStage :=
  let found := [configured, subSearching, reranking, sliced, complete].find? fun s =>
    v.equal (.text s.name)
  match found with
  | some s => .ok s
  | none => .error (Failure.operand (.notMember v "QueryStage")).worded

end QueryStage

inductive QueryStatus where
  | success
  | failure
  deriving DecidableEq, Repr

namespace QueryStatus

def name : QueryStatus → String
  | success => "success"
  | failure => "failure"

def ofValue (v : Value) : Except Failure QueryStatus :=
  match [success, failure].find? fun s => v.equal (.text s.name) with
  | some s => .ok s
  | none => .error (Failure.operand (.notMember v "QueryStatus")).worded

end QueryStatus

/--
The metrics of a run. Times are in milliseconds. Metrics that are given by name may hold data of any
kind.
-/
structure Metrics where
  queryHash : Value := .null
  /-- The name of the strategy. -/
  reranker : Value := .text "rrf"
  vectorTime : Value := .real .zero
  ftsTime : Value := .real .zero
  rerankTime : Value := .real .zero
  totalTime : Value := .real .zero
  /-- The number of rows of the vector side. -/
  vectorResults : Value := .int 0
  /-- The number of rows of the text side. -/
  ftsResults : Value := .int 0
  /-- The number of fused rows. -/
  fusedResults : Value := .int 0
  /-- The number of rows in the window. -/
  resultsCount : Value := .int 0
  concurrent : Value := .bool true
  /-- The last stage that was reached. -/
  stage : QueryStage := .configured
  status : QueryStatus := .success
  /-- The text of the failure. -/
  errorMessage : Value := .null
  timestamp : Value := .null

namespace Metrics

def fields (m : Metrics) : List (String × Value) :=
  [("query_hash", m.queryHash), ("reranker", m.reranker),
   ("vector_search_time_ms", m.vectorTime), ("fts_search_time_ms", m.ftsTime),
   ("rerank_time_ms", m.rerankTime), ("total_time_ms", m.totalTime),
   ("vector_results", m.vectorResults), ("fts_results", m.ftsResults),
   ("fused_results", m.fusedResults), ("results_count", m.resultsCount),
   ("concurrent", m.concurrent), ("stage", .text m.stage.name), ("status", .text m.status.name),
   ("error_message", m.errorMessage), ("timestamp", m.timestamp)]

def parameters : List String := (fields {}).map (·.1)

/--
The metrics with times rounded to two places. The times have to be numbers.
-/
def rounded (m : Metrics) : Except Failure Metrics := do
  return { m with
    vectorTime := ← m.vectorTime.roundPlaces 2
    ftsTime := ← m.ftsTime.roundPlaces 2
    rerankTime := ← m.rerankTime.roundPlaces 2
    totalTime := ← m.totalTime.roundPlaces 2 }

def entries (m : Metrics) : Except Failure (List (String × Value)) := m.rounded.map fields

/--
The metrics with values given by name, all of which have to be known. The hash of the query has to
be given.
-/
def ofEntries (es : List (String × Value)) : Except Failure Metrics := do
  let given (name : String) (usual : Value) := (Value.lookup? name es).getD usual
  let stage ← QueryStage.ofValue (given "stage" (.text QueryStage.configured.name))
  let status ← QueryStatus.ofValue (given "status" (.text QueryStatus.success.name))
  let constructorName := "HybridQueryMetrics.__init__"
  requireKeywords constructorName parameters es
  match Value.lookup? "query_hash" es with
  | none => throw (.operand (.missingArgument constructorName "query_hash"))
  | some queryHash =>
    return {
      queryHash
      reranker := given "reranker" (.text "rrf")
      vectorTime := given "vector_search_time_ms" (.real .zero)
      ftsTime := given "fts_search_time_ms" (.real .zero)
      rerankTime := given "rerank_time_ms" (.real .zero)
      totalTime := given "total_time_ms" (.real .zero)
      vectorResults := given "vector_results" (.int 0)
      ftsResults := given "fts_results" (.int 0)
      fusedResults := given "fused_results" (.int 0)
      resultsCount := given "results_count" (.int 0)
      concurrent := given "concurrent" (.bool true)
      stage, status
      errorMessage := given "error_message" .null
      timestamp := given "timestamp" .null }

end Metrics

end RankFusion
