import RankFusion.Query.Config
import RankFusion.Rerank.Choice
import RankFusion.Search.Request

/-!
This module contains hybrid queries and the sub-searches they consist of.
-/

namespace RankFusion

structure HybridQuery where
  query : String
  vector : List Binary
  reranker : RerankerChoice := .strategy .default
  config : QueryConfig := {}
  /-- Whether the result keeps the row identifiers. -/
  withRowId : Value := .bool true
  /-- Whether both sub-searches run at the same time. -/
  concurrent : Value := .bool true
  /-- How many seconds each sub-search has. -/
  timeout : Value := .null

namespace HybridQuery

/--
A choice of text columns. A single column may stand for the list of it.
-/
def columnList : Value → Except Failure Value
  | .text s => .ok (.list [.text s])
  | v => v.items.map .list

def queryText : Value → Except Failure String
  | .text s => .ok s
  | v => .error (.parameter (.queryKind v.kindName))

def requireComponents (vector : Value) : Except Failure Unit := do
  if vector.isNull then throw (.parameter .emptyVector)
  if (← vector.length) = 0 then throw (.parameter .emptyVector)

/--
A query with the given parts. Absent text columns leave those of the configuration, and the usual
strategy takes the place of an empty one.
-/
def create (query vector : Value) (reranker : RerankerChoice) (config : QueryConfig)
    (concurrent timeout ftsColumns : Value) : Except Failure HybridQuery := do
  let query ← queryText query
  requireComponents vector
  requirePositive "timeout" timeout
  let components ← vector.vector
  let config ← if ftsColumns.isNull then pure config
    else do pure { config with ftsColumns := ← columnList ftsColumns }
  return {
    query, vector := components, reranker := reranker.orDefault, config, concurrent, timeout }

def render (q : HybridQuery) : Except Failure String := do
  let strategy ← q.reranker.name
  Value.requirePrintable [q.config.limit, q.config.offset]
  return "HybridQuery(query=" ++ quoted q.query ++ ", reranker=" ++ strategy ++
    ", limit=" ++ q.config.limit.plain ++ ", offset=" ++ q.config.offset.plain ++ ")"

def vectorValue (q : HybridQuery) : Value := .list (q.vector.map .real)

/--
The part of a sub-search that does not depend on the side. Row identifiers are always asked for,
since the fusion joins on them.
-/
def shared (q : HybridQuery) (side : Side) (timeout : Value) : SubSearch where
  side := side
  predicate := q.config.predicate
  columns := q.config.select
  fastSearch := q.config.fastSearch
  postfilter := q.config.postfilter
  timeout := timeout
  limit := q.config.subSearchLimit

def request (q : HybridQuery) (side : Side) (timeout : Value) : SubSearch :=
  match side with
  | .vector => { q.shared side timeout with vector := q.vectorValue, tuning := q.config.vector }
  | .fts => { q.shared side timeout with
      queryText := .text q.query, ftsColumns := q.config.ftsColumns }

def entries (q : HybridQuery) : Except Failure (List (String × Value)) := do
  return [("config", .dict q.config.entries), ("reranker", .dict (← q.reranker.config)),
    ("concurrent", q.concurrent), ("timeout", q.timeout), ("with_row_id", q.withRowId),
    ("query", .text q.query), ("vector", q.vectorValue)]

end HybridQuery

end RankFusion
