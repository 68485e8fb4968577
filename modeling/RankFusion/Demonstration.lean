import RankFusion.Query.Builder
import RankFusion.Request.Build
import RankFusion.Settings.Build
import RankFusion.Settings.File

/-!
This module contains a demonstration: four queries on a collection, each fused in another way,
with a log of what they return. A query that fails is logged and does not keep the next one from
running, except for the last.
-/

namespace RankFusion.Demonstration

def collection : String := "example_collection"

def settingsFile : String := "config.yaml"

def queryText : String := "What is vector search?"

def embedding : Value := .list (List.replicate 128 (.real .one))

def predicate : String := "category == 'docs'"

def chain (reranker : Reranker) (calls : List BuilderCall) : Except Failure HybridQuery := do
  let q ← HybridQuery.create (.text queryText) embedding (.strategy reranker) {} (.bool true)
    .null .null
  calls.foldlM (fun q call =>
    match q.apply call with
    | (q, none) => .ok q
    | (_, some f) => .error f) q

def rankQuery : Except Failure HybridQuery := do
  let reranker ← Reranker.create (.text RerankMethod.rrf.name) [("k", .int 60)]
  chain .default [.filter (.text predicate), .select (.list [.text "text", .text "category"]),
    .rerank (.strategy reranker), .limit (.int 10)]

def weightedQuery : Except Failure HybridQuery := do
  let weight : Binary := Decimal.read false 6 (-1)
  let reranker ← Reranker.create (.text RerankMethod.linear.name) [("weight", .real weight)]
  chain .default [.rerank (.strategy reranker), .nprobes (.int 16), .ef (.int 64),
    .distanceRange .null (.real (Decimal.read false 8 (-1))), .limit (.int 5)]

def pageRequest : List (String × Value) :=
  [("query", .text queryText), ("vector", embedding), ("filter", .text predicate),
   ("rerank_method", .text RerankMethod.mrr.name),
   ("mrr_weight_vector", .real (Decimal.read false 6 (-1))),
   ("mrr_weight_fts", .real (Decimal.read false 4 (-1))), ("limit", .int 10), ("offset", .int 10)]

def requestedQuery (s : Settings) : Except Failure HybridQuery :=
  match QueryRequest.read pageRequest with
  | .valid r => r.build (.bool s.query.concurrent)
  | .invalid issues => .error (.invalid issues)

def settledQuery (s : Settings) : Except Failure HybridQuery := do
  chain (← s.reranker.toReranker) [.limit (.int 3)]

abbrev Engine := Milvus.MilvusExecutor × List Milvus.SearchCall

def fetch (client : Milvus.Client) (query : Except Failure HybridQuery) (timeout : Value)
    (e : Engine) : Except Failure Batch × Engine :=
  match query with
  | .error f => (.error f, e)
  | .ok q =>
    let (x, e, _) := q.execute (Milvus.MilvusExecutor.asExecutor client) .silent timeout none e ()
    match x.outcome with
    | .ok b => (.ok b, e)
    | .error (.failed f) => (.error f, e)
    | .error .cancelled => (.error (.raised .exception ""), e)

def rowText (position : Nat) (row : List (String × Value)) : String :=
  let relevance := match Value.lookup relevanceColumn row with
    | .real x => x.fixedText 4
    | v => v.plain
  s!"Result {position}: ID=" ++ (Value.lookup rowIdColumn row).plain ++ ", Relevance=" ++ relevance

def rowLog (b : Batch) : List String :=
  (b.toRows.take 3).mapIdx fun i row => rowText (i + 1) row

def columnLog (b : Batch) : List String :=
  [s!"Found {b.rows} results, columns: " ++ (Value.list (b.schema.names.map .text)).render]

def strategyLog (strategy : Except Failure Reranker) (b : Batch) : List String :=
  match strategy with
  | .ok r => [(Value.dict r.config).render ++ s!" returned {b.rows} results"]
  | .error _ => []

def partLog (title failure : String) (describe : Batch → List String)
    (outcome : Except Failure Batch) : List LogEntry :=
  ⟨.info, title⟩ ::
    match outcome with
    | .ok b => (describe b).map fun text => ⟨.info, text⟩
    | .error f => [⟨.error, failure ++ ": " ++ f.message⟩]

def runParts (client : Milvus.Client) (s : Settings) (executor : Milvus.MilvusExecutor) :
    List LogEntry :=
  let (first, e) := fetch client rankQuery (.real s.query.timeout) (executor, [])
  let (second, e) := fetch client weightedQuery .null e
  let (third, e) := fetch client (requestedQuery s) .null e
  let (fourth, _) := fetch client (settledQuery s) .null e
  partLog "Example 1: Hybrid query with RRF reranking" "RRF hybrid query failed" rowLog first ++
    partLog "\nExample 2: Hybrid query with linear combination" "Linear hybrid query failed"
      columnLog second ++
    partLog "\nExample 3: Hybrid query from request parameters" "MRR hybrid query failed"
      (fun _ => ["Second page:"]) third ++
    partLog "\nExample 4: Settings-driven reranker" "Example failed"
      (strategyLog s.reranker.toReranker) fourth

structure Shown where
  outcome : Except Failure Unit
  /-- The entries that are not below the level of the settings. -/
  log : List LogEntry := []
  /-- The connections that were opened, and closed again at the end. -/
  connections : List Milvus.Connection := []

/--
Runs the demonstration against a client. Nothing is searched if the settings are not accepted.
-/
def run (around : Surroundings) (client : Milvus.Client) : Shown :=
  match Settings.load around (.text settingsFile) with
  | .error f => { outcome := .error f }
  | .ok s =>
    let connections := [s.milvus.connection]
    match s.toExecutor collection with
    | .error f => { outcome := .error f, connections }
    | .ok executor =>
      let least := s.monitoring.levelNumber
      let log := (runParts client s executor).filter fun e => decide (least ≤ e.level.number)
      { outcome := .ok (), log, connections }

end RankFusion.Demonstration
