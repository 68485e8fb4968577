import RankFusion.Milvus.Executor
import RankFusion.Query.Run
import RankFusion.Settings.Basic

/-!
This module contains what settings make: queries, the engine on a collection with its connection,
and the history of runs.
-/

namespace RankFusion

structure Milvus.Connection where
  uri : String
  token : String
  database : String
  /-- How many seconds the server has to accept the connection. -/
  timeout : Binary

def Milvus.Connection.entries (c : Milvus.Connection) : List (String × Value) :=
  [("uri", .text c.uri), ("token", .text c.token), ("db_name", .text c.database),
   ("timeout", .real c.timeout)]

def MilvusSettings.connection (s : MilvusSettings) : Milvus.Connection where
  uri := s.uri
  token := s.token
  database := s.database
  timeout := s.connectTimeout

namespace MonitoringSettings

def history (s : MonitoringSettings) : Except Failure (Option MetricsHistory) :=
  if s.enableMetrics then (MetricsHistory.create (.int s.historySize)).map some else .ok none

/--
The observer that keeps metrics in a history, or does nothing if none are to be kept.
-/
def observer (s : MonitoringSettings) : Observer MetricsHistory :=
  if s.enableMetrics then .recording else .silent

end MonitoringSettings

namespace Settings

def toQuery (s : Settings) (query vector : Value) : Except Failure HybridQuery := do
  let reranker ← s.reranker.toReranker
  let config ← QueryConfig.ofEntries [("sub_search_limit", .int s.query.subSearchLimit)]
  HybridQuery.create query vector (.strategy reranker) config (.bool s.query.concurrent)
    (.real s.query.timeout) .null

def toExecutor (s : Settings) (collection : String) : Except Failure Milvus.MilvusExecutor :=
  Milvus.MilvusExecutor.ofEntries collection
    [("vector_field", .text s.milvus.vectorField), ("sparse_field", .text s.milvus.sparseField),
     ("text_field", .text s.milvus.textField),
     ("default_distance_type", .text s.milvus.distanceMetric.name),
     ("default_limit", .int s.query.subSearchLimit), ("max_workers", .int s.milvus.maxWorkers),
     ("drop_ratio_search", .real s.milvus.dropRatio)]

end Settings

end RankFusion
