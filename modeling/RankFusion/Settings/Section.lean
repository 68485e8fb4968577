import RankFusion.Query.Distance
import RankFusion.Rerank.Reranker
import RankFusion.Validation.Form

/-!
This module contains the four sections of the settings, with their usual values and bounds.
-/

namespace RankFusion

/--
The default strategy of queries. Only the parameters of the method are used.
-/
structure RerankerSettings where
  method : RerankMethod := .rrf
  rrfConstant : Binary := Reranker.defaultConstant
  linearWeight : Binary := Reranker.defaultWeight
  linearFill : Binary := .one
  mrrWeightVector : Binary := Reranker.defaultRankWeight
  mrrWeightFts : Binary := Reranker.defaultRankWeight

structure QuerySettings where
  /-- How many candidates each side returns. -/
  subSearchLimit : Int := 100
  /-- How many seconds each sub-search has. -/
  timeout : Binary := .finite 30
  concurrent : Bool := true

structure MilvusSettings where
  uri : String := "http://localhost:19530"
  token : String := ""
  database : String := "default"
  connectTimeout : Binary := .finite 60
  vectorField : String := "vector"
  sparseField : String := "sparse"
  textField : String := "text"
  distanceMetric : DistanceMetric := .cosine
  maxWorkers : Int := 4
  /-- The share of unimportant terms that a text search drops. -/
  dropRatio : Binary := Decimal.read false 2 (-1)

structure MonitoringSettings where
  logLevel : String := "INFO"
  enableMetrics : Bool := true
  historySize : Int := 1000

namespace RerankerSettings

def fields : List (FormField RerankerSettings) := [
  { FormField.ofReader "method" (.member RerankMethod.ofName?) (fun s x => { s with method := x })
      (fun s => .text s.method.name) with members := RerankMethod.all.map (·.name) },
  .ofReader "rrf_k" (.boundedReal .positive) (fun s x => { s with rrfConstant := x })
    (fun s => .real s.rrfConstant),
  .ofReader "linear_weight" (.boundedReal .unit) (fun s x => { s with linearWeight := x })
    (fun s => .real s.linearWeight),
  .ofReader "linear_fill" (.boundedReal .nonNegative) (fun s x => { s with linearFill := x })
    (fun s => .real s.linearFill),
  .ofReader "mrr_weight_vector" (.boundedReal .unit) (fun s x => { s with mrrWeightVector := x })
    (fun s => .real s.mrrWeightVector),
  .ofReader "mrr_weight_fts" (.boundedReal .unit) (fun s x => { s with mrrWeightFts := x })
    (fun s => .real s.mrrWeightFts)]

def toReranker (s : RerankerSettings) : Except Failure Reranker :=
  Reranker.create (.text s.method.name) <|
    match s.method with
    | .rrf => [("k", .real s.rrfConstant)]
    | .linear => [("weight", .real s.linearWeight), ("fill", .real s.linearFill)]
    | .mrr => [("weight_vector", .real s.mrrWeightVector), ("weight_fts", .real s.mrrWeightFts)]

end RerankerSettings

namespace QuerySettings

def fields : List (FormField QuerySettings) := [
  .ofReader "sub_search_limit" (.boundedInteger .positive)
    (fun s x => { s with subSearchLimit := x }) (fun s => .int s.subSearchLimit),
  .ofReader "timeout" (.boundedReal .positive) (fun s x => { s with timeout := x })
    (fun s => .real s.timeout),
  .ofReader "concurrent_sub_searches" .truth (fun s x => { s with concurrent := x })
    (fun s => .bool s.concurrent)]

end QuerySettings

namespace MilvusSettings

def ratioBounds : Bounds := { atLeast := some .zero, below := some .one }

def fields : List (FormField MilvusSettings) := [
  .ofReader "uri" .text (fun s x => { s with uri := x }) (fun s => .text s.uri),
  .ofReader "token" .text (fun s x => { s with token := x }) (fun s => .text s.token),
  .ofReader "db_name" .text (fun s x => { s with database := x }) (fun s => .text s.database),
  .ofReader "connect_timeout" (.boundedReal .positive) (fun s x => { s with connectTimeout := x })
    (fun s => .real s.connectTimeout),
  .ofReader "vector_field" .text (fun s x => { s with vectorField := x })
    (fun s => .text s.vectorField),
  .ofReader "sparse_field" .text (fun s x => { s with sparseField := x })
    (fun s => .text s.sparseField),
  .ofReader "text_field" .text (fun s x => { s with textField := x }) (fun s => .text s.textField),
  { FormField.ofReader "distance_type" (.member DistanceMetric.ofName?)
      (fun s x => { s with distanceMetric := x }) (fun s => .text s.distanceMetric.name) with
    members := DistanceMetric.all.map (·.name) },
  .ofReader "max_workers" (.boundedInteger .positive) (fun s x => { s with maxWorkers := x })
    (fun s => .int s.maxWorkers),
  .ofReader "drop_ratio_search" (.boundedReal ratioBounds) (fun s x => { s with dropRatio := x })
    (fun s => .real s.dropRatio)]

end MilvusSettings

namespace MonitoringSettings

def levels : List (String × Nat) :=
  [("DEBUG", 10), ("INFO", 20), ("WARNING", 30), ("ERROR", 40), ("CRITICAL", 50)]

/--
The capital of a letter, if that is an ASCII letter; any other character itself. Two letters beyond
ASCII have such a capital.
-/
def capital (c : Char) : Char :=
  if c = 'ı' then 'I' else if c = 'ſ' then 'S' else c.toUpper

def readLevel : Reader String := fun v =>
  (Reader.text v).bind fun name =>
    let level := String.ofList (name.toList.map capital)
    let names := levels.map (·.1)
    .require (decide (level ∈ names)) (.rule (.logLevel name names)) level

def fields : List (FormField MonitoringSettings) := [
  .ofReader "log_level" readLevel (fun s x => { s with logLevel := x })
    (fun s => .text s.logLevel),
  .ofReader "enable_metrics" .truth (fun s x => { s with enableMetrics := x })
    (fun s => .bool s.enableMetrics),
  .ofReader "metrics_history_size" (.boundedInteger .positive)
    (fun s x => { s with historySize := x }) (fun s => .int s.historySize)]

def levelNumber (s : MonitoringSettings) : Nat :=
  ((levels.find? fun l => l.1 == s.logLevel).map (·.2)).getD 0

end MonitoringSettings

end RankFusion
