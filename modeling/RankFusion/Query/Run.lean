import RankFusion.Batch.Slice
import RankFusion.Metrics.History
import RankFusion.Query.Basic
import RankFusion.Search.Reply

/-!
This module contains the run of a query: both sub-searches, the fusion of their results, and the
window that is cut from the fused rows. A run reports its metrics to an observer, whatever its end.
-/

namespace RankFusion

/--
Who is told the metrics of every run, with a state of its own. Telling may fail with a text.
-/
abbrev Observer (τ : Type) := Metrics → τ → τ × Option String

namespace Observer

def silent {τ : Type} : Observer τ := fun _ s => (s, none)

def failing {τ : Type} (text : String) : Observer τ := fun _ s => (s, some text)

def recording : Observer MetricsHistory := fun m h => (h.record m, none)

def collecting : Observer (List Metrics) := fun m ms => (ms ++ [m], none)

end Observer

namespace QueryConfig

/--
The first rows of a batch, as many as the limit tells. A limit that cuts is less than their number,
so its range needs no check.
-/
def applyLimit (c : QueryConfig) (b : Batch) : Except Failure Batch := do
  if c.limit.isNull then return b
  if ← (Value.int b.rows).compare .gt c.limit then b.slice 0 (← slicePosition c.limit)
  else return b

def applyOffset (c : QueryConfig) (b : Batch) : Except Failure Batch := do
  if !c.offset.isTruthy then return b
  let skipped := if ← (Value.int b.rows).compare .lt c.offset then .int b.rows else c.offset
  let start ← slicePosition skipped
  b.slice start (b.rows - start)

def window (c : QueryConfig) (b : Batch) : Except Failure Batch := do
  c.applyOffset (← c.applyLimit b)

end QueryConfig

/--
A run in progress: the metrics so far, and what it has come to.
-/
structure RunState where
  metrics : Metrics
  outcome : Except Interruption Batch

namespace RunState

def close (r : RunState) : Metrics × List LogEntry :=
  match r.outcome with
  | .error (.failed f) =>
    ({ r.metrics with status := .failure, errorMessage := .text f.message },
     [⟨.error, "Hybrid query failed during " ++ r.metrics.stage.name ++ ": " ++ f.message⟩])
  | _ => (r.metrics, [])

end RunState

structure Execution where
  outcome : Except Interruption Batch
  metrics : Metrics
  /-- The sub-searches that were issued, in order. -/
  requests : List SubSearch
  /-- The ends of the sub-searches in the order of their occurrence. -/
  events : List (Side × Progress)
  log : List LogEntry

namespace HybridQuery

def rowMetric (b : Batch) : Value := .int b.rows

def present (q : HybridQuery) (fused : Batch) : Except Failure Batch := do
  let b ← q.config.window fused
  if q.withRowId.isTruthy then return b else return b.dropColumn rowIdColumn

def finish (q : HybridQuery) (m : Metrics) (fused : Batch) : RunState :=
  match q.present fused with
  | .error f => ⟨{ m with stage := .sliced }, .error (.failed f)⟩
  | .ok b => ⟨{ m with stage := .complete, resultsCount := rowMetric b }, .ok b⟩

def fuse (q : HybridQuery) (m : Metrics) (vector fts : Batch) : RunState :=
  let m := { m with
    stage := .reranking, vectorResults := rowMetric vector, ftsResults := rowMetric fts }
  match q.reranker.rerank vector fts q.query with
  | .error f => ⟨m, .error (.failed f)⟩
  | .ok fused => q.finish { m with fusedResults := rowMetric fused } fused

def afterSubSearches (q : HybridQuery) (m : Metrics)
    (found : Except Interruption (Batch × Batch)) : RunState :=
  match found with
  | .error i => ⟨{ m with stage := .subSearching }, .error i⟩
  | .ok (vector, fts) => q.fuse m vector fts

def startMetrics (q : HybridQuery) (strategy : String) : Metrics :=
  { reranker := .text strategy, concurrent := q.concurrent }

def observerLog : Option String → List LogEntry
  | some text => [⟨.error, "Metrics callback failed: " ++ text⟩]
  | none => []

/--
The part of a run that an observer does not see: its end, what was issued, and the state of the
engine afterwards.
-/
structure Attempt (σ : Type) where
  state : RunState
  requests : List SubSearch := []
  events : List (Side × Progress) := []
  log : List LogEntry := []
  engine : σ

/--
Checks the configuration and takes the query through all stages. The caller may give up at a tick.
-/
def attempt {σ : Type} (q : HybridQuery) (m : Metrics) (ex : Executor σ) (timeout : Value)
    (giveUp : Option Nat) (s : σ) : Attempt σ :=
  match q.config.validate with
  | .error f => { state := ⟨m, .error (.failed f)⟩, engine := s }
  | .ok () =>
    let found := SubSearches.run q.concurrent.isTruthy ex giveUp (q.request .vector timeout)
      (q.request .fts timeout) s
    { state := q.afterSubSearches m found.joint.outcome
      requests := found.requests
      events := found.joint.events
      log := found.joint.log
      engine := found.state }

def effectiveTimeout (q : HybridQuery) (timeout : Value) : Value :=
  if timeout.isNull then q.timeout else timeout

/--
Runs a query on an engine and tells an observer. Without a strategy the run does not begin, and the
observer is not told.
-/
def execute {σ τ : Type} (q : HybridQuery) (ex : Executor σ) (observer : Observer τ)
    (timeout : Value) (giveUp : Option Nat) (s : σ) (t : τ) : Execution × σ × τ :=
  match q.reranker.name with
  | .error f =>
    let nothing : Execution :=
      { outcome := .error (.failed f), metrics := {}, requests := [], events := [], log := [] }
    (nothing, s, t)
  | .ok name =>
    let a := q.attempt (q.startMetrics name) ex (q.effectiveTimeout timeout) giveUp s
    let (metrics, failureLog) := a.state.close
    let (t, told) := observer metrics t
    ({ outcome := a.state.outcome
       metrics
       requests := a.requests
       events := a.events
       log := a.log ++ failureLog ++ observerLog told }, a.engine, t)

end HybridQuery

end RankFusion
