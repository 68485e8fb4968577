import RankFusion.Metrics.Basic

/-!
This module contains a history of the last runs' metrics and its summary.
-/

namespace RankFusion

/--
The metrics of the last runs, oldest first, up to a largest number of them.
-/
structure MetricsHistory where
  maxSize : Scalar
  runs : List Metrics := []

namespace MetricsHistory

def capacity (h : MetricsHistory) : Nat := h.maxSize.whole.toNat

def defaultSize : Value := .int 1000

def requireSize : Value → Except Failure Scalar
  | .int n => if Value.isWord n then .ok (.int n) else .error (.operand .tooLargeForSize)
  | .bool b => .ok (.bool b)
  | _ => .error (.operand .notInteger)

def create (maxSize : Value) : Except Failure MetricsHistory := do
  if ← maxSize.compare .le (.int 0) then throw (Failure.operand (.capacity maxSize)).worded
  return { maxSize := ← requireSize maxSize }

def ofEntries (es : List (String × Value)) : Except Failure MetricsHistory := do
  requireKeywords "MetricsHistory.__init__" ["max_size"] es
  create ((Value.lookup? "max_size" es).getD defaultSize)

/--
Adds the metrics of a run, and forgets the oldest if there are too many.
-/
def record (h : MetricsHistory) (m : Metrics) : MetricsHistory :=
  let runs := h.runs ++ [m]
  { h with runs := runs.drop (runs.length - h.capacity) }

def clear (h : MetricsHistory) : MetricsHistory := { h with runs := [] }

def addValue (total : Scalar) (v : Value) : Except Failure Scalar :=
  match Scalar.ofValue? v with
  | some s => total.add s
  | none => .error (.operand (.noArithmetic "+" total.toValue.kindName v.kindName))

def sum (vs : List Value) : Except Failure Scalar := vs.foldlM addValue (.int 0)

def mean (vs : List Value) : Except Failure Value := do
  return .real (((← (← sum vs).divide vs.length)).roundPlaces 2)

/--
Counts another occurrence of a key. A key keeps the form in which it first occurred.
-/
def countKey (key : Value) : List (Value × Nat) → List (Value × Nat)
  | [] => [(key, 1)]
  | c :: cs => if c.1.sameKey key then (c.1, c.2 + 1) :: cs else c :: countKey key cs

def rerankerCounts (runs : List Metrics) : Except Failure (List (Value × Nat)) :=
  runs.foldlM (fun counts m => do
    m.reranker.requireKey
    return countKey m.reranker counts) []

def keyText : Value → String
  | .null => "null"
  | .bool b => if b then "true" else "false"
  | .real .nan => "NaN"
  | .real (.infinity negative) => if negative then "-Infinity" else "Infinity"
  | v => v.plain

def successCount (runs : List Metrics) : Nat :=
  (runs.filter fun m => m.status == .success).length

def summarize (runs : List Metrics) : Except Failure (List (String × Value)) := do
  let total := runs.length
  let successful := successCount runs
  let counts ← rerankerCounts runs
  return [
    ("total_queries", .int total),
    ("successful", .int successful),
    ("failed", .int (total - successful : Int)),
    ("success_rate", .real (← (Scalar.int successful).divide total)),
    ("avg_vector_search_time_ms", ← mean (runs.map (·.vectorTime))),
    ("avg_fts_search_time_ms", ← mean (runs.map (·.ftsTime))),
    ("avg_rerank_time_ms", ← mean (runs.map (·.rerankTime))),
    ("avg_total_time_ms", ← mean (runs.map (·.totalTime))),
    ("avg_results", ← mean (runs.map (·.resultsCount))),
    ("rerankers", .dict (counts.map fun c => (keyText c.1, .int c.2)))]

def summary (h : MetricsHistory) : Except Failure (List (String × Value)) :=
  if h.runs.isEmpty then .ok [("message", .text "No metrics available")] else summarize h.runs

/--
The data of a column of a table. Numbers with a fraction or a gap among them are all shown in double
precision, and the gaps as NaN.
-/
def tableColumn (vs : List Value) : List Value :=
  let isNumber : Value → Bool
    | .int _ | .real _ => true
    | _ => false
  if vs.any isNumber && vs.all (fun v => isNumber v || v.isNull) &&
      vs.any (fun v => v matches .real _ || v.isNull) then
    vs.map fun v => .real ((v.number?.map Format.double.convert).getD .nan)
  else vs

/--
The names of the columns of a history as a table. An empty history has none.
-/
def columns (h : MetricsHistory) : List String := if h.runs.isEmpty then [] else Metrics.parameters

end MetricsHistory

end RankFusion
