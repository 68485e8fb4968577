import RankFusion.Milvus.Result

/-!
This module contains the engine that runs sub-searches on a Milvus collection: it learns the types
of the fields before the first search, calls the search, and turns its hits into a ranked batch.
-/

namespace RankFusion.Milvus

inductive SearchAnswer where
  /-- The hits of every query vector, or of the text. -/
  | hits (lists : Value)
  | raises (fault : Failure)
  /-- The answer comes once the deadline is over. Without a deadline it is waited for. -/
  | late (answer : SearchAnswer)

def SearchAnswer.hangs : SearchAnswer := late (raises (.raised .exception ""))

structure Client where
  /-- The answer to a request for the description of the collection. -/
  describe : Except Failure Value
  search : SearchCall → SearchAnswer

structure MilvusExecutor where
  config : CollectionConfig
  /-- The types of the fields, once they are known. -/
  fieldTypes : Option FieldTypes := none
  closed : Bool := false

namespace MilvusExecutor

def parameters : List String :=
  ["vector_field", "sparse_field", "text_field", "default_distance_type", "default_limit",
   "max_workers", "drop_ratio_search"]

def requireWorkers (v : Value) : Except Failure Unit := do
  if !v.isNull then
    if ← v.compare .le (.int 0) then throw (.operand .workers)

def ofEntries (collection : String) (es : List (String × Value)) :
    Except Failure MilvusExecutor := do
  requireFreeKeywords "MilvusSearchExecutor.__init__" ["client", "collection_name"] parameters es
  let usual : CollectionConfig := { collection }
  let given (name : String) (v : Value) := (Value.lookup? name es).getD v
  let metric ← requireMetric (given "default_distance_type" (.text usual.distanceMetric.name))
  requireWorkers (given "max_workers" (.int 4))
  let vectorField := given "vector_field" usual.vectorField
  let sparseField := given "sparse_field" usual.sparseField
  -- The log shows the fields of a new engine.
  Value.requirePrintable [vectorField, sparseField]
  return { config := {
    collection
    vectorField, sparseField
    textField := given "text_field" usual.textField
    distanceMetric := metric
    limit := given "default_limit" usual.limit
    dropRatio := given "drop_ratio_search" usual.dropRatio } }

def entries (e : MilvusExecutor) : List (String × Value) :=
  [("vector_field", e.config.vectorField), ("sparse_field", e.config.sparseField),
   ("text_field", e.config.textField),
   ("default_distance_type", .text e.config.distanceMetric.name),
   ("default_limit", e.config.limit), ("drop_ratio_search", e.config.dropRatio)]

def close (e : MilvusExecutor) : MilvusExecutor := { e with closed := true }

end MilvusExecutor

structure Traffic where
  /-- How often the description of the collection was requested. -/
  descriptions : Nat := 0
  /-- The search calls that were answered. -/
  calls : List SearchCall := []

/--
A sub-search on a collection: the reply, the engine afterwards, and what the client was asked.
-/
structure Searched where
  reply : Reply
  executor : MilvusExecutor
  traffic : Traffic

namespace MilvusExecutor

def searchFailure (s : SubSearch) (f : Failure) : Failure × List LogEntry :=
  if f.kind.isA .timeout then ((Failure.timedOut s.side.name s.timeout).worded, [])
  else
    let fault := SearchFault.failed s.side.name f.message
    (.search fault, [⟨.error, fault.message⟩])

def failed (e : MilvusExecutor) (s : SubSearch) (startLog : List LogEntry) (traffic : Traffic)
    (f : Failure) : Searched :=
  let (fault, endLog) := searchFailure s f
  ⟨{ outcome := .error fault, delay := 1, startLog, endLog }, e, traffic⟩

def learnFields (e : MilvusExecutor) (client : Client) : Except Failure FieldTypes × Nat :=
  match e.fieldTypes with
  | some ts => (.ok ts, 0)
  | none => (client.describe.bind describedTypes, 1)

def elapsed : Failure := .raised .timeout ""

/--
The failure that the deadline of a sub-search causes at once: it is over before it began, or no
moment. NaN is over as well, since no moment comes before it.
-/
def deadlineFailure? (s : SubSearch) : Option Failure :=
  if !s.timeout.isTruthy then none
  else
    match s.timeout.compare .le (.int 0), s.timeout.toReal with
    | .error f, _ => some f
    | .ok true, _ => some elapsed
    | .ok false, .error f => some f
    | .ok false, .ok x => if x.isNaN then some elapsed else none

def hasDeadline (s : SubSearch) : Bool :=
  s.timeout.isTruthy && !s.timeout.equal (.real (.infinity false))

def answered (e : MilvusExecutor) (s : SubSearch) (types : FieldTypes) (p : Projection)
    (startLog : List LogEntry) (traffic : Traffic) : SearchAnswer → Searched
  | .raises f => e.failed s startLog traffic f
  | .hits lists =>
    ⟨{ outcome := toBatch e.config types s p lists, delay := 1, startLog }, e, traffic⟩
  | .late answer =>
    if hasDeadline s then
      ⟨{ outcome := .error (searchFailure s elapsed).1, delay := 2, startLog }, e,
        { traffic with calls := [] }⟩
    else e.answered s types p startLog traffic answer

/--
Runs a search call and turns its hits into a batch. The call is made in the background, so a
deadline that is over at once comes before any failure of the call.
-/
def search (e : MilvusExecutor) (client : Client) (s : SubSearch) (call : SearchCall)
    (p : Projection) (startLog : List LogEntry) : Searched :=
  if e.closed then e.failed s startLog {} (.operand .closedPool)
  else
    let (types?, n) := e.learnFields client
    match types?, deadlineFailure? s with
    | .error _, some f => e.failed s startLog { descriptions := n } f
    | .error f, none => e.failed s startLog { descriptions := n } f
    | .ok types, some f =>
      failed { e with fieldTypes := some types } s startLog ⟨n, [call]⟩ f
    | .ok types, none =>
      answered { e with fieldTypes := some types } s types p startLog ⟨n, [call]⟩
        (client.search call)

/--
Runs a sub-search. One that cannot be turned into a search call fails at once.
-/
def execute (e : MilvusExecutor) (client : Client) (s : SubSearch) : Searched :=
  let startLog := callLog e.config s
  match searchCall e.config s with
  | .error f => ⟨{ outcome := .error f, delay := 0, startLog }, e, {}⟩
  | .ok (call, p) => e.search client s call p startLog

/--
The engine as one that queries run on. Its state also keeps what the client was asked.
-/
def asExecutor (client : Client) : Executor (MilvusExecutor × List SearchCall) := fun s state =>
  let found := state.1.execute client s
  (found.reply, found.executor, state.2 ++ found.traffic.calls)

end MilvusExecutor

end RankFusion.Milvus
