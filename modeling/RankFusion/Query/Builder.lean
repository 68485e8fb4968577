import RankFusion.Query.Basic

/-!
This module contains the calls that build up a query step by step. A call either takes effect or
fails; a value that breaks a rule is taken back.
-/

namespace RankFusion

inductive BuilderCall where
  | rerank (choice : RerankerChoice)
  | filter (predicate : Value)
  | select (columns : Value)
  | limit (count : Value)
  | offset (count : Value)
  | fastSearch
  | postfilter
  | withRowId (enabled : Value)
  | ftsColumns (columns : Value)
  | subSearchLimit (count : Value)
  | column (name : Value)
  | distanceMetric (name : Value)
  | nprobes (count : Value)
  | refineFactor (count : Value)
  | bypassVectorIndex
  | ef (width : Value)
  | minimumNprobes (count : Value)
  | maximumNprobes (count : Value)
  | distanceRange (lower upper : Value)
  | addQueryVector (vector : Value)

namespace BuilderCall

def parameters : List (String × List String × Nat) :=
  [("where", ["predicate"], 1), ("select", ["columns"], 1), ("limit", ["limit"], 1),
   ("offset", ["offset"], 1), ("fast_search", [], 0), ("postfilter", [], 0),
   ("with_row_id", [], 1), ("fts_columns", ["columns"], 1), ("sub_search_limit", ["limit"], 1),
   ("column", ["column"], 1), ("distance_type", ["distance_type"], 1), ("nprobes", ["nprobes"], 1),
   ("refine_factor", ["refine_factor"], 1), ("bypass_vector_index", [], 0), ("ef", ["ef"], 1),
   ("minimum_nprobes", ["minimum_nprobes"], 1), ("maximum_nprobes", ["maximum_nprobes"], 1),
   ("distance_range", [], 2), ("add_query_vector", ["vector"], 1)]

/--
Requires a call to be known and to have as many arguments as it takes. The query itself counts as an
argument.
-/
def requireArguments (name : String) (count : Nat) : Except Failure Unit :=
  match parameters.lookup name with
  | none => .error (.operand (.missingAttribute "HybridQuery" name))
  | some (required, all) =>
    let callee := "HybridQuery." ++ name
    if all < count then
      .error (.operand (.tooManyArguments callee (required.length + 1) (all + 1) (count + 1)))
    else
      match required.drop count with
      | parameter :: _ => .error (.operand (.missingArgument callee parameter))
      | [] => .ok ()

def ofArguments (name : String) (args : List Value) : Except Failure BuilderCall := do
  requireArguments name args.length
  let first := args.headD .null
  match name with
  | "where" => return filter first
  | "select" => return select first
  | "limit" => return limit first
  | "offset" => return offset first
  | "fast_search" => return fastSearch
  | "postfilter" => return postfilter
  | "with_row_id" => return withRowId (args.headD (.bool true))
  | "fts_columns" => return ftsColumns first
  | "sub_search_limit" => return subSearchLimit first
  | "column" => return column first
  | "distance_type" => return distanceMetric first
  | "nprobes" => return nprobes first
  | "refine_factor" => return refineFactor first
  | "bypass_vector_index" => return bypassVectorIndex
  | "ef" => return ef first
  | "minimum_nprobes" => return minimumNprobes first
  | "maximum_nprobes" => return maximumNprobes first
  | "distance_range" => return distanceRange first (args.getD 1 .null)
  | _ => return addQueryVector first

end BuilderCall

namespace HybridQuery

/--
The state after a call that put the second configuration in the place of the first. A broken rule
takes the change back, other failures do not.
-/
def settle (q : HybridQuery) (changed : QueryConfig) (check : Except Failure Unit) :
    HybridQuery × Option Failure :=
  match check with
  | .ok () => ({ q with config := changed }, none)
  | .error f =>
    if f.kind.isA .invalidParameter then (q, some f) else ({ q with config := changed }, some f)

def update (q : HybridQuery) (changed : QueryConfig) : HybridQuery × Option Failure :=
  q.settle changed changed.validate

def tune (q : HybridQuery) (changed : VectorTuning) : HybridQuery × Option Failure :=
  q.settle { q.config with vector := changed } changed.validate

/--
The state after a change that is computed first and takes effect only if that succeeds.
-/
def change (q : HybridQuery) (changed : Except Failure HybridQuery) :
    HybridQuery × Option Failure :=
  match changed with
  | .ok q => (q, none)
  | .error f => (q, some f)

def projection : Value → Except Failure Value
  | .dict es => .ok (.dict es)
  | .list vs => .ok (.list vs)
  | v => .error (.parameter (.projectionKind v.kindName))

/--
The list of additional vectors with one more at its end. It has to have the dimension of the main
vector.
-/
def extendVectors (q : HybridQuery) (vector : Value) : Except Failure Value := do
  let dimension ← vector.length
  if dimension ≠ q.vector.length then
    throw (.parameter (.dimension dimension q.vector.length))
  match q.config.vector.additionalVectors with
  | .list vs => return .list (vs ++ [.list ((← vector.vector).map .real)])
  | v => throw (.operand (.missingAttribute v.kindName "append"))

def apply (q : HybridQuery) (call : BuilderCall) : HybridQuery × Option Failure :=
  let config := q.config
  let tuning := q.config.vector
  match call with
  | .rerank choice => q.change (choice.required.map fun c => { q with reranker := c })
  | .filter p => ({ q with config := { config with predicate := p } }, none)
  | .select columns =>
    q.change ((projection columns).map fun s => { q with config := { config with select := s } })
  | .limit n => q.update { config with limit := n }
  | .offset n => q.update { config with offset := n }
  | .fastSearch => ({ q with config := { config with fastSearch := .bool true } }, none)
  | .postfilter => ({ q with config := { config with postfilter := .bool true } }, none)
  | .withRowId enabled => ({ q with withRowId := enabled }, none)
  | .ftsColumns columns =>
    q.change ((columnList columns).map fun c =>
      { q with config := { config with ftsColumns := c } })
  | .subSearchLimit n => q.update { config with subSearchLimit := n }
  | .column name => q.tune { tuning with column := name }
  | .distanceMetric name => q.tune { tuning with distanceMetric := .ofValue name }
  | .nprobes n => q.tune { tuning with nprobes := n }
  | .refineFactor n => q.tune { tuning with refineFactor := n }
  | .bypassVectorIndex => q.tune { tuning with bypassVectorIndex := .bool true }
  | .ef n => q.tune { tuning with ef := n }
  | .minimumNprobes n => q.tune { tuning with minimumNprobes := n }
  | .maximumNprobes n => q.tune { tuning with maximumNprobes := n }
  | .distanceRange lower upper => q.tune { tuning with distanceRange := .list [lower, upper] }
  | .addQueryVector vector =>
    q.change ((q.extendVectors vector).map fun vs =>
      { q with config := { config with vector := { tuning with additionalVectors := vs } } })

end HybridQuery

end RankFusion
