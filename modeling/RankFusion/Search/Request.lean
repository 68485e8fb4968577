import RankFusion.Batch.Merge
import RankFusion.Query.Tuning

/-!
This module contains the sub-searches that a query asks an engine to run.
-/

namespace RankFusion

/--
One sub-search. The limit is the number of candidates; the window of the query never shows here.
-/
structure SubSearch where
  side : Side
  predicate : Value := .null
  /-- The output columns, or a mapping from output names to expressions. -/
  columns : Value := .null
  withRowId : Value := .bool true
  fastSearch : Value := .bool false
  postfilter : Value := .bool false
  /-- How many seconds the engine has. -/
  timeout : Value := .null
  limit : Value := .null
  /-- The text to search for. -/
  queryText : Value := .null
  ftsColumns : Value := .null
  /-- The vector to search for. -/
  vector : Value := .null
  tuning : VectorTuning := {}

def requireSide (v : Value) : Except Failure Side :=
  if v.equal (.text Side.vector.name) then .ok .vector
  else if v.equal (.text Side.fts.name) then .ok .fts
  else .error (Failure.operand (.notMember v "SubSearchKind")).worded

namespace SubSearch

def entries (s : SubSearch) : List (String × Value) :=
  [("kind", .text s.side.name), ("predicate", s.predicate), ("columns", s.columns),
   ("with_row_id", s.withRowId), ("fast_search", s.fastSearch), ("postfilter", s.postfilter),
   ("timeout", s.timeout), ("limit", s.limit), ("query_text", s.queryText),
   ("fts_columns", s.ftsColumns), ("vector", s.vector),
   ("vector_params", .dict s.tuning.entries)]

def constructorName : String := "SubSearchRequest.__init__"

def parameters : List String := (entries { side := .vector }).map (·.1)

/--
The sub-search with fields given by name, all of which have to be known. The side has to be among
them; the other fields are left to the engine.
-/
def ofEntries (es : List (String × Value)) : Except Failure SubSearch := do
  let side? ← (Value.lookup? "kind" es).mapM requireSide
  let tuning ← VectorTuning.ofValue (Value.lookup "vector_params" es)
  requireKeywords constructorName parameters es
  let given (name : String) (usual : Value) := (Value.lookup? name es).getD usual
  let some side := side?
    | throw (.operand (.missingArgument constructorName "kind"))
  return {
    side
    predicate := given "predicate" .null
    columns := given "columns" .null
    withRowId := given "with_row_id" (.bool true)
    fastSearch := given "fast_search" (.bool false)
    postfilter := given "postfilter" (.bool false)
    timeout := given "timeout" .null
    limit := given "limit" .null
    queryText := given "query_text" .null
    ftsColumns := given "fts_columns" .null
    vector := given "vector" .null
    tuning }

end SubSearch

end RankFusion
