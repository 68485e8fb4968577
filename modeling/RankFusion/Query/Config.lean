import RankFusion.Query.Tuning

/-!
This module contains the configuration of a query: what both sub-searches share, the tuning of the
vector side, and the window that is cut from the fused rows.
-/

namespace RankFusion

structure QueryConfig where
  /-- A filter for both sides. -/
  predicate : Value := .null
  /-- Whether to skip data that no index covers yet. -/
  fastSearch : Value := .bool false
  /-- Whether to filter after the search. -/
  postfilter : Value := .bool false
  /-- The output columns, or a mapping from output names to expressions. -/
  select : Value := .null
  /-- How many fused rows to keep. -/
  limit : Value := .null
  /-- How many of the kept rows to skip. -/
  offset : Value := .null
  /-- The columns of the text side. -/
  ftsColumns : Value := .null
  /-- How many candidates each side returns. -/
  subSearchLimit : Value := .null
  vector : VectorTuning := {}

namespace QueryConfig

def validate (c : QueryConfig) : Except Failure Unit := do
  c.vector.validate
  requireNonNegative "limit" c.limit
  requireNonNegative "offset" c.offset
  requirePositive "sub_search_limit" c.subSearchLimit

def ownEntries (c : QueryConfig) : List (String × Value) :=
  [("predicate", c.predicate), ("fast_search", c.fastSearch), ("postfilter", c.postfilter),
   ("select", c.select), ("limit", c.limit), ("offset", c.offset), ("fts_columns", c.ftsColumns),
   ("sub_search_limit", c.subSearchLimit)]

def entries (c : QueryConfig) : List (String × Value) :=
  c.ownEntries ++ [("vector", .dict c.vector.entries)]

def parameters : List String := (entries {}).map (·.1)

/--
The configuration with settings given by name, all of which have to be known and obey the rules. The
tuning of the vector side is a mapping of its own.
-/
def ofEntries (es : List (String × Value)) : Except Failure QueryConfig := do
  let vector ← VectorTuning.ofValue (Value.lookup "vector" es)
  requireKeywords "HybridQueryConfig.__init__" parameters es
  let given (name : String) (usual : Value) := (Value.lookup? name es).getD usual
  let c : QueryConfig := {
    predicate := given "predicate" .null
    fastSearch := given "fast_search" (.bool false)
    postfilter := given "postfilter" (.bool false)
    select := given "select" .null
    limit := given "limit" .null
    offset := given "offset" .null
    ftsColumns := given "fts_columns" .null
    subSearchLimit := given "sub_search_limit" .null
    vector := vector }
  c.validate
  return c

end QueryConfig

end RankFusion
