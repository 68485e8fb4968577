import RankFusion.Batch.Basic

/-!
This module contains the merge of a vector batch and a text batch into one batch without repeated
row identifiers. Every vector row is kept; text rows follow if their identifier is new.
-/

namespace RankFusion

inductive Side where
  | vector
  | fts
  deriving DecidableEq, Repr

def Side.name : Side → String
  | vector => "vector"
  | fts => "fts"

namespace Schema

/--
The field that a merge keeps for a field of the first side. A column without values takes its
definition from the second side.
-/
def commonField (second : Schema) (f : Field) : Except Failure Field := do
  if f.type = .null then
    let g ← second.field f.name
    return { g with nullable := true }
  else return f

def common (first second : Schema) : Except Failure Schema := do
  let shared := first.fields.filter fun f => f.name ∈ second.names
  return ⟨← shared.mapM (commonField second), first.metadata⟩

end Schema

def unseenPositions.go (seen : List Int) (i : Nat) : List (Option Int) → List Nat
  | [] => []
  | none :: ids => go seen (i + 1) ids
  | some id :: ids => if id ∈ seen then go seen (i + 1) ids else i :: go (id :: seen) (i + 1) ids

/--
The positions of the identifiers that are present, not among `seen`, and not repeated before.
-/
def unseenPositions (seen : List Int) (ids : List (Option Int)) : List Nat :=
  unseenPositions.go seen 0 ids

namespace Batch

def mergeColumn (vector fts : Batch) (kept : List Nat) (f : Field) : Except Failure Column := do
  let first ← vector.cells f.name
  let second ← fts.cells f.name
  let cells ←
    Cells.concat f first ((List.range vector.rows).map Int.ofNat) second (kept.map Int.ofNat)
  return ⟨f, cells.values⟩

/--
The side that a merge hands back as it is: the other one has no rows.
-/
def loneSide? (vector fts : Batch) : Option Side :=
  if vector.rows = 0 then some .fts
  else if fts.rows = 0 then some .vector
  else none

def mergeRows (vector fts : Batch) : Except Failure Batch := do
  let schema ← vector.schema.common fts.schema
  let vectorIds ← vector.rowIds
  let ftsIds ← fts.rowIds
  let kept := unseenPositions (vectorIds.filterMap id) ftsIds
  let columns ← schema.fields.mapM (mergeColumn vector fts kept)
  match ofColumns? columns schema.metadata with
  | some merged => return merged
  | none => throw (.data .rowPosition)

/--
The merge of a vector batch and a text batch. If one of them has no rows, the result is the other
one with all its columns.
-/
def merge (vector fts : Batch) : Except Failure Batch :=
  match loneSide? vector fts with
  | some .fts => .ok fts
  | some .vector => .ok vector
  | none => mergeRows vector fts

end Batch

end RankFusion
