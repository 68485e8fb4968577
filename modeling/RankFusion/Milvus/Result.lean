import RankFusion.Column.Convert
import RankFusion.Milvus.Call
import RankFusion.Milvus.Field
import RankFusion.Milvus.Hit
import RankFusion.Value.Array

/-!
This module contains the batches that the hits of a search turn into.
-/

namespace RankFusion.Milvus

/--
The entity of a hit. A hit may come without one.
-/
def entityOf : Value → Value
  | .dict es => (Value.lookup? "entity" es).getD (.dict [])
  | _ => .dict []

def fieldValue (name : Value) : Value → Except Failure Value
  | .dict es => do
    name.requireKey
    return match name with
      | .text s => Value.lookup s es
      | _ => .null
  | v => .error (.operand (.missingAttribute v.kindName "get"))

/--
The fields that a batch shows: those of the projection, or else those of the first hit.
-/
def shownFields (p : Projection) (hits : List Value) : Except Failure (List Value) :=
  match p.fields, hits with
  | [], h :: _ =>
    match entityOf h with
    | .dict es => .ok (es.map fun e => .text e.1)
    | v => .error (.operand (.missingAttribute v.kindName "keys"))
  | fields, _ => .ok fields

/--
The column of a field. A field of unknown type has the type that its values show. No collection has
a field that is named by a byte string.
-/
def fieldColumn (types : FieldTypes) (p : Projection) (hits : List Value) (field : Value) :
    Except Failure Column := do
  let found ← hits.mapM fun h => fieldValue field (entityOf h)
  field.requireKey
  match field with
  | .text name =>
    let cells ← Cells.ofValues (types.lookup? name) found
    return ⟨⟨p.outputName name, cells.type, true⟩, cells.values⟩
  | .bytes bs =>
    match String.fromUTF8? ⟨bs.toArray⟩ with
    | some name =>
      let cells ← Cells.ofValues none found
      return ⟨⟨name, cells.type, true⟩, cells.values⟩
    | none => throw (.data .invalid)
  | v => throw (.data (.fieldName v.kindName))

def unsignedWord (n : Int) : Int := if n < 0 then n + 0x10000000000000000 else n

/--
A failure to read the row identifiers. Only integers beyond the range are told apart.
-/
def rowIdFailure (collection : String) (f : Failure) : Failure :=
  match f with
  | .operand _ =>
    if f.kind.isA .type || f.kind.isA .value then .search (.rowIdKey collection) else f
  | f => f

def rowIdColumnOf (collection : String) (hits : List Value) : Except Failure Column := do
  let ids ← hits.mapM fun h => h.part "id"
  let words ← (Value.list ids).words.mapError (rowIdFailure collection)
  return ⟨⟨rowIdColumn, .uint64, false⟩, words.map fun n => .int (unsignedWord n)⟩

def rankColumnName : Side → String
  | .vector => distanceColumn
  | .fts => scoreColumn

def rankColumn (side : Side) (hits : List RankedHit) : Column :=
  ⟨⟨rankColumnName side, .float32, true⟩,
    hits.map fun h => .real (Format.single.convert h.value)⟩

def rank (c : CollectionConfig) (s : SubSearch) (lists : Value) :
    Except Failure (List RankedHit) :=
  match s.side with
  | .vector => bestHits (metricOf c s) lists
  | .fts => scoredHits lists

def toBatch (c : CollectionConfig) (types : FieldTypes) (s : SubSearch) (p : Projection)
    (lists : Value) : Except Failure Batch := do
  let ranked ← rank c s lists
  let hits := ranked.map (·.hit)
  let columns ← (← shownFields p hits).mapM (fieldColumn types p hits)
  let ids ← if s.withRowId.isTruthy then do pure [← rowIdColumnOf c.collection hits] else pure []
  match Batch.ofColumns? (columns ++ ids ++ [rankColumn s.side ranked]) none with
  | some b => return b
  | none => throw (.data .invalid)

end RankFusion.Milvus
