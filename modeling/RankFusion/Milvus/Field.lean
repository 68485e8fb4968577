import RankFusion.Column.Type
import RankFusion.Value.Operand

/-!
This module contains the types of the fields of a collection, as far as they are known.
-/

namespace RankFusion.Milvus

def scalarTypes : List (String × Int × ColumnType) :=
  [("BOOL", 1, .bool), ("INT8", 2, .integer true .w32), ("INT16", 3, .integer true .w32),
   ("INT32", 4, .integer true .w32), ("INT64", 5, .integer true .w64), ("FLOAT", 10, .real .single),
   ("DOUBLE", 11, .real .double), ("VARCHAR", 21, .string)]

def columnType? (v : Value) : Option ColumnType :=
  (scalarTypes.find? fun t => v.equal (.text t.1) || v.equal (.int t.2.1)).map (·.2.2)

abbrev FieldTypes := List (String × ColumnType)

/--
The column type of a field. A field that is described twice has the later type.
-/
def FieldTypes.lookup? (ts : FieldTypes) (name : String) : Option ColumnType :=
  (ts.reverse.find? fun t => t.1 == name).map (·.2)

/--
The entries of a mapping that is asked for the value under a key. Nothing else can be asked so.
-/
def entriesOf : Value → Except Failure (List (String × Value))
  | .dict es => .ok es
  | v => .error (.operand (.missingAttribute v.kindName "get"))

/--
The name and column type of a described field, if it is scalar. Types are looked up and names are
kept as keys, so each has to be a possible key.
-/
def describedField (field : Value) : Except Failure (Option (String × ColumnType)) := do
  let es ← entriesOf field
  let type := Value.lookup "type" es
  type.requireKey
  match columnType? type with
  | none => return none
  | some t =>
    match Value.lookup? "name" es with
    | some (.text name) => return some (name, t)
    | some name => do
      name.requireKey
      return none
    | none => throw (.operand (.missingKey "name"))

def describedTypes (description : Value) : Except Failure FieldTypes := do
  let es ← entriesOf description
  let fields ← (Value.lookup? "fields" es).elim (pure []) Value.items
  return (← fields.mapM describedField).filterMap id

end RankFusion.Milvus
