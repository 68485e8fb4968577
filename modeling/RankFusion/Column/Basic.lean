import RankFusion.Column.Type
import RankFusion.Value.Array

/-!
This module contains columns: a field, which names and types them, and one cell for every row.
-/

namespace RankFusion

/--
The name and type of a column. Nullability is carried along and not enforced.
-/
structure Field where
  name : String
  type : ColumnType
  nullable : Bool
  deriving DecidableEq

def Field.ensureSupported (f : Field) : Except Failure Unit :=
  if f.type.isSupported then .ok () else .error (.column (.unsupported f.name f.type.name))

structure Cells where
  type : ColumnType
  values : List Value

namespace Cells

def size (c : Cells) : Nat := c.values.length

/--
The cells at the given positions, in the given order. A position outside the column gives the absent
datum.
-/
def gather (c : Cells) (positions : List Nat) : Cells :=
  { c with values := positions.map fun i => c.values.getD i .null }

@[simp]
theorem size_gather (c : Cells) (positions : List Nat) :
    (c.gather positions).size = positions.length := by
  simp [gather, size]

def positions? (size : Nat) (indices : List Int) : Option (List Nat) :=
  if indices.all fun i => 0 ≤ i && i < size then some (indices.map Int.toNat) else none

/--
The cells at the given positions. It fails if one of them is outside the column.
-/
def take (c : Cells) (indices : List Int) : Except Failure Cells :=
  match positions? c.size indices with
  | some positions => .ok (c.gather positions)
  | none => .error (.data .rowPosition)

/--
A column without values adopts another type; all others keep their own.
-/
def adopt (c : Cells) (type : ColumnType) : Cells :=
  if c.type = .null then ⟨type, List.replicate c.size .null⟩ else c

@[simp]
theorem size_adopt (c : Cells) (type : ColumnType) : (c.adopt type).size = c.size := by
  unfold adopt
  split <;> simp [size]

/--
Two columns that are to be joined into one of the given field. A side without values adopts the type
of the field; after that the two types have to agree.
-/
def align (field : Field) (first second : Cells) : Except Failure (Cells × Cells) := do
  field.ensureSupported
  let first := first.adopt field.type
  let second := second.adopt field.type
  if second.type ≠ first.type then
    throw (.column (.mismatch field.name first.type.name second.type.name))
  return (first, second)

def append (first second : Cells) : Cells := { first with values := first.values ++ second.values }

def concat (field : Field) (first : Cells) (firstIndices : List Int) (second : Cells)
    (secondIndices : List Int) : Except Failure Cells := do
  let (first, second) ← align field first second
  return (← first.take firstIndices).append (← second.take secondIndices)

/--
As `concat`, with the positions in data that have to be lists of integers. The positions in the
first column are read and looked up before those in the second.
-/
def concatAt (field : Field) (first : Cells) (firstIndices : Value) (second : Cells)
    (secondIndices : Value) : Except Failure Cells := do
  let (first, second) ← align field first second
  let firstPart ← first.take (← firstIndices.words)
  let secondPart ← second.take (← secondIndices.words)
  return firstPart.append secondPart

end Cells

structure Column where
  field : Field
  values : List Value

namespace Column

def cells (c : Column) : Cells := ⟨c.field.type, c.values⟩

def gather (c : Column) (positions : List Nat) : Column :=
  { c with values := (c.cells.gather positions).values }

@[simp]
theorem length_values_gather (c : Column) (positions : List Nat) :
    (c.gather positions).values.length = positions.length := by
  simp [gather, Cells.gather]

@[simp]
theorem field_gather (c : Column) (positions : List Nat) :
    (c.gather positions).field = c.field := rfl

end Column

end RankFusion
