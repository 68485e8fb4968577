import RankFusion.Column.Basic

/-!
This module contains batches of result rows and their schemas: lookup by column name, and the
operations that choose, add or cut rows and columns.
-/

namespace RankFusion

def rowIdColumn : String := "_rowid"

def relevanceColumn : String := "_relevance_score"

def distanceColumn : String := "_distance"

def scoreColumn : String := "_score"

structure Schema where
  fields : List Field
  metadata : Option (List (String × String))
  deriving DecidableEq

namespace Schema

def names (s : Schema) : List String := s.fields.map (·.name)

/--
The position of the column of a name. A name that occurs more than once is not found.
-/
def index? (s : Schema) (name : String) : Option Nat :=
  if s.names.count name = 1 then some (s.names.idxOf name) else none

def index (s : Schema) (name : String) : Except Failure Nat :=
  match s.index? name with
  | some i => .ok i
  | none => .error (.column (.missing name s.names))

def field (s : Schema) (name : String) : Except Failure Field :=
  match s.fields.filter fun f => f.name == name with
  | [f] => .ok f
  | _ => .error (.data .ambiguousField)

end Schema

/--
The number of rows of a list of columns. There are none without columns.
-/
def rowCount : List Column → Nat
  | [] => 0
  | c :: _ => c.values.length

theorem rowCount_eq_of_forall {columns : List Column} {n : Nat}
    (h : ∀ c ∈ columns, c.values.length = n) :
    ∀ c ∈ columns, c.values.length = rowCount columns := by
  cases columns with
  | nil => simp
  | cons c rest =>
    intro d hd
    rw [h d hd, rowCount, h c (by simp)]

/--
A batch of rows. All columns have a cell for every row.
-/
structure Batch where
  columns : List Column
  metadata : Option (List (String × String))
  aligned : ∀ c ∈ columns, c.values.length = rowCount columns

namespace Batch

def ofColumns? (columns : List Column) (metadata : Option (List (String × String))) :
    Option Batch :=
  if h : ∀ c ∈ columns, c.values.length = rowCount columns then some ⟨columns, metadata, h⟩
  else none

def rows (b : Batch) : Nat := rowCount b.columns

def schema (b : Batch) : Schema := ⟨b.columns.map (·.field), b.metadata⟩

def cells (b : Batch) (name : String) : Except Failure Cells := do
  let i ← b.schema.index name
  match b.columns[i]? with
  | some c => return c.cells
  | none => throw (.column (.missing name b.schema.names))

def integer? : Value → Option Int
  | .int n => some n
  | _ => none

/--
The row identifiers. A row may be without one.
-/
def rowIds (b : Batch) : Except Failure (List (Option Int)) := do
  let c ← b.cells rowIdColumn
  if c.type = .uint64 then return c.values.map integer?
  else throw (.column (.rowIdType c.type.name))

def numbers (b : Batch) (name : String) : Except Failure (List Value) := do
  let c ← b.cells name
  if c.type.isNumeric then return c.values
  else throw (.column (.notNumeric name c.type.name))

def gather (b : Batch) (positions : List Nat) : Batch where
  columns := b.columns.map (·.gather positions)
  metadata := b.metadata
  aligned := rowCount_eq_of_forall (n := positions.length) (by simp)

/--
Fails if one of the columns cannot be reordered, or if a row position is outside the batch,
whichever the columns show first.
-/
def ensureTakeable (b : Batch) (indices : List Int) : Except Failure Unit :=
  b.columns.forM fun c => do
    c.field.ensureSupported
    if (Cells.positions? c.cells.size indices).isNone then throw (.data .rowPosition)

def take (b : Batch) (indices : List Int) : Except Failure Batch := do
  b.ensureTakeable indices
  return b.gather (indices.map Int.toNat)

def withScores (b : Batch) (name : String) (scores : List Binary) (h : scores.length = b.rows) :
    Batch where
  columns := b.columns ++ [⟨⟨name, .float32, false⟩, scores.map .real⟩]
  metadata := b.metadata
  aligned := rowCount_eq_of_forall (n := b.rows) (by
    intro c hc
    simp only [List.mem_append, List.mem_singleton] at hc
    cases hc with
    | inl hc => exact b.aligned c hc
    | inr hc => simp [hc, h])

/--
The batch with a column of numbers in single precision added at the end. There has to be one number
for every row.
-/
def append (b : Batch) (name : String) (scores : List Binary) : Except Failure Batch :=
  let rounded := scores.map Format.single.convert
  if h : rounded.length = b.rows then .ok (b.withScores name rounded h)
  else .error (.operand (.columnLength name scores.length b.rows))

/--
The rows from one position up to, and without, another. Positions past the end are taken as the end.
-/
def extract (b : Batch) (start stop : Nat) : Batch where
  columns := b.columns.map fun c => { c with values := (c.values.drop start).take (stop - start) }
  metadata := b.metadata
  aligned := rowCount_eq_of_forall (n := min (stop - start) (b.rows - start)) (by
    intro c hc
    obtain ⟨d, hd, rfl⟩ := List.mem_map.1 hc
    simp [List.length_take, List.length_drop, b.aligned d hd, rows])

def slice (b : Batch) (offset length : Int) : Except Failure Batch :=
  if offset < 0 ∨ length < 0 then .error (.data .negativeOffset)
  else .ok (b.extract offset.toNat (offset.toNat + length.toNat))

def dropColumn (b : Batch) (name : String) : Batch where
  columns := b.columns.filter fun c => c.field.name != name
  metadata := b.metadata
  aligned := rowCount_eq_of_forall (n := b.rows) (by
    intro c hc
    exact b.aligned c (List.mem_filter.1 hc).1)

/--
The cells of one row under their column names. A repeated name keeps its first place and its last
cell.
-/
def row (b : Batch) (i : Nat) : List (String × Value) :=
  b.columns.foldl (fun entries c => Value.insert c.field.name (c.values.getD i .null) entries) []

def toRows (b : Batch) : List (List (String × Value)) := (List.range b.rows).map b.row

end Batch

end RankFusion
