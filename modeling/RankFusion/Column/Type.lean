import RankFusion.Number.Rounding

/-!
This module contains the types of columns.
-/

namespace RankFusion

inductive Width where
  | w8
  | w16
  | w32
  | w64
  deriving DecidableEq, Repr

def Width.bits : Width → Nat
  | w8 => 8
  | w16 => 16
  | w32 => 32
  | w64 => 64

inductive Precision where
  | half
  | single
  | double
  deriving DecidableEq, Repr

def Precision.format : Precision → Format
  | half => .half
  | single => .single
  | double => .double

mutual

/--
The type of a column. The cells of a column of type `null` are all absent.
-/
inductive ColumnType where
  | null
  | bool
  | integer (signed : Bool) (width : Width)
  | real (precision : Precision)
  | string
  | largeString
  | binary
  | date
  | timestamp
  | list (item : ColumnType)
  | struct (fields : StructFields)

inductive StructFields where
  | nil
  | cons (name : String) (type : ColumnType) (rest : StructFields)

end

deriving instance DecidableEq for ColumnType, StructFields

namespace ColumnType

def uint64 : ColumnType := integer false .w64

def float32 : ColumnType := real .single

mutual

def name : ColumnType → String
  | null => "null"
  | bool => "bool"
  | integer signed width => (if signed then "int" else "uint") ++ toString width.bits
  | real .half => "halffloat"
  | real .single => "float"
  | real .double => "double"
  | string => "string"
  | largeString => "large_string"
  | binary => "binary"
  | date => "date32[day]"
  | timestamp => "timestamp[us]"
  | list item => "list<item: " ++ item.name ++ ">"
  | struct fields => "struct<" ++ ", ".intercalate (fieldNames fields) ++ ">"

def fieldNames : StructFields → List String
  | .nil => []
  | .cons name type rest => (name ++ ": " ++ type.name) :: fieldNames rest

end

def supported : List ColumnType :=
  [uint64, integer true .w32, integer true .w64, real .single, real .double, string, bool]

def isSupported (t : ColumnType) : Bool := t ∈ supported

def isNumeric : ColumnType → Bool
  | integer .. => true
  | real _ => true
  | _ => false

def isSortable : ColumnType → Bool
  | real .half => false
  | list _ => false
  | struct _ => false
  | _ => true

end ColumnType

end RankFusion
