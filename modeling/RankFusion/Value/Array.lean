import RankFusion.Value.Operand

/-!
This module contains nested lists as arrays: lists that agree in length on every level.
-/

namespace RankFusion

/--
The lengths of nested lists level by level, down to the first level on which they disagree.
-/
structure Extent where
  shape : List Nat
  /-- Whether all lists of all levels agree. -/
  isRegular : Bool
  deriving DecidableEq

namespace Extent

def levelLimit : Nat := 64

def scalar : Extent := ⟨[], true⟩

def commonShape : List Nat → List Nat → List Nat
  | m :: ms, n :: ns => if m = n then m :: commonShape ms ns else []
  | _, _ => []

def meet (e f : Extent) : Extent :=
  ⟨commonShape e.shape f.shape, e.isRegular && f.isRegular && e.shape == f.shape⟩

def wrap (length : Nat) (items : Extent) : Extent := { items with shape := length :: items.shape }

/--
The shape of the array with an extent. It fails for lists that disagree, and for more levels than
the limit.
-/
def toShape (e : Extent) : Except Failure (List Nat) :=
  if e.shape.length > levelLimit ∨ (e.shape.length = levelLimit ∧ !e.isRegular) then
    .error (.operand (.tooDeep levelLimit))
  else if e.isRegular then .ok e.shape
  else .error (.operand (.ragged e.shape))

end Extent

namespace Value

mutual

def extent : Value → Extent
  | list [] => .wrap 0 .scalar
  | list (v :: vs) => .wrap (vs.length + 1) (extentOfItems v.extent vs)
  | _ => .scalar

def extentOfItems (e : Extent) : List Value → Extent
  | [] => e
  | v :: vs => extentOfItems (e.meet v.extent) vs

end

mutual

def leaves : Value → List Value
  | list vs => leavesOfItems vs
  | v => [v]

def leavesOfItems : List Value → List Value
  | [] => []
  | v :: vs => leaves v ++ leavesOfItems vs

end

/--
The data of a list, each converted. Nested lists, and a lone datum, fail later than data that cannot
be converted.
-/
def elements {α : Type} (convert : Value → Except Failure α) (v : Value) :
    Except Failure (List α) := do
  let shape ← v.extent.toShape
  let elements ← v.leaves.mapM convert
  if shape.length ≠ 1 then throw (.data .invalid)
  return elements

def words (v : Value) : Except Failure (List Int) := v.elements toWord

/--
A list of data in double precision. Absent data count as NaN.
-/
def reals (v : Value) : Except Failure (List Binary) :=
  v.elements fun x => if x.isNull then .ok .nan else x.toReal

end Value

end RankFusion
