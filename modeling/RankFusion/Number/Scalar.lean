import RankFusion.Value.Operand

/-!
This module contains the numbers that a parameter may hold. A truth value is one of them and counts
as zero or one.
-/

namespace RankFusion

inductive Scalar where
  | bool (b : Bool)
  | int (n : Int)
  | real (x : Binary)
  deriving DecidableEq

namespace Scalar

def toValue : Scalar → Value
  | bool b => .bool b
  | int n => .int n
  | real x => .real x

def ofValue? : Value → Option Scalar
  | .bool b => some (bool b)
  | .int n => some (int n)
  | .real x => some (real x)
  | _ => none

def exact : Scalar → Binary
  | bool b => if b then .one else .zero
  | int n => if n = 0 then .zero else .finite (.ofInt n)
  | real x => x

def toReal : Scalar → Except Failure Binary
  | bool b => .ok (if b then .one else .zero)
  | int n => Value.realOfInt n
  | real x => .ok x

/--
The number in single precision. It is rounded to double precision first.
-/
def toSingle (s : Scalar) : Except Failure Binary := s.toReal.map Format.single.convert

def equal (s t : Scalar) : Bool := s.exact.eq t.exact

def whole : Scalar → Int
  | bool b => if b then 1 else 0
  | int n => n
  | real _ => 0

/--
The sum of two numbers. It is an integer if both are.
-/
def add : Scalar → Scalar → Except Failure Scalar
  | real x, t => t.toReal.map fun y => real (Format.double.add x y)
  | s, real y => s.toReal.map fun x => real (Format.double.add x y)
  | s, t => .ok (int (s.whole + t.whole))

def divide (s : Scalar) (n : Nat) : Except Failure Binary :=
  match s, Format.double.div s.exact (.finite (.ofInt n)) with
  | int _, .infinity _ => .error (.operand .quotientTooLarge)
  | _, q => .ok q

/--
The number rounded to a number of places after the point. Integers stay integers.
-/
def roundPlaces (places : Nat) : Scalar → Scalar
  | real x => real (x.roundPlaces places)
  | s => int s.whole

end Scalar

def Value.roundPlaces (places : Nat) (v : Value) : Except Failure Value :=
  match Scalar.ofValue? v with
  | some s => .ok (s.roundPlaces places).toValue
  | none => .error (.operand (.noRounding v.kindName))

end RankFusion
