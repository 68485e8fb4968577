/-!
This module contains the values of binary floating-point arithmetic.

Every finite value is a dyadic number, so the precision of a format is a property of the
operations that round to it and not of the values: a value of a narrow format is the same value
in a wide one.
-/

namespace RankFusion

/--
A value of binary floating-point arithmetic. Zero occurs twice: `finite 0` and `negZero`.
-/
inductive Binary where
  | nan
  | infinity (negative : Bool)
  | negZero
  | finite (value : Dyadic)
  deriving DecidableEq

namespace Binary

def zero : Binary := finite 0

def one : Binary := finite 1

instance : Inhabited Binary := ⟨zero⟩

def dyadic? : Binary → Option Dyadic
  | nan => none
  | infinity _ => none
  | negZero => some 0
  | finite v => some v

def isFinite (x : Binary) : Bool := x.dyadic?.isSome

def isNaN : Binary → Bool
  | nan => true
  | _ => false

/--
Whether the sign bit of a value is set. NaN counts as positive.
-/
def isNegative : Binary → Bool
  | nan => false
  | infinity negative => negative
  | negZero => true
  | finite v => decide (v < 0)

/--
Numeric order. NaN is not comparable, and the two zeros are equal.
-/
def le : Binary → Binary → Bool
  | nan, _ => false
  | _, nan => false
  | infinity true, _ => true
  | _, infinity false => true
  | infinity false, _ => false
  | _, infinity true => false
  | negZero, negZero => true
  | negZero, finite w => decide (0 ≤ w)
  | finite v, negZero => decide (v ≤ 0)
  | finite v, finite w => decide (v ≤ w)

def lt (x y : Binary) : Bool := x.le y && !y.le x

/--
Numeric equality. A NaN equals nothing, and the two zeros are equal.
-/
def eq (x y : Binary) : Bool := x.le y && y.le x

def neg : Binary → Binary
  | nan => nan
  | infinity negative => infinity !negative
  | negZero => zero
  | finite v => if v = 0 then negZero else finite (-v)

def abs (x : Binary) : Binary := if x.isNegative then x.neg else x

def signedZero (negative : Bool) : Binary := if negative then negZero else zero

def truncate? (x : Binary) : Option Int :=
  x.dyadic?.map fun v => (v.toRat.num).tdiv v.toRat.den

def isInteger (x : Binary) : Bool :=
  match x.dyadic? with
  | some v => v.toRat.den == 1
  | none => false

end Binary

end RankFusion
