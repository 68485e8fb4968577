import RankFusion.Number.Binary

/-!
This module contains the rounding of exact numbers to the formats of binary floating-point
arithmetic, and the operations that are an exact operation followed by one rounding. Rounding is
to nearest, ties to even; a number beyond the largest finite value becomes an infinity, and a
number that rounds to zero keeps its sign.
-/

namespace RankFusion

/--
The quotient `num / den` rounded to a whole number, ties to even.
-/
def roundHalfEven (num den : Nat) : Nat :=
  let quotient := num / den
  let remainder := num % den
  if 2 * remainder < den then quotient
  else if den < 2 * remainder then quotient + 1
  else quotient + quotient % 2

/--
A format of binary floating-point numbers: the bits of its significand and the exponents of its
largest and smallest normal powers of two.
-/
structure Format where
  precision : Nat
  maxExponent : Int
  minExponent : Int
  deriving DecidableEq

namespace Format

def half : Format := ⟨11, 15, -14⟩

def single : Format := ⟨24, 127, -126⟩

def double : Format := ⟨53, 1023, -1022⟩

def floorLog2 (num den : Nat) : Int :=
  let estimate : Int := num.log2 - den.log2
  let fits :=
    if 0 ≤ estimate then den <<< estimate.toNat ≤ num else den ≤ num <<< (-estimate).toNat
  if fits then estimate else estimate - 1

def unitExponent (f : Format) (num den : Nat) : Int :=
  max (floorLog2 num den) f.minExponent - (f.precision - 1 : Nat)

def unitCount (num den : Nat) (unit : Int) : Nat :=
  if 0 ≤ unit then roundHalfEven num (den <<< unit.toNat)
  else roundHalfEven (num <<< (-unit).toNat) den

/--
The least magnitude that no longer rounds to a finite value counts as an overflow.
-/
def overflows (f : Format) (count : Nat) (unit : Int) : Bool :=
  count != 0 && f.maxExponent < (count.log2 : Int) + unit

def round (f : Format) (q : Rat) : Binary :=
  if q.num = 0 then .zero
  else
    let negative := decide (q.num < 0)
    let unit := f.unitExponent q.num.natAbs q.den
    let count := unitCount q.num.natAbs q.den unit
    if f.overflows count unit then .infinity negative
    else if count = 0 then .signedZero negative
    else .finite (.ofIntWithPrec (if negative then -(count : Int) else count) (-unit))

def ofInt (f : Format) (n : Int) : Binary := f.round n

def convert (f : Format) : Binary → Binary
  | .finite v => f.round v.toRat
  | x => x

def add (f : Format) : Binary → Binary → Binary
  | .nan, _ => .nan
  | _, .nan => .nan
  | .infinity s, .infinity t => if s = t then .infinity s else .nan
  | .infinity s, _ => .infinity s
  | _, .infinity t => .infinity t
  | .negZero, .negZero => .negZero
  | .negZero, .finite w => f.round w.toRat
  | .finite v, .negZero => f.round v.toRat
  | .finite v, .finite w => f.round (v + w).toRat

def sub (f : Format) (x y : Binary) : Binary := f.add x y.neg

def mul (f : Format) (x y : Binary) : Binary :=
  let negative := x.isNegative != y.isNegative
  match x.dyadic?, y.dyadic? with
  | some v, some w => if v = 0 ∨ w = 0 then .signedZero negative else f.round (v * w).toRat
  | some v, none => if y.isNaN ∨ v = 0 then .nan else .infinity negative
  | none, some w => if x.isNaN ∨ w = 0 then .nan else .infinity negative
  | none, none => if x.isNaN ∨ y.isNaN then .nan else .infinity negative

def div (f : Format) (x y : Binary) : Binary :=
  let negative := x.isNegative != y.isNegative
  match x.dyadic?, y.dyadic? with
  | some v, some w =>
    if w = 0 then
      if v = 0 then .nan else .infinity negative
    else if v = 0 then .signedZero negative
    else f.round (v.toRat / w.toRat)
  | some _, none => if y.isNaN then .nan else .signedZero negative
  | none, some _ => if x.isNaN then .nan else .infinity negative
  | none, none => .nan

end Format

end RankFusion
