import RankFusion.Number.Rounding

/-!
This module contains the ways between binary values and decimal digits: the shortest digits that
read back, rounding to a number of places, and the value of digits that were read.
-/

namespace RankFusion

/--
A positive decimal number `digits * 10 ^ exponent`.
-/
structure Decimal where
  digits : Nat
  exponent : Int
  deriving DecidableEq, Repr

namespace Decimal

def toRat (d : Decimal) : Rat :=
  if 0 ≤ d.exponent then (d.digits * Nat.pow 10 d.exponent.toNat : Nat)
  else mkRat d.digits (Nat.pow 10 (-d.exponent).toNat)

/--
The same number with the trailing zeros of its digits moved into the exponent. At most `fuel`
zeros are moved.
-/
def strip (d : Decimal) : Nat → Decimal
  | 0 => d
  | fuel + 1 =>
    if d.digits ≠ 0 ∧ d.digits % 10 = 0 then strip ⟨d.digits / 10, d.exponent + 1⟩ fuel else d

/--
The exponent of the largest power of ten that is at most `num / den`, both positive.
-/
def floorLog10 (num den : Nat) : Int :=
  let estimate : Int := (Format.floorLog2 num den * 30103).fdiv 100000
  let next := estimate + 1
  let fits :=
    if 0 ≤ next then den * Nat.pow 10 next.toNat ≤ num else den ≤ num * Nat.pow 10 (-next).toNat
  if fits then next else estimate

def scale (num den : Nat) (exponent : Int) : Nat × Nat :=
  if 0 ≤ exponent then (num, den * Nat.pow 10 exponent.toNat)
  else (num * Nat.pow 10 (-exponent).toNat, den)

/--
Of the two neighbours of a positive value on the grid of `10 ^ exponent`, the nearer one that
rounds to the value itself. An exact tie goes to the even neighbour.
-/
def onGrid? (f : Format) (value : Dyadic) (exponent : Int) : Option Decimal :=
  let (num, den) := scale value.toRat.num.natAbs value.toRat.den exponent
  let below : Decimal := ⟨num / den, exponent⟩
  let above : Decimal := ⟨num / den + 1, exponent⟩
  let nearest := if roundHalfEven num den = num / den then below else above
  let other := if roundHalfEven num den = num / den then above else below
  [nearest, other].find? fun d => f.round d.toRat == .finite value

def shortest.go (f : Format) (value : Dyadic) (top : Int) (count : Nat) : Nat → Decimal
  | 0 => ⟨0, 0⟩
  | fuel + 1 =>
    match onGrid? f value (top - (count - 1 : Nat)) with
    | some d => d
    | none => go f value top (count + 1) fuel

/--
The decimal number of fewest digits that rounds to a positive value, and the nearest of those.
Seventeen digits are enough for double precision.
-/
def shortest (f : Format) (value : Dyadic) : Decimal :=
  let top := floorLog10 value.toRat.num.natAbs value.toRat.den
  (shortest.go f value top 1 17).strip 17

/--
The double precision value nearest to `digits * 10 ^ exponent`. Exponents that are out of reach of
the format are decided without computing the power.
-/
def read (negative : Bool) (digits : Nat) (exponent : Int) : Binary :=
  let size := (Nat.toDigits 10 digits).length
  let magnitude : Binary :=
    if digits = 0 then .zero
    else if 400 < size + exponent then .infinity false
    else if size + exponent < -400 then .zero
    else Format.double.round (toRat ⟨digits, exponent⟩)
  if negative then magnitude.neg else magnitude

def fixedUnits (value : Dyadic) (places : Nat) : Nat :=
  roundHalfEven (value.toRat.num.natAbs * Nat.pow 10 places) value.toRat.den

end Decimal

namespace Binary

/--
A value rounded to a number of decimal places. Infinities and NaN stay as they are.
-/
def roundPlaces (places : Nat) (x : Binary) : Binary :=
  match x.dyadic? with
  | none => x
  | some v => Decimal.read x.isNegative (Decimal.fixedUnits v places) (-(places : Int))

end Binary

end RankFusion
