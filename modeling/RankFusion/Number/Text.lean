import RankFusion.Number.Decimal

/-!
This module contains the written form of numbers.
-/

namespace RankFusion

/--
The decisions in the written form of a floating-point value: the range of decimal point positions
written without an exponent, and the least number of exponent digits.
-/
structure RealStyle where
  lowestPoint : Int
  highestPoint : Int
  exponentDigits : Nat

/--
Values from `1e-4` up to `1e16` are written without an exponent, and exponents have two digits at
least.
-/
def RealStyle.plain : RealStyle := ⟨-3, 16, 2⟩

def digitsOf (n : Nat) : List Char := Nat.toDigits 10 n

def paddedDigits (width n : Nat) : List Char :=
  let ds := digitsOf n
  List.replicate (width - ds.length) '0' ++ ds

namespace RealStyle

/--
A positive decimal number in the given style. Without an exponent there is always a digit on both
sides of the point.
-/
def writeDecimal (style : RealStyle) (d : Decimal) : List Char :=
  let ds := digitsOf d.digits
  let point : Int := ds.length + d.exponent
  if style.lowestPoint ≤ point ∧ point ≤ style.highestPoint then
    if point ≤ 0 then
      '0' :: '.' :: (List.replicate (-point).toNat '0' ++ ds)
    else if (ds.length : Int) ≤ point then
      ds ++ List.replicate (point.toNat - ds.length) '0' ++ ['.', '0']
    else
      ds.take point.toNat ++ '.' :: ds.drop point.toNat
  else
    let exponent := point - 1
    let significand :=
      match ds with
      | [] => []
      | [d] => [d]
      | d :: rest => d :: '.' :: rest
    significand ++ 'e' :: (if exponent < 0 then '-' else '+') ::
      paddedDigits style.exponentDigits exponent.natAbs

end RealStyle

namespace Binary

def text : Binary → String
  | nan => "nan"
  | infinity negative => if negative then "-inf" else "inf"
  | negZero => "-0.0"
  | finite v =>
    if v = 0 then "0.0"
    else
      let shortest := Decimal.shortest .double (if v < 0 then -v else v)
      let magnitude := RealStyle.plain.writeDecimal shortest
      String.ofList (if v < 0 then '-' :: magnitude else magnitude)

def fixedText (places : Nat) : Binary → String
  | nan => "nan"
  | infinity negative => if negative then "-inf" else "inf"
  | x =>
    match x.dyadic? with
    | none => "nan"
    | some v =>
      let ds := paddedDigits (places + 1) (Decimal.fixedUnits v places)
      let whole := ds.take (ds.length - places)
      let written := if places = 0 then whole else whole ++ '.' :: ds.drop (ds.length - places)
      String.ofList (if x.isNegative then '-' :: written else written)

end Binary

end RankFusion
