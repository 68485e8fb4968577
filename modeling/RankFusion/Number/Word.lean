import RankFusion.Number.Rounding

/-!
This module contains the 64 bit interchange form of double precision values.
-/

namespace RankFusion.Binary

/--
The value a 64 bit word stands for. Every word with a full exponent and a non-zero fraction is NaN.
-/
def ofWord (word : Nat) : Binary :=
  let negative := (word >>> 63) % 2 == 1
  let exponent : Nat := (word >>> 52) % 2048
  let fraction : Nat := word % 0x10000000000000
  if exponent = 2047 then
    if fraction = 0 then .infinity negative else .nan
  else
    let significand := if exponent = 0 then fraction else fraction + 0x10000000000000
    let unit : Int := (max exponent 1 : Nat) - 1075
    if significand = 0 then .signedZero negative
    else .finite (.ofIntWithPrec (if negative then -(significand : Int) else significand) (-unit))

def magnitudeFields (m : Nat) (e : Int) : Nat :=
  let top := (m.log2 : Int) + e
  if -1022 ≤ top then
    ((top + 1022).toNat <<< 52) + (m <<< (52 - m.log2))
  else
    m <<< (e + 1074).toNat

/--
The 64 bit word of a double precision value. The word of NaN is the quiet one without payload.
-/
def toWord : Binary → Nat
  | nan => 0x7ff8000000000000
  | infinity negative => 0x7ff0000000000000 + if negative then 0x8000000000000000 else 0
  | negZero => 0x8000000000000000
  | finite .zero => 0
  | finite (.ofOdd n k _) => magnitudeFields n.natAbs (-k) + if n < 0 then 0x8000000000000000 else 0

end RankFusion.Binary
