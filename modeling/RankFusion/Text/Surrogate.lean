/-!
This module contains code units that are half of a pair and stand alone. They are no characters; in
a text, each is represented by a character at the end of the last private plane.
-/

namespace RankFusion

def firstSurrogate : Nat := 0xd800

def surrogateCount : Nat := 0x800

def surrogateBase : Nat := 0x10f800

def charOfUnit (n : Nat) : Char :=
  if firstSurrogate ≤ n ∧ n < firstSurrogate + surrogateCount then
    Char.ofNat (surrogateBase + (n - firstSurrogate))
  else Char.ofNat n

def surrogate? (c : Char) : Option Nat :=
  if surrogateBase ≤ c.toNat then some (firstSurrogate + (c.toNat - surrogateBase)) else none

def isWellFormed (s : String) : Bool := s.toList.all fun c => (surrogate? c).isNone

end RankFusion
