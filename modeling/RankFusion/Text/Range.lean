/-!
This module contains membership in a set of code points that is given by the places where
membership changes.
-/

namespace RankFusion

def countUpTo.go (flips : Array Nat) (n low high : Nat) : Nat :=
  if h : low < high then
    let middle := (low + high) / 2
    if flips.getD middle 0 ≤ n then go flips n (middle + 1) high else go flips n low middle
  else low
termination_by high - low

def countUpTo (flips : Array Nat) (n : Nat) : Nat := countUpTo.go flips n 0 flips.size

/--
Whether `n` is in the set that starts empty and changes at every entry.
-/
def isInsideFlips (flips : Array Nat) (n : Nat) : Bool := countUpTo flips n % 2 == 1

end RankFusion
