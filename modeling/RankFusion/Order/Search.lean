/-!
This module contains the search for the end of the items at the start of a list that pass a test. It
looks at few items, so it relies on all items that pass to come first. Where they do not, as with
NaN, the outcome follows from the items that are looked at.
-/

namespace RankFusion.Order

variable {α : Type}

def passesAt (test : α → Bool) (xs : List α) (i : Nat) : Bool := (xs[i]?.map test).getD false

/--
The end of the items that pass, between two bounds. Each step looks at the middle; of an even number
of items it looks at the lower one of the two in the middle if `tilt` is one.
-/
def bisect (test : α → Bool) (tilt : Nat) (xs : List α) (low high : Nat) : Nat :=
  if h : low < high then
    let middle := (low + high - min tilt 1) / 2
    if passesAt test xs middle then bisect test tilt xs (middle + 1) high
    else bisect test tilt xs low middle
  else low
termination_by high - low

/--
The last of the positions one, three, seven and so on whose item passes, and the first whose item
does not. Positions from `limit` on are not looked at.
-/
def stride (test : α → Bool) (xs : List α) (limit last next : Nat) : Nat × Nat :=
  if next < limit then
    if passesAt test xs next then stride test xs limit next (2 * next + 1) else (last, next)
  else (last, limit)
termination_by limit - next

def gallop (test : α → Bool) (tilt : Nat) (xs : List α) : Nat :=
  if passesAt test xs 0 then
    let (last, next) := stride test xs xs.length 0 1
    bisect test tilt xs (last + 1) next
  else 0

end RankFusion.Order
