import RankFusion.Order.Search

/-!
This module contains the insertion of items into a sorted list, and the runs of a list that are
sorted already.
-/

namespace RankFusion.Order

variable {α : Type}

/--
A sorted list with one more item, which comes after all items that it is not less than.
-/
def insert (lt : α → α → Bool) (xs : List α) (x : α) : List α :=
  let place := bisect (fun y => !lt x y) 0 xs 0 xs.length
  xs.take place ++ x :: xs.drop place

/--
The longest start of a list, beginning after `last`, in which each item compares with the one before
it as wanted, and what follows it.
-/
def splitRun (continues : α → α → Bool) (last : α) : List α → List α × List α
  | [] => ([], [])
  | x :: xs =>
    if continues x last then
      let (run, rest) := splitRun continues x xs
      (x :: run, rest)
    else ([], x :: xs)

/--
The run at the start of a list, in ascending order, and what follows it. A run that descends
strictly is reversed.
-/
def firstRun (lt : α → α → Bool) : List α → List α × List α
  | x :: y :: rest =>
    let descending := lt y x
    let (run, rest) := splitRun (fun a b => lt a b == descending) x (y :: rest)
    (if descending then (x :: run).reverse else x :: run, rest)
  | xs => (xs, [])

def filledRun (lt : α → α → Bool) (least : Nat) (xs : List α) : List α × List α :=
  let (run, rest) := firstRun lt xs
  let missing := least - run.length
  ((rest.take missing).foldl (insert lt) run, rest.drop missing)

end RankFusion.Order
