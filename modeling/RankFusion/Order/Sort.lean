import RankFusion.Order.Insertion
import RankFusion.Order.Merge

/-!
This module contains a stable sort by merging runs. Where a comparison is no order, as with NaN, the
outcome follows from the comparisons that are made.
-/

namespace RankFusion.Order

variable {α : Type}

/--
The least length of the runs of a list: the length itself if it is less than 64, else a number
between 32 and 64 of which the length is at most a power of two times.
-/
def leastRun (length : Nat) (carry : Nat := 0) : Nat :=
  if length < 64 then length + carry
  else leastRun (length / 2) (if length % 2 = 1 then 1 else carry)
termination_by length

/--
A sorted part of a list, and how deep the boundary to the next part lies in a balanced division of
the list.
-/
structure Run (α : Type) where
  items : List α
  depth : Nat := 0

/--
How many halvings of an interval of the given length separate two points in it, both doubled. The
fuel bounds their number.
-/
def halvings (length a b : Nat) : (fuel : Nat) → Nat
  | 0 => 0
  | n + 1 =>
    if length ≤ a then halvings length (2 * (a - length)) (2 * (b - length)) n + 1
    else if length ≤ b then 1
    else halvings length (2 * a) (2 * b) n + 1

def boundaryDepth (total start first second : Nat) : Nat :=
  let middle := 2 * start + first
  halvings total middle (middle + first + second) (total + 1)

/--
Sorted parts of a list, the last one first, and the patience for the next merge.
-/
structure Sorting (α : Type) where
  runs : List (Run α) := []
  patience : Nat := Merging.worthyRun

/--
Merges the last parts as long as the boundary between them is deeper than a given depth, which then
becomes that of the last part.
-/
def settle (lt : α → α → Bool) (depth : Nat) (runs : List (Run α)) (patience : Nat) : Sorting α :=
  match runs with
  | last :: previous :: rest =>
    if depth < previous.depth then
      let (items, patience) := merge lt patience previous.items last.items
      settle lt depth (⟨items, previous.depth⟩ :: rest) patience
    else ⟨{ last with depth } :: previous :: rest, patience⟩
  | [last] => ⟨[{ last with depth }], patience⟩
  | [] => ⟨[], patience⟩
termination_by runs.length

def Sorting.push (lt : α → α → Bool) (total : Nat) (items : List α) (s : Sorting α) : Sorting α :=
  match s.runs with
  | [] => { s with runs := [{ items }] }
  | last :: rest =>
    let start := rest.foldl (fun n r => n + r.items.length) 0
    let depth := boundaryDepth total start last.items.length items.length
    let s := settle lt depth s.runs s.patience
    { s with runs := { items } :: s.runs }

/--
Divides a list into parts. The fuel bounds their number.
-/
def Sorting.divide (lt : α → α → Bool) (total : Nat) (s : Sorting α) :
    (fuel : Nat) → List α → Sorting α
  | _, [] | 0, _ => s
  | n + 1, xs =>
    let (run, rest) := filledRun lt (leastRun total) xs
    divide lt total (s.push lt total run) n rest

/--
Merges all parts. The last one waits if the two before it are closer in length.
-/
def collapse (lt : α → α → Bool) (runs : List (Run α)) (patience : Nat) : List α :=
  match runs with
  | [] => []
  | [r] => r.items
  | [last, previous] => (merge lt patience previous.items last.items).1
  | last :: previous :: before :: rest =>
    if before.items.length < last.items.length then
      let (items, patience) := merge lt patience before.items previous.items
      collapse lt (last :: ⟨items, before.depth⟩ :: rest) patience
    else
      let (items, patience) := merge lt patience previous.items last.items
      collapse lt (⟨items, previous.depth⟩ :: before :: rest) patience
termination_by runs.length

/--
The items in ascending order. Items of which neither is less than the other keep their order.
-/
def sort (lt : α → α → Bool) (xs : List α) : List α :=
  let s := Sorting.divide lt xs.length {} xs.length xs
  collapse lt s.runs s.patience

end RankFusion.Order
