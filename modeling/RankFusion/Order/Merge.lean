import RankFusion.Order.Search

/-!
This module contains the merging of two sorted lists. Items are taken one by one at first. Once one
list has given many in a row, the place where its items end is searched for, and this goes on as
long as it pays. How many have to come in a row is adapted from one merge to the next.
-/

namespace RankFusion.Order

variable {α : Type}

/--
Two lists being merged: what is left of the shorter and the longer one, and what was taken from
them, the last item first.
-/
structure Merging (α : Type) where
  short : List α
  long : List α
  taken : List α := []

structure Direction (α : Type) where
  /-- Whether an item of the longer list is taken before one of the shorter. -/
  longFirst : α → α → Bool
  /-- Whether a search begins with the shorter list. -/
  shortLeads : Bool
  /-- The tilt of the searches. -/
  tilt : Nat

namespace Direction

/--
From the starts, with the smallest items first. The shorter list is the first one.
-/
def ascending (lt : α → α → Bool) : Direction α := ⟨fun x y => lt y x, true, 0⟩

/--
From the ends, with the largest items first. The shorter list is the second one.
-/
def descending (lt : α → α → Bool) : Direction α := ⟨lt, false, 1⟩

end Direction

namespace Merging

/--
Whether the place of all items left is known: the last item of the shorter list comes last.
-/
def isOver (m : Merging α) : Bool := m.long.isEmpty || m.short.length ≤ 1

def result (m : Merging α) : List α := m.taken.reverse ++ m.long ++ m.short

def takeShort (count : Nat) (m : Merging α) : Merging α :=
  { m with
    short := m.short.drop count
    taken := (m.short.take count).reverse ++ m.taken }

def takeLong (count : Nat) (m : Merging α) : Merging α :=
  { m with
    long := m.long.drop count
    taken := (m.long.take count).reverse ++ m.taken }

/--
Takes one item. Also tells whether it is of the longer list.
-/
def takeOne (d : Direction α) (m : Merging α) : Bool × Merging α :=
  match m.short, m.long with
  | x :: _, y :: _ =>
    if d.longFirst x y then (true, m.takeLong 1) else (false, m.takeShort 1)
  | _, _ => (false, m)

/--
Takes all items of one list that come before the first of the other, and then that one. Also tells
the number of items before it.
-/
def takeRun (d : Direction α) (ofShort : Bool) (m : Merging α) : Nat × Merging α :=
  match m.short, m.long with
  | x :: _, y :: _ =>
    if ofShort then
      let count := gallop (fun x => !d.longFirst x y) d.tilt m.short
      let m := m.takeShort count
      (count, if m.isOver then m else m.takeLong 1)
    else
      let count := gallop (fun y => d.longFirst x y) d.tilt m.long
      let m := m.takeLong count
      (count, if m.isOver then m else m.takeShort 1)
  | _, _ => (0, m)

/--
Takes a run of either list. Also tells the length of the longer one.
-/
def takeRuns (d : Direction α) (m : Merging α) : Nat × Merging α :=
  let (first, m) := m.takeRun d d.shortLeads
  if m.isOver then (first, m)
  else
    let (second, m) := m.takeRun d !d.shortLeads
    (max first second, m)

def worthyRun : Nat := 7

mutual

/--
Takes items one by one until one list has given as many in a row as the patience allows. The fuel
bounds the number of steps.
-/
def single (d : Direction α) (fuel patience : Nat) (lastLong : Bool) (streak : Nat)
    (m : Merging α) : Merging α × Nat :=
  match fuel with
  | 0 => (m, patience)
  | n + 1 =>
    let (long, m) := m.takeOne d
    let streak := if long == lastLong then streak + 1 else 1
    if m.isOver then (m, patience)
    else if patience ≤ streak then runs d n patience m
    else single d n patience long streak m

/--
Takes runs as long as they are worth it. The patience shrinks with every search and grows when
searching ends.
-/
def runs (d : Direction α) (fuel patience : Nat) (m : Merging α) : Merging α × Nat :=
  match fuel with
  | 0 => (m, patience)
  | n + 1 =>
    let (length, m) := m.takeRuns d
    if m.isOver then (m, patience)
    else if worthyRun ≤ length then runs d n (max 1 (patience - 1)) m
    else single d n (patience + 1) false 0 m

end

/--
The merged items in the order in which they are taken, and the patience for the next merge. The
first item of the longer list is known to be the first of all.
-/
def run (d : Direction α) (patience : Nat) (m : Merging α) : List α × Nat :=
  let m := m.takeLong 1
  if m.isOver then (m.result, patience)
  else
    let (m, patience) := single d (m.short.length + m.long.length) patience false 0 m
    (m.result, patience)

end Merging

/--
Merges what has to change places of two lists that follow each other. Also gives the patience for
the next merge.
-/
def mergeCores (lt : α → α → Bool) (patience : Nat) (xs ys : List α) : List α × Nat :=
  if xs.length ≤ ys.length then Merging.run (.ascending lt) patience ⟨xs, ys, []⟩
  else
    let (zs, patience) := Merging.run (.descending lt) patience ⟨ys.reverse, xs.reverse, []⟩
    (zs.reverse, patience)

/--
The merged items of two sorted lists, and the patience for the next merge. Of items of which neither
is less than the other, those of the first list come first.
-/
def merge (lt : α → α → Bool) (patience : Nat) (xs ys : List α) : List α × Nat :=
  match ys with
  | [] => (xs, patience)
  | y :: _ =>
    let front := gallop (fun x => !lt y x) 0 xs
    match (xs.drop front).getLast? with
    | none => (xs ++ ys, patience)
    | some x =>
      let moved := ys.length - gallop (fun y => !lt y x) 1 ys.reverse
      if moved = 0 then (xs ++ ys, patience)
      else
        let (zs, patience) := mergeCores lt patience (xs.drop front) (ys.take moved)
        (xs.take front ++ zs ++ ys.drop moved, patience)

end RankFusion.Order
