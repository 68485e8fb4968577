import RankFusion.Batch.Basic
import RankFusion.Value.Operand

/-!
This module contains the stable descending sort of a batch by one column. Numbers come first, then
NaN, then absent keys; within each class rows with equal keys keep their order.
-/

namespace RankFusion

inductive KeyClass where
  | ordinary
  | nan
  | absent
  deriving DecidableEq, Repr

namespace KeyClass

def ofValue : Value → KeyClass
  | .null => absent
  | .real x => if x.isNaN then nan else ordinary
  | _ => ordinary

def place : KeyClass → Nat
  | ordinary => 0
  | nan => 1
  | absent => 2

end KeyClass

namespace Value

/--
Whether an ordinary key is at least as large as another one of the same column: numbers by value,
texts and byte strings by their code points, and false before true.
-/
def atLeast : Value → Value → Bool
  | text s, text t => orderText s t != .lt
  | bytes s, bytes t => orderBytes s t != .lt
  | v, w =>
    match v.number?, w.number? with
    | some x, some y => y.le x
    | _, _ => true

def descends (v w : Value) : Bool :=
  let c := KeyClass.ofValue v
  let d := KeyClass.ofValue w
  if c = d then
    if c = .ordinary then v.atLeast w else true
  else c.place < d.place

end Value

/--
The positions of a list of keys in descending order of the keys. Equal keys keep their order.
-/
def descendingPositions (keys : List Value) : List Nat :=
  (keys.zipIdx.mergeSort fun a b => a.1.descends b.1).map (·.2)

namespace Batch

def sortDescending (b : Batch) (name : String) : Except Failure Batch := do
  let keys ← b.cells name
  if b.rows = 0 then return b
  if !keys.type.isSortable then throw (.data .unsortable)
  b.take ((descendingPositions keys.values).map Int.ofNat)

end Batch

end RankFusion
