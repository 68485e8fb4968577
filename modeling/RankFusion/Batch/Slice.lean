import RankFusion.Batch.Basic
import RankFusion.Number.Scalar
import RankFusion.Value.Operand

/-!
This module contains the slices of batches whose bounds are data of any kind.
-/

namespace RankFusion

def slicePosition (v : Value) : Except Failure Int :=
  match Scalar.ofValue? v with
  | some (.int n) => .ok n
  | some (.bool b) => .ok (Scalar.bool b).whole
  | _ => .error (.data (.sliceBound v.kindName))

def sliceBound (v : Value) : Except Failure Int := do
  let n ← slicePosition v
  if Value.isWord n then return n else throw (.data .outOfRange)

namespace Batch

/--
The position at which a slice starts: an offset that is not negative, but no later than the end.
-/
def sliceStart (b : Batch) (offset : Value) : Except Failure Int :=
  match offset.compare .lt (.int 0), offset.compare .lt (.int b.rows) with
  | .ok false, .ok isBefore => if isBefore then sliceBound offset else .ok b.rows
  | .ok true, _ => .error (.data .negativeOffset)
  | _, _ => .error (.data (.sliceBound offset.kindName))

def sliceAt (b : Batch) (offset length : Value) : Except Failure Batch := do
  let start ← b.sliceStart offset
  if length.isNull then b.slice start b.rows else b.slice start (← sliceBound length)

end Batch

end RankFusion
