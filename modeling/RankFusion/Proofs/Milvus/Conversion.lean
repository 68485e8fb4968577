import RankFusion.Milvus.Result
import RankFusion.Proofs.Except

/-!
This module contains the failures of the answers of a collection: a description that shows no types,
and hits that make no batch. Each is a failure of an operation on data, unless it is about the keys
of the collection.
-/

namespace RankFusion

/--
Whether a failure is one of an operation on data. No such failure tells of a search.
-/
inductive Failure.IsRaw : Failure → Prop where
  | operand (fault : OperandFault) : IsRaw (.operand fault)
  | data (fault : DataFault) : IsRaw (.data fault)

namespace Failure

end Failure

open Failure (IsRaw)

namespace ColumnType

theorem fails_convertInteger (signed : Bool) (width : Width) (v : Value)
    : (convertInteger signed width v).Fails IsRaw := by
  unfold convertInteger
  split
  . exact .error (.data _)
  . split
    . exact .ok _
    . split
      . exact .error (.data _)
      . exact .error (.data _)
  . split
    . split
      . exact .ok _
      . exact .error (.data _)
    . exact .error (.data _)
  . exact .error (.data _)

theorem fails_convertCount (width : Width) (v : Value)
    : (convertCount width v).Fails IsRaw := by
  unfold convertCount
  split
  . split
    . apply fails_convertInteger
    . exact .error (.data _)
  . apply fails_convertInteger
  . exact .error (.data _)

theorem fails_convertReal (precision : Precision) (v : Value)
    : (convertReal precision v).Fails IsRaw := by
  unfold convertReal
  split
  . exact .ok _
  . split
    . exact .ok _
    . exact .error (.data _)
  . exact .ok _
  . exact .error (.data _)

theorem fails_convertText (v : Value) : (convertText v).Fails IsRaw := by
  unfold convertText
  split
  . exact .ok _
  . split
    . exact .ok _
    . exact .error (.data _)
  . exact .error (.data _)

theorem fails_convertBytes (v : Value) : (convertBytes v).Fails IsRaw := by
  unfold convertBytes
  split
  . exact .ok _
  . exact .ok _
  . exact .error (.data _)

mutual

theorem fails_convert (t : ColumnType) (v : Value) : (t.convert v).Fails IsRaw := by
  unfold convert
  split
  . exact .ok _
  . exact .error (.data _)
  . exact .ok _
  . exact .error (.data _)
  . apply fails_convertInteger
  . apply fails_convertReal
  . apply fails_convertText
  . apply fails_convertText
  . apply fails_convertBytes
  . apply fails_convertCount
  . apply fails_convertCount
  . next item _ =>
    split
    . exact (Except.Fails.mapM fun v _ => fails_convert item v).map
    . exact (Except.Fails.mapM fun v _ => fails_convert item v).map
    . exact (Except.Fails.mapM fun v _ => fails_convert item v).map
    . exact .error (.data _)
  . next fields es =>
    exact (fails_convertFields fields es).map
  . exact .error (.data _)

theorem fails_convertFields (fields : StructFields) (es : List (String × Value))
    : (convertFields fields es).Fails IsRaw := by
  cases fields with
  | nil =>
    unfold convertFields
    exact .ok _
  | cons name type rest =>
    unfold convertFields
    apply Except.Fails.bind
    . exact fails_convert type _
    . intro _ _
      apply Except.Fails.bind
      . exact fails_convertFields rest es
      . intro _ _
        exact .ok _

end

end ColumnType

namespace Evidence

mutual

theorem fails_type (e : Evidence) : e.type.Fails IsRaw := by
  obtain ⟨t, a, b, i, r, x, y, l, d, items, parts⟩ := e
  unfold type
  split
  . split
    . exact .error (.data _)
    . cases items with
      | some e => exact (fails_type e).map
      | none => exact .ok _
  . split
    . split
      . exact .error (.data _)
      . exact (fails_typeParts parts).map
    . repeat' split
      all_goals exact .ok _

theorem fails_typeParts (parts : List (String × Evidence)) : (typeParts parts).Fails IsRaw := by
  match parts with
  | [] =>
    unfold typeParts
    exact .ok _
  | (name, e) :: es =>
    unfold typeParts
    apply Except.Fails.bind
    . exact fails_type e
    . intro _ _
      apply Except.Fails.bind
      . exact fails_typeParts es
      . intro _ _
        exact .ok _

end

end Evidence

namespace Value

end Value

namespace Milvus

end Milvus

end RankFusion
