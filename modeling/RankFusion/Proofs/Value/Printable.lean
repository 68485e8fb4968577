import RankFusion.Value.Operand

/-!
This module contains which data a text can show, and what becomes of a failure whose text shows some
that it cannot.
-/

namespace RankFusion

namespace Value

theorem requirePrintable_eq_ok_iff {vs : List Value}
    : requirePrintable vs = .ok () ↔ ∀ v ∈ vs, v.isPrintable = true := by
  rw [← List.all_eq_true]
  unfold requirePrintable
  cases vs.all isPrintable with
  | true => exact iff_of_true rfl rfl
  | false => exact iff_of_false nofun nofun

end Value

namespace Failure

variable {f : Failure}

theorem worded_of_printable (h : ∀ v ∈ f.shown, v.isPrintable = true) : f.worded = f := by
  unfold worded
  rw [if_pos (List.all_eq_true.2 h)]

end Failure

end RankFusion
