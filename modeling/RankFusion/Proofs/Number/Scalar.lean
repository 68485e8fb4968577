import RankFusion.Number.Scalar
import RankFusion.Proofs.Number.Order

/-!
This module contains the comparison of numbers as data: it is that of their exact values, and of
integers that of the integers. Integers are the same key if they are equal.
-/

namespace RankFusion

namespace Scalar

theorem compare_toValue (c : Comparison) (s t : Scalar)
    : s.toValue.compare c t.toValue = .ok (c.onReal s.exact t.exact) := by
  cases s <;> cases t <;> simp [toValue, Value.compare, Value.number?, exact]

theorem isNull_toValue (s : Scalar) : s.toValue.isNull = false := by
  cases s <;> rfl

theorem extended_exact_int (n : Int) : (int n).exact.extended = ((n : ℚ) : WithTop ℚ) := by
  unfold exact
  dsimp only
  split
  . next hzero => simp [hzero]
  . rw [Binary.extended_finite, ← Dyadic.toRat_intCast]
    rfl

theorem isNaN_exact_int (n : Int) : (int n).exact.isNaN = false := by
  unfold exact
  dsimp only
  split <;> rfl

theorem le_exact_int (m n : Int) : (int m).exact.le (int n).exact = decide (m ≤ n) := by
  rw [Bool.eq_iff_iff, Binary.le_iff, isNaN_exact_int, isNaN_exact_int, extended_exact_int,
    extended_exact_int, coe_coe_le_iff, decide_eq_true_eq, Rat.intCast_le_intCast]
  simp

theorem lt_exact_int (m n : Int) : (int m).exact.lt (int n).exact = decide (m < n) := by
  unfold Binary.lt
  rw [le_exact_int, le_exact_int, Bool.eq_iff_iff]
  simp
  omega

end Scalar

theorem Value.compare_lt_int (m n : Int)
    : (Value.int m).compare .lt (.int n) = .ok (decide (m < n)) := by
  rw [← Scalar.lt_exact_int]
  exact Scalar.compare_toValue .lt (.int m) (.int n)

theorem Value.compare_gt_int (m n : Int)
    : (Value.int m).compare .gt (.int n) = .ok (decide (n < m)) := by
  rw [← Scalar.lt_exact_int]
  exact Scalar.compare_toValue .gt (.int m) (.int n)

theorem Value.equal_int (m n : Int) : (Value.int m).equal (.int n) = decide (m = n) := by
  have heq : (Value.int m).equal (.int n) =
      ((Scalar.int m).exact.le (Scalar.int n).exact
        && (Scalar.int n).exact.le (Scalar.int m).exact) := by
    unfold Value.equal
    rfl
  rw [heq, Scalar.le_exact_int, Scalar.le_exact_int, Bool.eq_iff_iff]
  simp
  omega

theorem Value.sameKey_int (m n : Int) : (Value.int m).sameKey (.int n) = decide (m = n) := by
  unfold Value.sameKey
  rw [Value.equal_int]
  exact Bool.or_false _

end RankFusion
