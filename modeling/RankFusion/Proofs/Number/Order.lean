import Mathlib.Algebra.Order.Ring.Rat
import Mathlib.Order.WithBot
import RankFusion.Number.Binary

/-!
This module contains the numeric order of floating-point values as the order of the rational numbers
between two infinities.
-/

namespace RankFusion

theorem coe_coe_le_iff {q r : ℚ}
    : ((q : WithTop ℚ) : WithBot (WithTop ℚ)) ≤ ((r : WithTop ℚ) : WithBot (WithTop ℚ))
        ↔
      q ≤ r := by
  rw [WithBot.coe_le_coe, WithTop.coe_le_coe]

theorem not_top_le_coe_coe (q : ℚ)
    : ¬ (⊤ : WithBot (WithTop ℚ)) ≤ ((q : WithTop ℚ) : WithBot (WithTop ℚ)) :=
  not_le.2 (WithBot.coe_lt_coe.2 (WithTop.coe_lt_top q))

theorem not_coe_coe_le_bot (q : ℚ)
    : ¬ ((q : WithTop ℚ) : WithBot (WithTop ℚ)) ≤ (⊥ : WithBot (WithTop ℚ)) :=
  not_le.2 (WithBot.bot_lt_coe _)

namespace Binary

variable {x y z : Binary}

/--
The place of a value on the number line with its two ends. The two zeros share theirs, and NaN
stands at the lower end without being compared there.
-/
def extended : Binary → WithBot (WithTop ℚ)
  | nan => ⊥
  | infinity true => ⊥
  | infinity false => ⊤
  | negZero => ((0 : ℚ) : WithTop ℚ)
  | finite v => (v.toRat : WithTop ℚ)

@[simp]
theorem extended_negZero : negZero.extended = ((0 : ℚ) : WithTop ℚ) := rfl

@[simp]
theorem extended_finite (v : Dyadic) : (finite v).extended = (v.toRat : WithTop ℚ) := rfl

@[simp]
theorem extended_zero : zero.extended = ((0 : ℚ) : WithTop ℚ) := rfl

theorem le_iff
    : x.le y = true ↔ x.isNaN = false ∧ y.isNaN = false ∧ x.extended ≤ y.extended := by
  cases x with
  | nan => simp [le, isNaN]
  | infinity s =>
    cases y with
    | nan => simp [le, isNaN]
    | infinity t => cases s <;> cases t <;> simp [le, isNaN, extended]
    | negZero =>
      cases s with
      | true => simp [le, isNaN, extended]
      | false => exact iff_of_false Bool.false_ne_true fun h => not_top_le_coe_coe 0 h.2.2
    | finite w =>
      cases s with
      | true => simp [le, isNaN, extended]
      | false => exact iff_of_false Bool.false_ne_true fun h => not_top_le_coe_coe _ h.2.2
  | negZero =>
    cases y with
    | nan => simp [le, isNaN]
    | infinity t => cases t <;> simp [le, isNaN, extended]
    | negZero => simp [le, isNaN]
    | finite w => simp [le, isNaN, ← Dyadic.toRat_le_toRat_iff]
  | finite v =>
    cases y with
    | nan => simp [le, isNaN]
    | infinity t => cases t <;> simp [le, isNaN, extended]
    | negZero => simp [le, isNaN, ← Dyadic.toRat_le_toRat_iff]
    | finite w => simp [le, isNaN, Dyadic.toRat_le_toRat_iff]

theorem le_trans (hxy : x.le y = true) (hyz : y.le z = true) : x.le z = true := by
  rw [le_iff] at hxy hyz ⊢
  exact ⟨hxy.1, hyz.2.1, hxy.2.2.trans hyz.2.2⟩

theorem le_total (hx : x.isNaN = false) (hy : y.isNaN = false)
    : x.le y = true ∨ y.le x = true := by
  rw [le_iff, le_iff]
  cases LinearOrder.le_total x.extended y.extended with
  | inl h => exact .inl ⟨hx, hy, h⟩
  | inr h => exact .inr ⟨hy, hx, h⟩

theorem le_eq_false_iff
    : x.le y = false ↔ (x.isNaN = false → y.isNaN = false → y.lt x = true) := by
  unfold lt
  rw [Bool.and_eq_true, Bool.not_eq_true']
  constructor
  . intro h hx hy
    obtain hle | hle := le_total hx hy
    . rw [h] at hle
      cases hle
    . exact ⟨hle, h⟩
  . intro h
    cases hle : x.le y with
    | false => rfl
    | true =>
      obtain ⟨hx, hy, _⟩ := le_iff.1 hle
      exact hle.symm.trans (h hx hy).2

theorem lt_eq_false_iff
    : x.lt y = false ↔ (x.isNaN = false → y.isNaN = false → y.le x = true) := by
  unfold lt
  constructor
  . intro h hx hy
    obtain hle | hle := le_total hx hy
    . rw [hle] at h
      simpa using h
    . exact hle
  . intro h
    cases hle : x.le y with
    | false => rfl
    | true =>
      obtain ⟨hx, hy, _⟩ := le_iff.1 hle
      rw [h hx hy]
      rfl

theorem lt_iff (hx : x.isNaN = false) (hy : y.isNaN = false)
    : x.lt y = true ↔ x.extended < y.extended := by
  unfold lt
  rw [Bool.and_eq_true, Bool.not_eq_true', ← Bool.not_eq_true, le_iff, le_iff, lt_iff_le_not_ge]
  tauto

theorem eq_iff
    : x.eq y = true ↔ x.isNaN = false ∧ y.isNaN = false ∧ x.extended = y.extended := by
  unfold eq
  rw [Bool.and_eq_true, le_iff, le_iff]
  constructor
  . rintro ⟨⟨hx, hy, hle⟩, _, _, hge⟩
    exact ⟨hx, hy, le_antisymm hle hge⟩
  . rintro ⟨hx, hy, heq⟩
    exact ⟨⟨hx, hy, heq.le⟩, hy, hx, heq.ge⟩

theorem extended_neg_finite (v : Dyadic)
    : (finite v).neg.extended = ((-v.toRat : ℚ) : WithTop ℚ) := by
  dsimp only [neg]
  split
  . next h => simp [h]
  . simp [Dyadic.toRat_neg]

theorem extended_neg_le_extended_neg (hx : x.isNaN = false) (hy : y.isNaN = false)
    (h : x.extended ≤ y.extended)
    : y.neg.extended ≤ x.neg.extended := by
  cases x with
  | nan => cases hx
  | infinity s =>
    cases s with
    | true => exact le_top
    | false =>
      cases y with
      | nan => cases hy
      | infinity t =>
        cases t with
        | true => exact h
        | false => exact le_rfl
      | negZero => exact absurd h (not_top_le_coe_coe 0)
      | finite w => exact absurd h (not_top_le_coe_coe w.toRat)
  | negZero =>
    cases y with
    | nan => cases hy
    | infinity t =>
      cases t with
      | true => exact absurd h (not_coe_coe_le_bot 0)
      | false => exact bot_le
    | negZero => exact le_rfl
    | finite w =>
      rw [extended_negZero, extended_finite, coe_coe_le_iff] at h
      rw [extended_neg_finite]
      exact coe_coe_le_iff.2 (neg_nonpos.2 h)
  | finite v =>
    rw [extended_neg_finite]
    cases y with
    | nan => cases hy
    | infinity t =>
      cases t with
      | true => exact absurd h (not_coe_coe_le_bot v.toRat)
      | false => exact bot_le
    | negZero =>
      rw [extended_negZero, extended_finite, coe_coe_le_iff] at h
      exact coe_coe_le_iff.2 (neg_nonneg.2 h)
    | finite w =>
      rw [extended_finite, extended_finite, coe_coe_le_iff] at h
      rw [extended_neg_finite]
      exact coe_coe_le_iff.2 (neg_le_neg h)

end Binary

end RankFusion
