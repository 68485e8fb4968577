import RankFusion.Proofs.Number.Arithmetic

/-!
This module contains bounds on the results of rounded operations. A result lies between what the
bounds of the exact result are rounded to, and is a number if those are.
-/

namespace RankFusion

namespace Binary

variable {x : Binary} {lo hi lo' hi' : ℤ}

def Within (lo hi : ℤ) (x : Binary) : Prop :=
  ∃ v, x.dyadic? = some v ∧ (lo : ℚ) ≤ v.toRat ∧ v.toRat ≤ hi

theorem Within.isFinite (h : x.Within lo hi) : x.isFinite = true := by
  obtain ⟨v, hv, _⟩ := h
  unfold Binary.isFinite
  rw [hv]
  rfl

theorem Within.mono (h : x.Within lo hi) (hlo : lo' ≤ lo) (hhi : hi ≤ hi') : x.Within lo' hi' := by
  obtain ⟨v, hv, hle, hge⟩ := h
  have hloq : (lo' : ℚ) ≤ lo := by exact_mod_cast hlo
  have hhiq : (hi : ℚ) ≤ hi' := by exact_mod_cast hhi
  exact ⟨v, hv, hloq.trans hle, hge.trans hhiq⟩

theorem Within.bot_lt (h : x.Within lo hi) : ⊥ < x.extended := by
  obtain ⟨v, hv, _⟩ := h
  rw [extended_of_dyadic? hv]
  exact WithBot.bot_lt_coe _

theorem within_zero : zero.Within 0 0 := ⟨0, rfl, by simp, by simp⟩

theorem within_one : one.Within 1 1 := by
  have hone : (1 : Dyadic).toRat = 1 := rfl
  exact ⟨1, rfl, by simp [hone], by simp [hone]⟩

theorem within_of_extended (hlo : (((lo : ℚ) : WithTop ℚ) : WithBot (WithTop ℚ)) ≤ x.extended)
    (hhi : x.extended ≤ ((hi : ℚ) : WithTop ℚ))
    : x.Within lo hi := by
  cases x with
  | nan => exact absurd hlo (not_coe_coe_le_bot lo)
  | infinity s =>
    cases s with
    | true => exact absurd hlo (not_coe_coe_le_bot lo)
    | false => exact absurd hhi (not_top_le_coe_coe hi)
  | negZero =>
    rw [extended_negZero, coe_coe_le_iff] at hlo hhi
    exact ⟨0, rfl, hlo, hhi⟩
  | finite v =>
    rw [extended_finite, coe_coe_le_iff] at hlo hhi
    exact ⟨v, rfl, hlo, hhi⟩

theorem isNaN_neg (x : Binary) : x.neg.isNaN = x.isNaN := by
  cases x with
  | finite v =>
    unfold Binary.neg
    dsimp only
    split
    . rfl
    . rfl
  | _ => rfl

theorem Within.neg (h : x.Within lo hi) : x.neg.Within (-hi) (-lo) := by
  obtain ⟨v, hv, hlo, hhi⟩ := h
  have hneg : x.neg.extended = ((-v.toRat : ℚ) : WithTop ℚ) := by
    cases x with
    | nan => cases hv
    | infinity s => cases hv
    | negZero =>
      cases hv
      rfl
    | finite w =>
      cases hv
      exact extended_neg_finite v
  apply within_of_extended
  . rw [hneg, coe_coe_le_iff, Int.cast_neg]
    exact neg_le_neg hhi
  . rw [hneg, coe_coe_le_iff, Int.cast_neg]
    exact neg_le_neg hlo

theorem InUnit.within (h : x.InUnit) : x.Within 0 1 :=
  within_of_extended (le_iff.1 h.1).2.2 (le_iff.1 h.2).2.2

end Binary

namespace Format

open Binary

variable {f : Format} {q : ℚ} {a b c d lo hi : ℤ} {x y w : Binary}

def RoundsTo (f : Format) (n m : ℤ) : Prop := f.ofInt n = .finite (.ofInt m)

instance (n m : ℤ) : Decidable (f.RoundsTo n m) :=
  inferInstanceAs (Decidable (f.ofInt n = .finite (.ofInt m)))

theorem RoundsTo.extended (h : f.RoundsTo a lo)
    : (f.round a).extended = ((lo : ℚ) : WithTop ℚ) := by
  have hround : f.round a = .finite (.ofInt lo) := h
  rw [hround, extended_finite, ← Dyadic.toRat_intCast]
  rfl

theorem within_of_extended_eq (h : x.extended = (f.round q).extended) (hlo : f.RoundsTo a lo)
    (hhi : f.RoundsTo b hi) (ha : a ≤ q) (hb : q ≤ b)
    : x.Within lo hi := by
  apply within_of_extended
  . rw [h, ← hlo.extended]
    exact extended_round_mono ha
  . rw [h, ← hhi.extended]
    exact extended_round_mono hb

theorem within_round (hlo : f.RoundsTo a lo) (hhi : f.RoundsTo b hi) (ha : a ≤ q) (hb : q ≤ b)
    : (f.round q).Within lo hi :=
  within_of_extended_eq rfl hlo hhi ha hb

theorem within_convert (hx : x.Within a b) (hlo : f.RoundsTo a lo) (hhi : f.RoundsTo b hi)
    : (f.convert x).Within lo hi := by
  obtain ⟨v, hv, ha, hb⟩ := hx
  have hround : (f.convert x).extended = (f.round v.toRat).extended := by
    rw [extended_convert, extended_of_dyadic? hv]
    rfl
  exact within_of_extended_eq hround hlo hhi ha hb

theorem within_add (hx : x.Within a b) (hy : y.Within c d) (hlo : f.RoundsTo (a + c) lo)
    (hhi : f.RoundsTo (b + d) hi)
    : (f.add x y).Within lo hi := by
  have hadd := extended_add (f := f) hx.bot_lt hy.bot_lt
  obtain ⟨v, hv, ha, hb⟩ := hx
  obtain ⟨u, hu, hc, hd⟩ := hy
  rw [extended_of_dyadic? hv, extended_of_dyadic? hu, ← WithBot.coe_add, ← WithTop.coe_add] at hadd
  apply within_of_extended_eq hadd hlo hhi
  . rw [Int.cast_add]
    exact add_le_add ha hc
  . rw [Int.cast_add]
    exact add_le_add hb hd

theorem within_sub (hx : x.Within a b) (hy : y.Within c d) (hlo : f.RoundsTo (a - d) lo)
    (hhi : f.RoundsTo (b - c) hi)
    : (f.sub x y).Within lo hi := by
  rw [sub_eq_add_neg] at hlo hhi
  exact within_add hx hy.neg hlo hhi

theorem within_mul (hw : w.Within 0 1) (hx : x.Within a b) (ha : a ≤ 0) (hb : 0 ≤ b)
    (hlo : f.RoundsTo a lo) (hhi : f.RoundsTo b hi)
    : (f.mul w x).Within lo hi := by
  obtain ⟨v, hv, hzero, hone⟩ := hw
  obtain ⟨u, hu, hle, hge⟩ := hx
  rw [Int.cast_zero] at hzero
  rw [Int.cast_one] at hone
  have haq : (a : ℚ) ≤ 0 := by exact_mod_cast ha
  have hbq : (0 : ℚ) ≤ b := by exact_mod_cast hb
  apply within_of_extended_eq (extended_mul hv hu) hlo hhi
  . calc
      (a : ℚ) ≤ v.toRat * a := le_mul_of_le_one_left haq hone
      _ ≤ v.toRat * u.toRat := mul_le_mul_of_nonneg_left hle hzero
  . calc
      v.toRat * u.toRat ≤ v.toRat * b := mul_le_mul_of_nonneg_left hge hzero
      _ ≤ b := mul_le_of_le_one_left hbq hone

theorem extended_mul_mono_within (hw : w.Within 0 lo) (hx : x.Within a b) (hy : y.Within c d)
    (h : x.extended ≤ y.extended)
    : (f.mul w x).extended ≤ (f.mul w y).extended := by
  obtain ⟨v, hv, hnonneg, _⟩ := hw
  obtain ⟨u, hu, _⟩ := hx
  obtain ⟨u', hu', _⟩ := hy
  rw [extended_of_dyadic? hu, extended_of_dyadic? hu', coe_coe_le_iff] at h
  rw [Int.cast_zero] at hnonneg
  rw [extended_mul hv hu, extended_mul hv hu']
  exact extended_round_mono (mul_le_mul_of_nonneg_left h hnonneg)

theorem extended_add_of_within (hx : x.Within a b) (hy : y.isNaN = false)
    : (f.add x y).extended = f.roundExtended (x.extended + y.extended) := by
  by_cases hbot : y.extended = ⊥
  . obtain rfl : y = .infinity true := by
      cases y with
      | nan => cases hy
      | infinity s =>
        cases s with
        | true => rfl
        | false => cases hbot
      | negZero => cases hbot
      | finite v => cases hbot
    obtain ⟨v, hv, _⟩ := hx
    rw [hbot, WithBot.add_bot]
    cases x with
    | nan => cases hv
    | infinity s => cases hv
    | negZero => rfl
    | finite v => rfl
  . exact extended_add hx.bot_lt (bot_lt_iff_ne_bot.2 hbot)

theorem isNaN_add_of_within (hx : x.Within a b) (hy : y.isNaN = false)
    : (f.add x y).isNaN = false := by
  obtain ⟨v, hv, _⟩ := hx
  cases x with
  | nan => cases hv
  | infinity s => cases hv
  | negZero =>
    cases y with
    | nan => cases hy
    | infinity s => rfl
    | negZero => rfl
    | finite w => exact isNaN_round
  | finite u =>
    cases y with
    | nan => cases hy
    | infinity s => rfl
    | negZero => exact isNaN_round
    | finite w => exact isNaN_round

theorem isNaN_sub_of_within (hx : x.Within a b) (hy : y.isNaN = false)
    : (f.sub x y).isNaN = false :=
  isNaN_add_of_within hx ((isNaN_neg y).trans hy)

theorem extended_sub_anti (hw : w.Within a b) (hx : x.isNaN = false) (hy : y.isNaN = false)
    (h : x.extended ≤ y.extended)
    : (f.sub w y).extended ≤ (f.sub w x).extended := by
  unfold sub
  rw [extended_add_of_within hw ((isNaN_neg y).trans hy),
    extended_add_of_within hw ((isNaN_neg x).trans hx)]
  exact roundExtended_mono (add_le_add le_rfl (extended_neg_le_extended_neg hx hy h))

theorem convert_convert : f.convert (f.convert x) = f.convert x := by
  cases x with
  | finite v => exact convert_round
  | _ => rfl

theorem zero_le_extended_convert (h : zero.extended ≤ x.extended)
    : zero.extended ≤ (f.convert x).extended := by
  rw [← convert_zero (f := f), extended_convert, extended_convert]
  exact roundExtended_mono h

theorem isFinite_of_add (h : (f.add x y).isFinite = true)
    : x.isFinite = true ∧ y.isFinite = true := by
  cases x with
  | nan => cases h
  | infinity s =>
    cases y with
    | nan => cases h
    | infinity t => cases s <;> cases t <;> cases h
    | negZero => cases h
    | finite w => cases h
  | negZero =>
    cases y with
    | nan => cases h
    | infinity t => cases h
    | negZero => exact ⟨rfl, rfl⟩
    | finite w => exact ⟨rfl, rfl⟩
  | finite v =>
    cases y with
    | nan => cases h
    | infinity t => cases h
    | negZero => exact ⟨rfl, rfl⟩
    | finite w => exact ⟨rfl, rfl⟩

theorem isFinite_of_sub (h : (f.sub x y).isFinite = true)
    : x.isFinite = true ∧ y.isFinite = true := by
  obtain ⟨hx, hy⟩ := isFinite_of_add h
  refine ⟨hx, ?_⟩
  cases y with
  | nan => cases hy
  | infinity t => cases hy
  | negZero => rfl
  | finite w => rfl

theorem isFinite_of_mul (h : (f.mul x y).isFinite = true) : y.isFinite = true := by
  unfold mul at h
  unfold isFinite
  cases hy : y.dyadic? with
  | some v => rfl
  | none =>
    rw [hy] at h
    cases hx : x.dyadic? with
    | none =>
      rw [hx] at h
      dsimp only at h
      split at h
      . cases h
      . cases h
    | some v =>
      rw [hx] at h
      dsimp only at h
      split at h
      . cases h
      . cases h

theorem Represents.abs_le (h : f.Represents q) (hlimit : |q| < f.limit)
    : |q| ≤ (2 ^ (f.precision - 1 + 1) - 1) * 2 ^ (f.maxExponent - (f.precision - 1 : ℕ)) := by
  obtain ⟨k, e, rfl, hk, _⟩ := h
  have hpos := two_zpow_pos e
  rw [abs_mul, abs_of_pos hpos, ← Int.cast_abs] at hlimit ⊢
  generalize hE : f.maxExponent - (f.precision - 1 : ℕ) = E
  have hpos' := two_zpow_pos E
  cases le_or_gt e E with
  | inl hle =>
    have hcount : ((|k| : ℤ) : ℚ) ≤ 2 ^ (f.precision - 1 + 1) - 1 := by
      have : |k| ≤ 2 ^ (f.precision - 1 + 1) - 1 := by omega
      exact_mod_cast this
    have hnonneg : (0 : ℚ) ≤ 2 ^ (f.precision - 1 + 1) - 1 := le_trans (by positivity) hcount
    exact mul_le_mul hcount (zpow_le_zpow_right₀ (by decide) hle) hpos.le hnonneg
  | inr hlt =>
    -- Both sides are counted in units of the greatest spacing.
    have hunit : ((|k| : ℤ) : ℚ) * 2 ^ e = ((|k| * (2 ^ (e - E).toNat : ℕ) : ℤ) : ℚ) * 2 ^ E := by
      rw [Int.cast_mul, ← two_zpow_sub_eq_natPow hlt.le, mul_assoc, ← zpow_add₀ (by decide),
        sub_add_cancel]
    have hbound : f.limit = ((2 ^ (f.precision - 1 + 1) : ℤ) : ℚ) * 2 ^ E := by
      unfold limit
      rw [← hE, Int.cast_pow, Int.cast_ofNat, ← zpow_natCast, ← zpow_add₀ (by decide)]
      congr 1
      push_cast
      ring
    rw [hunit, hbound] at hlimit
    have hlt := lt_of_mul_lt_mul_right hlimit hpos'.le
    rw [Int.cast_lt] at hlt
    rw [hunit]
    apply mul_le_mul_of_nonneg_right _ hpos'.le
    have : |k| * (2 ^ (e - E).toNat : ℕ) ≤ 2 ^ (f.precision - 1 + 1) - 1 := by omega
    exact_mod_cast this

theorem Represents.exists_multiple (h : f.Represents q)
    : ∃ n : ℤ, q = n * 2 ^ (f.minExponent - (f.precision - 1 : ℕ)) := by
  obtain ⟨k, e, rfl, _, he⟩ := h
  refine ⟨k * (2 ^ (e - (f.minExponent - (f.precision - 1 : ℕ))).toNat : ℕ), ?_⟩
  rw [Int.cast_mul, ← two_zpow_sub_eq_natPow he, mul_assoc, ← zpow_add₀ (by decide), sub_add_cancel]

theorem Represents.add_one_le {n : ℤ} (h : f.Represents q)
    (hlt : n * 2 ^ (f.minExponent - (f.precision - 1 : ℕ)) < q)
    : (n + 1 : ℤ) * 2 ^ (f.minExponent - (f.precision - 1 : ℕ)) ≤ q := by
  obtain ⟨m, rfl⟩ := h.exists_multiple
  have hpos := two_zpow_pos (f.minExponent - (f.precision - 1 : ℕ))
  have hcount : n < m := by exact_mod_cast lt_of_mul_lt_mul_right hlt hpos.le
  apply mul_le_mul_of_nonneg_right _ hpos.le
  exact_mod_cast hcount

end Format

end RankFusion
