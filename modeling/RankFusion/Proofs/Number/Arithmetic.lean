import RankFusion.Proofs.Number.Rounding

/-!
This module contains the rounded operations on the extended number line. Each of them is the
rounding of the exact operation, so each is monotone where the exact one is.
-/

namespace RankFusion

namespace Binary

variable {x y : Binary}

def Unsigned (x : Binary) : Prop := x.isNaN = false ∧ x.isNegative = false

theorem unsigned_cases (h : x.Unsigned)
    : x = infinity false ∨ ∃ v : Dyadic, 0 ≤ v.toRat ∧ x = finite v := by
  cases x with
  | nan => cases h.1
  | infinity s =>
    cases s with
    | true => cases h.2
    | false => exact .inl rfl
  | negZero => cases h.2
  | finite v =>
    refine .inr ⟨v, ?_, rfl⟩
    have hv : ¬ v < 0 := of_decide_eq_false h.2
    rw [← Dyadic.toRat_lt_toRat_iff, Dyadic.toRat_zero] at hv
    exact not_lt.1 hv

theorem unsigned_finite {v : Dyadic} (h : 0 ≤ v.toRat) : (finite v).Unsigned := by
  refine ⟨rfl, decide_eq_false ?_⟩
  rw [← Dyadic.toRat_lt_toRat_iff, Dyadic.toRat_zero]
  exact not_lt.2 h

theorem unsigned_infinity : (infinity false).Unsigned := ⟨rfl, rfl⟩

theorem unsigned_zero : zero.Unsigned := unsigned_finite (by simp)

theorem Unsigned.zero_le (h : x.Unsigned) : zero.extended ≤ x.extended := by
  obtain rfl | ⟨v, hv, rfl⟩ := unsigned_cases h
  . exact le_top
  . rw [extended_zero, extended_finite]
    exact_mod_cast hv

-- A positive value has a clear sign bit, so the zero it is greater than may be of either sign.
theorem unsigned_of_zero_lt (h : zero.lt x = true) : x.Unsigned := by
  unfold lt at h
  rw [Bool.and_eq_true, Bool.not_eq_true'] at h
  obtain ⟨hle, hnot⟩ := h
  cases x with
  | nan => cases hle
  | infinity s =>
    cases s with
    | true => cases hle
    | false => exact unsigned_infinity
  | negZero => simp [le, zero] at hnot
  | finite v =>
    apply unsigned_finite
    have := (le_iff.1 hle).2.2
    rw [extended_zero, extended_finite] at this
    exact_mod_cast this

theorem extended_of_dyadic? {v : Dyadic} (h : x.dyadic? = some v)
    : x.extended = (v.toRat : WithTop ℚ) := by
  cases x with
  | nan => cases h
  | infinity s => cases h
  | negZero =>
    cases h
    rfl
  | finite w =>
    cases h
    rfl

/--
Whether a value lies between zero and one. The zero may be of either sign.
-/
def InUnit (x : Binary) : Prop := zero.le x = true ∧ x.le one = true

theorem InUnit.exists_dyadic? (h : x.InUnit) : ∃ v, x.dyadic? = some v ∧ 0 ≤ v.toRat := by
  obtain ⟨hzero, hone⟩ := h
  cases x with
  | nan => cases hone
  | infinity s =>
    cases s with
    | true => cases hzero
    | false => cases hone
  | negZero => exact ⟨0, rfl, le_rfl⟩
  | finite v =>
    refine ⟨v, rfl, ?_⟩
    have := (le_iff.1 hzero).2.2
    rw [extended_zero, extended_finite] at this
    exact_mod_cast this

end Binary

namespace Format

open Binary

variable {f : Format} {q r : ℚ} {x x' y y' : Binary}

def roundExtended (f : Format) : WithBot (WithTop ℚ) → WithBot (WithTop ℚ)
  | ⊥ => ⊥
  | (⊤ : WithTop ℚ) => ⊤
  | ((q : ℚ) : WithTop ℚ) => (f.round q).extended

theorem roundExtended_mono {a b : WithBot (WithTop ℚ)} (h : a ≤ b)
    : f.roundExtended a ≤ f.roundExtended b := by
  cases a with
  | bot => exact bot_le
  | coe a =>
    cases b with
    | bot => simp at h
    | coe b =>
      cases b with
      | top => exact le_top
      | coe r =>
        cases a with
        | top => simp at h
        | coe q => exact extended_round_mono (by exact_mod_cast h)

theorem extended_convert : (f.convert x).extended = f.roundExtended x.extended := by
  cases x with
  | nan => rfl
  | infinity s => cases s <;> rfl
  | negZero => rfl
  | finite v => rfl

theorem convert_zero : f.convert .zero = .zero := rfl

theorem isNaN_convert : (f.convert x).isNaN = x.isNaN := by
  cases x with
  | nan => rfl
  | infinity s => rfl
  | negZero => rfl
  | finite v => exact isNaN_round

theorem extended_add (hx : ⊥ < x.extended) (hy : ⊥ < y.extended)
    : (f.add x y).extended = f.roundExtended (x.extended + y.extended) := by
  cases x with
  | nan => simp [Binary.extended] at hx
  | infinity s =>
    cases s with
    | true => simp [Binary.extended] at hx
    | false =>
      cases y with
      | nan => simp [Binary.extended] at hy
      | infinity t =>
        cases t with
        | true => simp [Binary.extended] at hy
        | false => rfl
      | negZero => rfl
      | finite w => rfl
  | negZero =>
    cases y with
    | nan => simp [Binary.extended] at hy
    | infinity t =>
      cases t with
      | true => simp [Binary.extended] at hy
      | false => rfl
    | negZero =>
      rw [extended_negZero, ← WithBot.coe_add, ← WithTop.coe_add, add_zero]
      rfl
    | finite w =>
      rw [extended_negZero, extended_finite, ← WithBot.coe_add, ← WithTop.coe_add, zero_add]
      rfl
  | finite v =>
    cases y with
    | nan => simp [Binary.extended] at hy
    | infinity t =>
      cases t with
      | true => simp [Binary.extended] at hy
      | false => rfl
    | negZero =>
      rw [extended_negZero, extended_finite, ← WithBot.coe_add, ← WithTop.coe_add, add_zero]
      rfl
    | finite w =>
      rw [extended_finite, extended_finite, ← WithBot.coe_add, ← WithTop.coe_add,
        ← Dyadic.toRat_add]
      rfl

theorem isNaN_add (hx : ⊥ < x.extended) (hy : ⊥ < y.extended) : (f.add x y).isNaN = false := by
  cases x with
  | nan => simp [Binary.extended] at hx
  | infinity s =>
    cases y with
    | nan => simp [Binary.extended] at hy
    | infinity t => cases s <;> cases t <;> simp_all [Binary.extended, add, isNaN]
    | negZero => rfl
    | finite w => rfl
  | negZero =>
    cases y with
    | nan => simp [Binary.extended] at hy
    | infinity t => rfl
    | negZero => rfl
    | finite w => exact isNaN_round
  | finite v =>
    cases y with
    | nan => simp [Binary.extended] at hy
    | infinity t => rfl
    | negZero => exact isNaN_round
    | finite w => exact isNaN_round

theorem extended_add_mono (hx : ⊥ < x.extended) (hy : ⊥ < y.extended)
    (hxx : x.extended ≤ x'.extended) (hyy : y.extended ≤ y'.extended)
    : (f.add x y).extended ≤ (f.add x' y').extended := by
  rw [extended_add hx hy, extended_add (hx.trans_le hxx) (hy.trans_le hyy)]
  exact roundExtended_mono (add_le_add hxx hyy)

theorem unsigned_round (hq : 0 ≤ q) : (f.round q).Unsigned := by
  cases hq.eq_or_lt with
  | inl heq =>
    rw [← heq]
    exact unsigned_zero
  | inr hpos =>
    obtain hinf | ⟨v, hv, hnearest, _⟩ := round_eq_infinity_or_finite (f := f) hpos
    . rw [hinf]
      exact unsigned_infinity
    . rw [hv]
      apply unsigned_finite
      rw [hnearest]
      exact nearest_nonneg hpos

theorem unsigned_convert (h : x.Unsigned) : (f.convert x).Unsigned := by
  obtain rfl | ⟨v, hv, rfl⟩ := unsigned_cases h
  . exact h
  . exact unsigned_round hv

theorem unsigned_add (hx : x.Unsigned) (hy : y.Unsigned) : (f.add x y).Unsigned := by
  obtain rfl | ⟨v, hv, rfl⟩ := unsigned_cases hx
  . obtain rfl | ⟨w, _, rfl⟩ := unsigned_cases hy
    . exact unsigned_infinity
    . exact unsigned_infinity
  . obtain rfl | ⟨w, hw, rfl⟩ := unsigned_cases hy
    . exact unsigned_infinity
    . apply unsigned_round
      rw [Dyadic.toRat_add]
      exact add_nonneg hv hw

theorem div_one_of_unsigned (h : x.Unsigned)
    : (x = .infinity false ∧ f.div .one x = .zero)
        ∨ (x = .zero ∧ f.div .one x = .infinity false)
        ∨ ∃ v : Dyadic, 0 < v.toRat ∧ x = .finite v ∧ f.div .one x = f.round (1 / v.toRat) := by
  obtain rfl | ⟨v, hv, rfl⟩ := unsigned_cases h
  . exact .inl ⟨rfl, rfl⟩
  . right
    cases hv.eq_or_lt with
    | inl heq =>
      have hzero : v = 0 := Dyadic.toRat_eq_zero_iff.1 heq.symm
      subst hzero
      exact .inl ⟨rfl, rfl⟩
    | inr hpos =>
      refine .inr ⟨v, hpos, rfl, ?_⟩
      have hne : v ≠ 0 := by
        rintro rfl
        simp at hpos
      have hone : (1 : Dyadic) ≠ 0 := by decide
      have hrat : (1 : Dyadic).toRat = 1 := rfl
      unfold div
      simp only [dyadic?, Binary.one, if_neg hne, if_neg hone, hrat]

theorem unsigned_div_one (h : x.Unsigned) : (f.div .one x).Unsigned := by
  obtain ⟨_, hdiv⟩ | ⟨_, hdiv⟩ | ⟨v, hv, _, hdiv⟩ := div_one_of_unsigned (f := f) h
  . rw [hdiv]
    exact unsigned_zero
  . rw [hdiv]
    exact unsigned_infinity
  . rw [hdiv]
    exact unsigned_round (by positivity)

theorem extended_div_one_anti (hx : x.Unsigned) (hy : y.Unsigned)
    (h : x.extended ≤ y.extended)
    : (f.div .one y).extended ≤ (f.div .one x).extended := by
  obtain ⟨rfl, hdiv⟩ | ⟨rfl, hdiv⟩ | ⟨v, hv, rfl, hdiv⟩ := div_one_of_unsigned (f := f) hx
  . obtain ⟨rfl, hdiv'⟩ | ⟨rfl, _⟩ | ⟨w, _, rfl, _⟩ := div_one_of_unsigned (f := f) hy
    . exact le_rfl
    . exact absurd h (not_top_le_coe_coe 0)
    . exact absurd h (not_top_le_coe_coe w.toRat)
  . rw [hdiv]
    exact le_top
  . obtain ⟨rfl, hdiv'⟩ | ⟨rfl, hdiv'⟩ | ⟨w, hw, rfl, hdiv'⟩ := div_one_of_unsigned (f := f) hy
    . rw [hdiv']
      exact (unsigned_div_one hx).zero_le
    . rw [extended_finite, extended_zero] at h
      exact absurd hv (not_lt.2 (by exact_mod_cast h))
    . rw [hdiv, hdiv']
      apply extended_round_mono
      rw [extended_finite, extended_finite] at h
      exact one_div_le_one_div_of_le hv (by exact_mod_cast h)

theorem extended_mul {v w : Dyadic} (hx : x.dyadic? = some v) (hy : y.dyadic? = some w)
    : (f.mul x y).extended = (f.round (v.toRat * w.toRat)).extended := by
  unfold mul
  rw [hx, hy]
  dsimp only
  split
  . next hzero =>
    have hprod : v.toRat * w.toRat = 0 := by
      cases hzero with
      | inl hv => rw [hv, Dyadic.toRat_zero, zero_mul]
      | inr hw => rw [hw, Dyadic.toRat_zero, mul_zero]
    rw [hprod, round_zero]
    unfold signedZero
    split
    . rfl
    . rfl
  . rw [Dyadic.toRat_mul]

theorem bot_lt_extended_mul {w : Binary} (hw : w.InUnit) (hx : x.InUnit)
    : ⊥ < (f.mul w x).extended := by
  obtain ⟨v, hv, hvnonneg⟩ := hw.exists_dyadic?
  obtain ⟨u, hu, hunonneg⟩ := hx.exists_dyadic?
  rw [extended_mul hv hu]
  apply lt_of_lt_of_le _ (extended_zero_le_round (mul_nonneg hvnonneg hunonneg))
  exact WithBot.bot_lt_coe _

theorem extended_mul_mono {w : Binary} (hw : w.InUnit) (hx : x.InUnit) (hx' : x'.InUnit)
    (h : x.extended ≤ x'.extended)
    : (f.mul w x).extended ≤ (f.mul w x').extended := by
  obtain ⟨v, hv, hvnonneg⟩ := hw.exists_dyadic?
  obtain ⟨u, hu, _⟩ := hx.exists_dyadic?
  obtain ⟨u', hu', _⟩ := hx'.exists_dyadic?
  rw [extended_of_dyadic? hu, extended_of_dyadic? hu'] at h
  rw [extended_mul hv hu, extended_mul hv hu']
  apply extended_round_mono
  exact mul_le_mul_of_nonneg_left (by exact_mod_cast h) hvnonneg

theorem inUnit_convert (hone : f.convert .one = .one) (h : x.InUnit) : (f.convert x).InUnit := by
  obtain ⟨hzero, hle⟩ := h
  rw [le_iff] at hzero hle
  unfold InUnit
  rw [le_iff, le_iff, isNaN_convert]
  refine ⟨⟨rfl, hzero.2.1, ?_⟩, hle.1, rfl, ?_⟩
  . rw [← convert_zero (f := f), extended_convert, extended_convert]
    exact roundExtended_mono hzero.2.2
  . rw [← hone, extended_convert, extended_convert]
    exact roundExtended_mono hle.2.2

theorem convert_add : f.convert (f.add x y) = f.add x y := by
  cases x with
  | nan => rfl
  | infinity s =>
    cases y with
    | nan => rfl
    | infinity t => cases s <;> cases t <;> rfl
    | negZero => rfl
    | finite w => rfl
  | negZero =>
    cases y with
    | nan => rfl
    | infinity t => rfl
    | negZero => rfl
    | finite w => exact convert_round
  | finite v =>
    cases y with
    | nan => rfl
    | infinity t => rfl
    | negZero => exact convert_round
    | finite w => exact convert_round

theorem convert_div : f.convert (f.div x y) = f.div x y := by
  have hzero : ∀ s, f.convert (.signedZero s) = .signedZero s := by
    intro s
    cases s <;> rfl
  unfold div
  dsimp only
  split
  . split
    . split
      . rfl
      . rfl
    . split
      . exact hzero _
      . exact convert_round
  . split
    . rfl
    . exact hzero _
  . split
    . rfl
    . rfl
  . rfl

protected theorem add_comm (x y : Binary) : f.add x y = f.add y x := by
  cases x with
  | infinity s =>
    cases y with
    | infinity t => cases s <;> cases t <;> rfl
    | _ => rfl
  | finite v =>
    cases y with
    | finite w =>
      unfold add
      dsimp only
      rw [Dyadic.add_comm]
    | _ => rfl
  | _ => cases y <;> rfl

theorem add_zero_eq_self (hx : x.Unsigned) (h : f.convert x = x) : f.add x .zero = x := by
  obtain rfl | ⟨v, _, rfl⟩ := unsigned_cases hx
  . rfl
  . unfold add Binary.zero
    dsimp only
    rw [Dyadic.add_zero]
    exact h

theorem zero_add_eq_self (hx : x.Unsigned) (h : f.convert x = x) : f.add .zero x = x := by
  rw [Format.add_comm]
  exact add_zero_eq_self hx h

end Format

end RankFusion
