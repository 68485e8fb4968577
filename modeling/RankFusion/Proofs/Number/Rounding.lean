import RankFusion.Proofs.Number.Nearest
import RankFusion.Proofs.Number.Order

/-!
This module contains the rounding of exact numbers to a format. Rounding is monotone, never gives
NaN, and leaves the values of the format as they are.
-/

namespace RankFusion

theorem roundHalfEven_eq {num den : ℕ} (hden : 0 < den)
    : (roundHalfEven num den : ℤ) = nearestInt ((num : ℚ) / den) := by
  have hdenq : (0 : ℚ) < den := by exact_mod_cast hden
  have hfloor : ⌊(num : ℚ) / den⌋ = ((num / den : ℕ) : ℤ) := by
    rw [Rat.floor_natCast_div_natCast]
    rfl
  have hrest : (num : ℚ) / den - ⌊(num : ℚ) / den⌋ = ((num % den : ℕ) : ℚ) / den := by
    have hdiv : (num : ℚ) = den * (num / den : ℕ) + (num % den : ℕ) := by
      exact_mod_cast (Nat.div_add_mod num den).symm
    rw [hfloor, eq_div_iff hdenq.ne', sub_mul, div_mul_cancel₀ _ hdenq.ne', Int.cast_natCast]
    linarith
  unfold roundHalfEven nearestInt
  rw [hrest, hfloor]
  dsimp only
  have hlt : ((num % den : ℕ) : ℚ) / den < 1 / 2 ↔ 2 * (num % den) < den := by
    rw [div_lt_div_iff₀ hdenq (by decide)]
    norm_cast
    omega
  have hgt : 1 / 2 < ((num % den : ℕ) : ℚ) / den ↔ den < 2 * (num % den) := by
    rw [div_lt_div_iff₀ (by decide) hdenq]
    norm_cast
    omega
  simp only [hlt, hgt]
  split
  . rfl
  . split
    . rfl
    . rfl

namespace Format

variable {f : Format} {q r : ℚ}

theorem two_zpow_log2_le {n : ℕ} (hn : 0 < n) : (2 : ℚ) ^ (n.log2 : ℤ) ≤ n := by
  rw [zpow_natCast]
  exact_mod_cast Nat.log2_self_le hn.ne'

theorem lt_two_zpow_log2 (n : ℕ) : (n : ℚ) < 2 ^ ((n.log2 : ℤ) + 1) := by
  rw [← Int.natCast_succ, zpow_natCast]
  exact_mod_cast Nat.lt_log2_self

theorem log_eq_of_bounds {e : ℤ} (hq : 0 < q) (hle : 2 ^ e ≤ q) (hlt : q < 2 ^ (e + 1))
    : Int.log 2 q = e := by
  have hlower := (Int.zpow_le_iff_le_log (b := 2) (by decide) hq).1 (by exact_mod_cast hle)
  have hupper := (Int.lt_zpow_iff_log_lt (b := 2) (by decide) hq).1 (by exact_mod_cast hlt)
  omega

theorem floorLog2_eq {num den : ℕ} (hnum : 0 < num) (hden : 0 < den)
    : floorLog2 num den = Int.log 2 ((num : ℚ) / den) := by
  have hdenq : (0 : ℚ) < den := by exact_mod_cast hden
  have hq : (0 : ℚ) < num / den := div_pos (by exact_mod_cast hnum) hdenq
  -- The quotient lies within one power of two of the estimate on both sides.
  have hlower : (2 : ℚ) ^ ((num.log2 : ℤ) - den.log2 - 1) ≤ num / den := by
    rw [le_div_iff₀ hdenq]
    calc
      (2 : ℚ) ^ ((num.log2 : ℤ) - den.log2 - 1) * den
        ≤ 2 ^ ((num.log2 : ℤ) - den.log2 - 1) * 2 ^ ((den.log2 : ℤ) + 1) :=
          mul_le_mul_of_nonneg_left (lt_two_zpow_log2 den).le (two_zpow_pos _).le
      _ = 2 ^ (num.log2 : ℤ) := by
        rw [← zpow_add₀ (by decide)]
        congr 1
        omega
      _ ≤ num := two_zpow_log2_le hnum
  have hupper : (num : ℚ) / den < 2 ^ ((num.log2 : ℤ) - den.log2 + 1) := by
    rw [div_lt_iff₀ hdenq]
    calc
      (num : ℚ) < 2 ^ ((num.log2 : ℤ) + 1) := lt_two_zpow_log2 num
      _ = 2 ^ ((num.log2 : ℤ) - den.log2 + 1) * 2 ^ (den.log2 : ℤ) := by
        rw [← zpow_add₀ (by decide)]
        congr 1
        omega
      _ ≤ 2 ^ ((num.log2 : ℤ) - den.log2 + 1) * den :=
          mul_le_mul_of_nonneg_left (two_zpow_log2_le hden) (two_zpow_pos _).le
  unfold floorLog2
  generalize (num.log2 : ℤ) - den.log2 = e at hlower hupper
  have hfits : (if 0 ≤ e then den <<< e.toNat ≤ num else den ≤ num <<< (-e).toNat)
      ↔ (2 : ℚ) ^ e ≤ num / den := by
    rw [le_div_iff₀ hdenq, Nat.shiftLeft_eq, Nat.shiftLeft_eq]
    split
    . next he =>
      obtain ⟨n, rfl⟩ := Int.eq_ofNat_of_zero_le he
      rw [zpow_natCast, mul_comm]
      norm_cast
    . next he =>
      obtain ⟨n, hn⟩ := Int.eq_ofNat_of_zero_le (by omega : 0 ≤ -e)
      rw [← neg_neg e, hn, zpow_neg, zpow_natCast, neg_neg, inv_mul_le_iff₀ (by positivity),
        mul_comm]
      norm_cast
  dsimp only
  simp only [hfits]
  split
  . next h => exact (log_eq_of_bounds hq h hupper).symm
  . next h =>
    rw [not_le] at h
    exact (log_eq_of_bounds hq hlower (by rwa [sub_add_cancel])).symm

theorem unitCount_eq {num den : ℕ} (hden : 0 < den) (e : ℤ)
    : (unitCount num den e : ℤ) = nearestInt ((num : ℚ) / den / 2 ^ e) := by
  unfold unitCount
  rw [Nat.shiftLeft_eq, Nat.shiftLeft_eq]
  split
  . next he =>
    obtain ⟨n, rfl⟩ := Int.eq_ofNat_of_zero_le he
    rw [roundHalfEven_eq (by positivity)]
    congr 1
    rw [Int.toNat_natCast, zpow_natCast, div_div]
    push_cast
    rfl
  . next he =>
    obtain ⟨n, hn⟩ := Int.eq_ofNat_of_zero_le (by omega : 0 ≤ -e)
    rw [roundHalfEven_eq hden]
    congr 1
    rw [← neg_neg e, hn, zpow_neg, zpow_natCast, neg_neg, Int.toNat_natCast, div_inv_eq_mul]
    push_cast
    ring

theorem overflows_iff {count : ℕ} {e : ℤ}
    : f.overflows count e = true ↔ 2 ^ (f.maxExponent + 1) ≤ (count : ℚ) * 2 ^ e := by
  unfold overflows
  cases Nat.eq_zero_or_pos count with
  | inl hzero =>
    have := two_zpow_pos (f.maxExponent + 1)
    simp [hzero, this]
  | inr hpos =>
    have he := two_zpow_pos e
    simp only [bne_iff_ne, ne_eq, hpos.ne', not_false_eq_true, Bool.and_eq_true, true_and,
      decide_eq_true_eq]
    constructor
    . intro h
      calc
        (2 : ℚ) ^ (f.maxExponent + 1) ≤ 2 ^ ((count.log2 : ℤ) + e) :=
          zpow_le_zpow_right₀ (by decide) (by omega)
        _ = 2 ^ (count.log2 : ℤ) * 2 ^ e := zpow_add₀ (by decide) _ _
        _ ≤ count * 2 ^ e := mul_le_mul_of_nonneg_right (two_zpow_log2_le hpos) he.le
    . intro h
      have hlt : (2 : ℚ) ^ (f.maxExponent + 1) < 2 ^ ((count.log2 : ℤ) + 1 + e) := by
        refine lt_of_le_of_lt h ?_
        rw [zpow_add₀ (by decide)]
        exact mul_lt_mul_of_pos_right (lt_two_zpow_log2 count) he
      have := (zpow_lt_zpow_iff_right₀ (by decide)).1 hlt
      omega

def limit (f : Format) : ℚ := 2 ^ (f.maxExponent + 1)

theorem round_of_pos (hq : 0 < q)
    : f.round q =
        if f.limit ≤ f.nearest q then .infinity false
        else .finite (.ofIntWithPrec (nearestInt (q / 2 ^ f.unit q)) (-f.unit q)) := by
  have hnum : 0 < q.num := Rat.num_pos.2 hq
  have hnat : 0 < q.num.natAbs := Int.natAbs_pos.2 hnum.ne'
  have hfrac : ((q.num.natAbs : ℚ) / q.den) = q := by
    rw [Nat.cast_natAbs, abs_of_pos hnum]
    exact Rat.num_div_den q
  have hunit : f.unitExponent q.num.natAbs q.den = f.unit q := by
    unfold unitExponent unit
    rw [floorLog2_eq hnat q.den_pos, hfrac]
  have hcount : (unitCount q.num.natAbs q.den (f.unit q) : ℤ) = nearestInt (q / 2 ^ f.unit q) := by
    rw [unitCount_eq q.den_pos, hfrac]
  unfold round
  rw [if_neg hnum.ne', hunit]
  have hneg : decide (q.num < 0) = false := decide_eq_false (by omega)
  simp only [hneg, overflows_iff]
  have hnearest : (unitCount q.num.natAbs q.den (f.unit q) : ℚ) * 2 ^ f.unit q = f.nearest q := by
    unfold nearest
    rw [← hcount]
    push_cast
    rfl
  rw [hnearest]
  unfold limit
  split
  . rfl
  . split
    . next hzero =>
      rw [← hcount, hzero]
      rfl
    . rw [← hcount]
      rfl

theorem ofIntWithPrec_ne_zero {n k : ℤ} (hn : n ≠ 0) : Dyadic.ofIntWithPrec n k ≠ 0 := by
  rw [ne_eq, ← Dyadic.toRat_eq_zero_iff, Dyadic.toRat_ofIntWithPrec_eq_mul_two_pow]
  exact mul_ne_zero (by exact_mod_cast hn) (two_zpow_pos _).ne'

theorem round_neg (hq : q ≠ 0) : f.round (-q) = (f.round q).neg := by
  have hnum : q.num ≠ 0 := Rat.num_ne_zero.2 hq
  unfold round
  rw [Rat.num_neg_eq_neg_num, Rat.den_neg_eq_den, Int.natAbs_neg, if_neg hnum,
    if_neg (neg_ne_zero.2 hnum)]
  dsimp only
  generalize f.unitExponent q.num.natAbs q.den = e
  generalize unitCount q.num.natAbs q.den e = count
  have hsign : decide (-q.num < 0) = !decide (q.num < 0) := by
    by_cases h : q.num < 0
    . rw [decide_eq_true h, decide_eq_false (by omega)]
      rfl
    . rw [decide_eq_false h, decide_eq_true (by omega)]
      rfl
  rw [hsign]
  -- An overflow, a zero and any other value: each takes its sign from the number.
  split
  . rfl
  . split
    . cases decide (q.num < 0) with
      | false => simp [Binary.signedZero, Binary.neg, Binary.zero]
      | true => simp [Binary.signedZero, Binary.neg, Binary.zero]
    . next hcount =>
      have hcast : (count : ℤ) ≠ 0 := by exact_mod_cast hcount
      unfold Binary.neg
      cases decide (q.num < 0) with
      | false => simp [ofIntWithPrec_ne_zero hcast, Dyadic.neg_ofIntWithPrec]
      | true => simp [ofIntWithPrec_ne_zero (neg_ne_zero.2 hcast), Dyadic.neg_ofIntWithPrec]

theorem round_zero : f.round 0 = .zero := rfl

theorem round_eq_infinity_or_finite (hq : 0 < q)
    : f.round q = .infinity false
        ∨ ∃ v, f.round q = .finite v ∧ v.toRat = f.nearest q ∧ f.nearest q < f.limit := by
  rw [round_of_pos hq]
  split
  . exact .inl rfl
  . next h =>
    refine .inr ⟨_, rfl, ?_, not_le.1 h⟩
    rw [Dyadic.toRat_ofIntWithPrec_eq_mul_two_pow, neg_neg]
    rfl

@[simp]
theorem isNaN_round : (f.round q).isNaN = false := by
  unfold round
  split
  . rfl
  . dsimp only
    split
    . rfl
    . split
      . cases decide (q.num < 0) <;> rfl
      . rfl

theorem extended_round_of_pos (hq : 0 < q)
    : (f.round q).extended =
        if f.limit ≤ f.nearest q then ⊤ else ((f.nearest q : ℚ) : WithTop ℚ) := by
  rw [round_of_pos hq]
  split
  . rfl
  . rw [Binary.extended_finite, Dyadic.toRat_ofIntWithPrec_eq_mul_two_pow, neg_neg]
    rfl

theorem extended_round_mono_of_pos (hq : 0 < q) (h : q ≤ r)
    : (f.round q).extended ≤ (f.round r).extended := by
  have hnearest := nearest_mono (f := f) hq h
  rw [extended_round_of_pos hq, extended_round_of_pos (lt_of_lt_of_le hq h)]
  split
  . next hlimit =>
    rw [if_pos (hlimit.trans hnearest)]
  . split
    . exact le_top
    . exact_mod_cast hnearest

theorem extended_zero_le_round (hq : 0 ≤ q) : Binary.zero.extended ≤ (f.round q).extended := by
  cases hq.eq_or_lt with
  | inl heq =>
    rw [← heq]
    exact le_rfl
  | inr hpos =>
    rw [extended_round_of_pos hpos, Binary.extended_zero]
    split
    . exact le_top
    . exact_mod_cast nearest_nonneg hpos

theorem extended_round_le_zero (hq : q ≤ 0) : (f.round q).extended ≤ Binary.zero.extended := by
  cases hq.eq_or_lt with
  | inl heq =>
    rw [heq]
    exact le_rfl
  | inr hneg =>
    rw [← neg_neg q, round_neg (neg_ne_zero.2 hneg.ne)]
    exact Binary.extended_neg_le_extended_neg (x := .negZero) rfl isNaN_round
      (extended_zero_le_round (neg_nonneg.2 hq))

theorem extended_round_mono (h : q ≤ r) : (f.round q).extended ≤ (f.round r).extended := by
  by_cases hq : 0 < q
  . exact extended_round_mono_of_pos hq h
  . by_cases hr : r < 0
    . -- Both numbers are negative: compare their opposites.
      have hrpos : 0 < -r := neg_pos.2 hr
      have hqpos : 0 < -q := by linarith
      rw [← neg_neg q, ← neg_neg r, round_neg hqpos.ne', round_neg hrpos.ne']
      exact Binary.extended_neg_le_extended_neg isNaN_round isNaN_round
        (extended_round_mono_of_pos hrpos (neg_le_neg h))
    . exact (extended_round_le_zero (not_lt.1 hq)).trans (extended_zero_le_round (not_lt.1 hr))

theorem Represents.neg (h : f.Represents q) : f.Represents (-q) := by
  obtain ⟨c, e, rfl, hc, he⟩ := h
  refine ⟨-c, e, ?_, by rwa [abs_neg], he⟩
  push_cast
  ring

theorem represents_zero : f.Represents 0 := by
  refine ⟨0, f.minExponent - (f.precision - 1 : ℕ), by simp, ?_, le_rfl⟩
  rw [abs_zero]
  positivity

theorem represents_of_round_eq_of_pos {v : Dyadic} (hq : 0 < q) (h : f.round q = .finite v)
    : f.Represents v.toRat ∧ |v.toRat| < f.limit := by
  obtain hinf | ⟨w, hw, hnearest, hlimit⟩ := round_eq_infinity_or_finite (f := f) hq
  . rw [hinf] at h
    cases h
  . rw [hw] at h
    cases h
    rw [hnearest, abs_of_nonneg (nearest_nonneg hq)]
    exact ⟨represents_nearest hq, hlimit⟩

theorem represents_of_round_eq {v : Dyadic} (h : f.round q = .finite v)
    : f.Represents v.toRat ∧ |v.toRat| < f.limit := by
  -- A negative number is rounded like its opposite.
  obtain hneg | rfl | hpos := lt_trichotomy q 0
  . have hqpos : 0 < -q := neg_pos.2 hneg
    rw [← neg_neg q, round_neg hqpos.ne'] at h
    obtain hinf | ⟨w, hw, _⟩ := round_eq_infinity_or_finite (f := f) hqpos
    . rw [hinf] at h
      cases h
    . obtain ⟨hrep, hlimit⟩ := represents_of_round_eq_of_pos hqpos hw
      rw [hw] at h
      dsimp only [Binary.neg] at h
      split at h
      . cases h
      . cases h
        rw [Dyadic.toRat_neg, abs_neg]
        exact ⟨hrep.neg, hlimit⟩
  . cases h
    rw [Dyadic.toRat_zero, abs_zero]
    exact ⟨represents_zero, two_zpow_pos _⟩
  . exact represents_of_round_eq_of_pos hpos h

theorem round_toRat_of_pos {v : Dyadic} (hv : 0 < v.toRat) (h : f.Represents v.toRat)
    (hlimit : v.toRat < f.limit)
    : f.round v.toRat = .finite v := by
  have hnearest := nearest_eq_self hv h
  rw [round_of_pos hv, if_neg (not_le.2 (hnearest.symm ▸ hlimit))]
  congr 1
  rw [← Dyadic.toRat_inj, Dyadic.toRat_ofIntWithPrec_eq_mul_two_pow, neg_neg]
  exact hnearest

theorem round_toRat {v : Dyadic} (h : f.Represents v.toRat) (hlimit : |v.toRat| < f.limit)
    : f.round v.toRat = .finite v := by
  obtain hneg | hzero | hpos := lt_trichotomy v.toRat 0
  . have hvpos : 0 < (-v).toRat := by
      rw [Dyadic.toRat_neg]
      exact neg_pos.2 hneg
    have hround : f.round (-v).toRat = .finite (-v) := by
      apply round_toRat_of_pos hvpos
      . rw [Dyadic.toRat_neg]
        exact h.neg
      . rwa [Dyadic.toRat_neg, ← abs_of_neg hneg]
    have hne : -v ≠ 0 := by
      rw [ne_eq, ← Dyadic.toRat_eq_zero_iff]
      exact hvpos.ne'
    rw [← neg_neg v.toRat, ← Dyadic.toRat_neg, round_neg hvpos.ne', hround]
    dsimp only [Binary.neg]
    rw [if_neg hne]
    congr 1
    rw [← Dyadic.toRat_inj, Dyadic.toRat_neg, Dyadic.toRat_neg, neg_neg]
  . rw [hzero]
    rw [Dyadic.toRat_eq_zero_iff] at hzero
    rw [hzero]
    rfl
  . exact round_toRat_of_pos hpos h (by rwa [← abs_of_pos hpos])

theorem convert_round : f.convert (f.round q) = f.round q := by
  generalize h : f.round q = x
  cases x with
  | nan => rfl
  | infinity s => rfl
  | negZero => rfl
  | finite v =>
    obtain ⟨hv, hlimit⟩ := represents_of_round_eq h
    exact round_toRat hv hlimit

end Format

end RankFusion
