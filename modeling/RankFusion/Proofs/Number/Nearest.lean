import Mathlib.Data.Int.Log
import Mathlib.Data.Rat.Floor
import Mathlib.Tactic.Linarith
import Mathlib.Tactic.NormNum
import RankFusion.Number.Rounding

/-!
This module contains the multiple of a format's spacing that is nearest to a positive number, as an
exact rational number. It is monotone, and it is the number itself if that is a value of the format.
-/

namespace RankFusion

def nearestInt (q : ℚ) : ℤ :=
  if q - ⌊q⌋ < 1 / 2 then ⌊q⌋
  else if 1 / 2 < q - ⌊q⌋ then ⌊q⌋ + 1
  else ⌊q⌋ + ⌊q⌋ % 2

theorem floor_le_nearestInt (q : ℚ) : ⌊q⌋ ≤ nearestInt q := by
  unfold nearestInt
  split
  . omega
  . split
    . omega
    . omega

theorem nearestInt_le_floor_add_one (q : ℚ) : nearestInt q ≤ ⌊q⌋ + 1 := by
  unfold nearestInt
  split
  . omega
  . split
    . omega
    . omega

theorem nearestInt_mono {q r : ℚ} (h : q ≤ r) : nearestInt q ≤ nearestInt r := by
  have hfloor : ⌊q⌋ ≤ ⌊r⌋ := Int.floor_le_floor h
  cases Int.lt_or_eq_of_le hfloor with
  | inl hlt =>
    have hq := nearestInt_le_floor_add_one q
    have hr := floor_le_nearestInt r
    omega
  | inr heq =>
    -- Between the same two integers only the distance from the lower one counts.
    unfold nearestInt
    rw [heq]
    have hdist : q - ⌊r⌋ ≤ r - ⌊r⌋ := by linarith
    split
    . split
      . omega
      . split
        . omega
        . omega
    . next hq =>
      have hr : ¬ r - ⌊r⌋ < 1 / 2 := by linarith
      rw [if_neg hr]
      split
      . next hq' =>
        have hr' : 1 / 2 < r - ⌊r⌋ := by linarith
        rw [if_pos hr']
      . split
        . omega
        . omega

theorem nearestInt_intCast (n : ℤ) : nearestInt n = n := by
  unfold nearestInt
  simp

theorem nearestInt_le {q : ℚ} {n : ℤ} (h : q ≤ n) : nearestInt q ≤ n := by
  rw [← nearestInt_intCast n]
  exact nearestInt_mono h

theorem le_nearestInt {q : ℚ} {n : ℤ} (h : n ≤ q) : n ≤ nearestInt q := by
  rw [← nearestInt_intCast n]
  exact nearestInt_mono h

namespace Format

variable {f : Format} {q r : ℚ}

def unit (f : Format) (q : ℚ) : ℤ := max (Int.log 2 q) f.minExponent - (f.precision - 1 : ℕ)

def nearest (f : Format) (q : ℚ) : ℚ := nearestInt (q / 2 ^ f.unit q) * 2 ^ f.unit q

theorem two_zpow_pos (e : ℤ) : (0 : ℚ) < 2 ^ e := zpow_pos (by decide) e

theorem unit_le_unit (hq : 0 < q) (h : q ≤ r) : f.unit q ≤ f.unit r := by
  unfold unit
  have := Int.log_mono_right (b := 2) hq h
  omega

theorem two_zpow_sub_eq_natPow {a b : ℤ} (h : b ≤ a)
    : (2 : ℚ) ^ (a - b) = ((2 ^ (a - b).toNat : ℕ) : ℤ) := by
  push_cast
  rw [← zpow_natCast]
  congr 1
  omega

theorem nearest_le_two_zpow {e : ℤ} (he : f.unit q ≤ e) (h : q ≤ 2 ^ e)
    : f.nearest q ≤ 2 ^ e := by
  have hpos := two_zpow_pos (f.unit q)
  have hcount : nearestInt (q / 2 ^ f.unit q) ≤ ((2 ^ (e - f.unit q).toNat : ℕ) : ℤ) := by
    apply nearestInt_le
    rw [← two_zpow_sub_eq_natPow he, zpow_sub₀ (by decide)]
    exact div_le_div_of_nonneg_right h hpos.le
  have hcast : (nearestInt (q / 2 ^ f.unit q) : ℚ) ≤ 2 ^ (e - f.unit q) := by
    rw [two_zpow_sub_eq_natPow he]
    exact_mod_cast hcount
  calc
    f.nearest q ≤ 2 ^ (e - f.unit q) * 2 ^ f.unit q := mul_le_mul_of_nonneg_right hcast hpos.le
    _ = 2 ^ e := by rw [← zpow_add₀ (by decide), sub_add_cancel]

theorem two_zpow_le_nearest {e : ℤ} (he : f.unit q ≤ e) (h : 2 ^ e ≤ q)
    : 2 ^ e ≤ f.nearest q := by
  have hpos := two_zpow_pos (f.unit q)
  have hcount : ((2 ^ (e - f.unit q).toNat : ℕ) : ℤ) ≤ nearestInt (q / 2 ^ f.unit q) := by
    apply le_nearestInt
    rw [← two_zpow_sub_eq_natPow he, zpow_sub₀ (by decide)]
    exact div_le_div_of_nonneg_right h hpos.le
  have hcast : 2 ^ (e - f.unit q) ≤ (nearestInt (q / 2 ^ f.unit q) : ℚ) := by
    rw [two_zpow_sub_eq_natPow he]
    exact_mod_cast hcount
  calc
    2 ^ e = 2 ^ (e - f.unit q) * 2 ^ f.unit q := by
      rw [← zpow_add₀ (by decide), sub_add_cancel]
    _ ≤ f.nearest q := mul_le_mul_of_nonneg_right hcast hpos.le

theorem nearest_mono (hq : 0 < q) (h : q ≤ r) : f.nearest q ≤ f.nearest r := by
  have hr : 0 < r := lt_of_lt_of_le hq h
  cases Int.lt_or_eq_of_le (unit_le_unit (f := f) hq h) with
  | inr heq =>
    unfold nearest
    rw [heq]
    have hpos := two_zpow_pos (f.unit r)
    have := nearestInt_mono (div_le_div_of_nonneg_right h hpos.le)
    exact mul_le_mul_of_nonneg_right (by exact_mod_cast this) hpos.le
  | inl hlt =>
    -- The power of two at the start of the larger number's binade lies between the two.
    have hlog : Int.log 2 q < Int.log 2 r ∧ f.unit r ≤ Int.log 2 r := by
      unfold unit at hlt ⊢
      omega
    have hbelow : q ≤ 2 ^ Int.log 2 r := by
      have hlt := Int.lt_zpow_succ_log_self (b := 2) (by decide) q
      have hle : (2 : ℚ) ^ (Int.log 2 q + 1) ≤ 2 ^ Int.log 2 r :=
        zpow_le_zpow_right₀ (by decide) (by omega)
      exact hlt.le.trans hle
    have habove : (2 : ℚ) ^ Int.log 2 r ≤ r := Int.zpow_log_le_self (b := 2) (by decide) hr
    calc
      f.nearest q ≤ 2 ^ Int.log 2 r := nearest_le_two_zpow (by omega) hbelow
      _ ≤ f.nearest r := two_zpow_le_nearest hlog.2 habove

theorem nearest_nonneg (hq : 0 < q) : 0 ≤ f.nearest q := by
  have hpos := two_zpow_pos (f.unit q)
  have hcount : 0 ≤ nearestInt (q / 2 ^ f.unit q) :=
    le_nearestInt (by exact_mod_cast (div_pos hq hpos).le)
  exact mul_nonneg (by exact_mod_cast hcount) hpos.le

def Represents (f : Format) (q : ℚ) : Prop :=
  ∃ c e : ℤ, q = c * 2 ^ e ∧ |c| < 2 ^ (f.precision - 1 + 1)
    ∧ f.minExponent - (f.precision - 1 : ℕ) ≤ e

theorem represents_nearest (hq : 0 < q) : f.Represents (f.nearest q) := by
  have hpos := two_zpow_pos (f.unit q)
  have hnonneg : 0 ≤ nearestInt (q / 2 ^ f.unit q) :=
    le_nearestInt (by exact_mod_cast (div_pos hq hpos).le)
  have hunit : f.minExponent - (f.precision - 1 : ℕ) ≤ f.unit q := by
    unfold unit
    omega
  have hle : nearestInt (q / 2 ^ f.unit q) ≤ 2 ^ (f.precision - 1 + 1) := by
    apply nearestInt_le
    rw [div_le_iff₀ hpos]
    have hlt := Int.lt_zpow_succ_log_self (b := 2) (by decide) q
    have hexp : Int.log 2 q + 1 ≤ (f.precision - 1 + 1 : ℕ) + f.unit q := by
      unfold unit
      push_cast
      omega
    calc
      q ≤ 2 ^ (Int.log 2 q + 1) := hlt.le
      _ ≤ 2 ^ ((f.precision - 1 + 1 : ℕ) + f.unit q) := zpow_le_zpow_right₀ (by decide) hexp
      _ = ((2 ^ (f.precision - 1 + 1) : ℤ) : ℚ) * 2 ^ f.unit q := by
        rw [zpow_add₀ (by decide), zpow_natCast]
        push_cast
        rfl
  cases Int.lt_or_eq_of_le hle with
  | inl hlt => exact ⟨_, _, rfl, by rwa [abs_of_nonneg hnonneg], hunit⟩
  | inr heq =>
    -- The number was rounded up to the start of the next binade.
    refine ⟨2 ^ (f.precision - 1), f.unit q + 1, ?_, ?_, by omega⟩
    . unfold nearest
      rw [heq, zpow_add₀ (by decide)]
      push_cast
      ring
    . rw [abs_of_nonneg (by positivity)]
      exact pow_lt_pow_right₀ (by decide) (by omega)

theorem nearest_eq_self (hq : 0 < q) (h : f.Represents q) : f.nearest q = q := by
  obtain ⟨c, e, hce, hc, he⟩ := h
  have hpos := two_zpow_pos e
  have hcpos : 0 < c := by
    rw [hce] at hq
    exact_mod_cast pos_of_mul_pos_left hq hpos.le
  have hunit : f.unit q ≤ e := by
    have hlt : q < 2 ^ ((f.precision - 1 + 1 : ℕ) + e) := by
      rw [abs_of_pos hcpos] at hc
      rw [hce, zpow_add₀ (by decide), zpow_natCast]
      exact mul_lt_mul_of_pos_right (by exact_mod_cast hc) hpos
    have := (Int.lt_zpow_iff_log_lt (b := 2) (by decide) hq).1 (by exact_mod_cast hlt)
    unfold unit
    omega
  have hcount : q / 2 ^ f.unit q = ((c * (2 ^ (e - f.unit q).toNat : ℕ) : ℤ) : ℚ) := by
    rw [Int.cast_mul, ← two_zpow_sub_eq_natPow hunit, zpow_sub₀ (by decide), hce]
    ring
  unfold nearest
  rw [hcount, nearestInt_intCast, ← hcount]
  exact div_mul_cancel₀ q (two_zpow_pos _).ne'

end Format

end RankFusion
