import Mathlib.Data.List.Basic
import RankFusion.Order.Search

/-!
This module contains that a search finds the end of the items that pass, if all of them come before
the others.
-/

namespace RankFusion.Order

variable {α : Type} {test : α → Bool} {xs : List α}

def Parted (test : α → Bool) (xs : List α) : Prop :=
  xs.Pairwise fun x y => test y = true → test x = true

def EndsAt (test : α → Bool) (xs : List α) (n : Nat) : Prop :=
  ∀ i, passesAt test xs i = true ↔ i < n

theorem passesAt_eq_true_iff {i : Nat}
    : passesAt test xs i = true ↔ ∃ h : i < xs.length, test xs[i] = true := by
  unfold passesAt
  by_cases h : i < xs.length
  . simp [h]
  . simp [h]

theorem Parted.passesAt_of_le (h : Parted test xs) {i j : Nat} (hij : i ≤ j)
    (hj : passesAt test xs j = true)
    : passesAt test xs i = true := by
  rw [passesAt_eq_true_iff] at hj ⊢
  obtain ⟨hlength, hj⟩ := hj
  refine ⟨by omega, ?_⟩
  cases Nat.eq_or_lt_of_le hij with
  | inl heq =>
    subst heq
    exact hj
  | inr hlt => exact List.pairwise_iff_getElem.1 h i j (by omega) hlength hlt hj

theorem endsAt_bisect (h : Parted test xs) (low high : Nat)
    (hlow : ∀ i < low, passesAt test xs i = true)
    (hhigh : ∀ i, high ≤ i → passesAt test xs i = false) (hle : low ≤ high)
    : EndsAt test xs (bisect test tilt xs low high) := by
  fun_induction bisect test tilt xs low high with
  | case1 low high hlt middle hpasses ih =>
    apply ih
    . intro i hi
      exact h.passesAt_of_le (by omega) hpasses
    . exact hhigh
    . omega
  | case2 low high hlt middle hpasses ih =>
    apply ih
    . exact hlow
    . intro i hi
      rw [← Bool.not_eq_true]
      exact fun hi' => hpasses (h.passesAt_of_le hi hi')
    . omega
  | case3 low high hlt =>
    intro i
    constructor
    . intro hi
      by_contra hge
      rw [hhigh i (by omega)] at hi
      cases hi
    . exact hlow i

theorem stride_spec (h : Parted test xs) (limit last next : Nat)
    (hlimit : ∀ i, limit ≤ i → passesAt test xs i = false)
    (hlast : passesAt test xs last = true) (hlt : last < next)
    : passesAt test xs (stride test xs limit last next).1 = true
        ∧ (stride test xs limit last next).1 < (stride test xs limit last next).2
        ∧ ∀ i, (stride test xs limit last next).2 ≤ i → passesAt test xs i = false := by
  have hbelow : last < limit := by
    by_contra hge
    rw [hlimit last (by omega)] at hlast
    cases hlast
  fun_induction stride test xs limit last next with
  | case1 last next hnext hpasses ih => exact ih hpasses (by omega) hnext
  | case2 last next hnext hfails =>
    refine ⟨hlast, hlt, ?_⟩
    intro i hi
    rw [← Bool.not_eq_true]
    exact fun hi' => hfails (h.passesAt_of_le hi hi')
  | case3 last next hnext => exact ⟨hlast, hbelow, hlimit⟩

theorem endsAt_gallop (tilt : Nat) (h : Parted test xs)
    : EndsAt test xs (gallop test tilt xs) := by
  have hend : ∀ i, xs.length ≤ i → passesAt test xs i = false := by
    intro i hi
    rw [← Bool.not_eq_true, passesAt_eq_true_iff]
    rintro ⟨hlt, _⟩
    omega
  unfold gallop
  split
  . next hfirst =>
    obtain ⟨hlast, hlt, hnext⟩ := stride_spec h xs.length 0 1 hend hfirst Nat.zero_lt_one
    apply endsAt_bisect h
    . intro i hi
      exact h.passesAt_of_le (by omega) hlast
    . exact hnext
    . exact hlt
  . next hfirst =>
    intro i
    constructor
    . intro hi
      exact absurd (h.passesAt_of_le (Nat.zero_le i) hi) hfirst
    . intro hi
      exact absurd hi (Nat.not_lt_zero i)

variable {n : Nat} {x : α}

theorem EndsAt.of_mem_take (h : EndsAt test xs n) (hx : x ∈ xs.take n) : test x = true := by
  obtain ⟨i, hi, rfl⟩ := List.mem_iff_getElem.1 hx
  rw [List.length_take] at hi
  obtain ⟨_, hpasses⟩ := passesAt_eq_true_iff.1 ((h i).2 (by omega))
  rw [List.getElem_take]
  exact hpasses

theorem EndsAt.of_mem_drop (h : EndsAt test xs n) (hx : x ∈ xs.drop n) : test x = false := by
  obtain ⟨i, hi, rfl⟩ := List.mem_iff_getElem.1 hx
  rw [List.length_drop] at hi
  rw [List.getElem_drop, ← Bool.not_eq_true]
  intro hpasses
  have := (h (n + i)).1 (passesAt_eq_true_iff.2 ⟨by omega, hpasses⟩)
  omega

end RankFusion.Order
