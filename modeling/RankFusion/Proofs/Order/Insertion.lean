import Mathlib.Order.RelClasses
import RankFusion.Proofs.Order.Search
import RankFusion.Proofs.Order.Sort

/-!
This module contains that insertion and the runs of a list keep to an order. All comparisons of a
sort are of an item with one that stood before it, and each of them tells which of the two comes
first in some strict order.
-/

namespace RankFusion.Order

variable {α : Type} {R : α → α → Prop} {lt : α → α → Bool} {xs ys : List α} {x y : α}

/--
Whether an answer tells which of two items comes first in an order: the second one if it is true.
-/
def Tells (answer : Bool) (R : α → α → Prop) (x y : α) : Prop := if answer then R y x else R x y

def Told (lt : α → α → Bool) (R : α → α → Prop) (xs : List α) : Prop :=
  xs.Pairwise fun x y => Tells (lt y x) R x y

section Tells

variable {answer : Bool}

theorem Tells.of_true (h : Tells answer R x y) (hanswer : answer = true) : R y x := by
  rwa [hanswer] at h

theorem Tells.of_false (h : Tells answer R x y) (hanswer : answer = false) : R x y := by
  rwa [hanswer] at h

variable [IsStrictOrder α R]

theorem Tells.eq_true (h : Tells answer R x y) (hyx : R y x) : answer = true := by
  cases answer with
  | true => rfl
  | false => exact absurd hyx (asymm_of R h)

theorem Tells.eq_false (h : Tells answer R x y) (hxy : R x y) : answer = false := by
  cases answer with
  | true => exact absurd hxy (asymm_of R h)
  | false => rfl

end Tells

variable [IsStrictOrder α R]

theorem parted_of_not (hxs : xs.Pairwise R) {answer : α → Bool}
    (h : ∀ x ∈ xs, Tells (answer x) R x y)
    : Parted (fun x => !answer x) xs := by
  apply hxs.imp_of_mem
  intro a b ha hb hab hpasses
  have hby : R b y := (h b hb).of_false (by simpa using hpasses)
  simp [(h a ha).eq_false (trans_of R hab hby)]

theorem parted_of (hys : ys.Pairwise R) {answer : α → Bool}
    (h : ∀ y ∈ ys, Tells (answer y) R x y)
    : Parted answer ys := by
  apply hys.imp_of_mem
  intro a b ha hb hab hpasses
  have hbx : R b x := (h b hb).of_true hpasses
  exact (h a ha).eq_true (trans_of R hab hbx)

theorem pairwise_insert (hxs : xs.Pairwise R) (h : ∀ a ∈ xs, Tells (lt x a) R a x)
    : (insert lt xs x).Pairwise R := by
  have hparted : Parted (fun a => !lt x a) xs := parted_of_not hxs h
  have hend : EndsAt (fun a => !lt x a) xs
      (bisect (fun a => !lt x a) 0 xs 0 xs.length) := by
    apply endsAt_bisect hparted
    . intro i hi
      exact absurd hi (Nat.not_lt_zero i)
    . intro i hi
      rw [← Bool.not_eq_true, passesAt_eq_true_iff]
      rintro ⟨hlt, _⟩
      omega
    . exact Nat.zero_le _
  unfold insert
  dsimp only
  generalize bisect (fun a => !lt x a) 0 xs 0 xs.length = place at hend
  have hfront : ∀ a ∈ xs.take place, R a x := by
    intro a ha
    exact (h a (List.mem_of_mem_take ha)).of_false (by simpa using hend.of_mem_take ha)
  have hback : ∀ b ∈ xs.drop place, R x b := by
    intro b hb
    exact (h b (List.mem_of_mem_drop hb)).of_true (by simpa using hend.of_mem_drop hb)
  rw [← List.take_append_drop place xs, List.pairwise_append] at hxs
  rw [List.pairwise_append, List.pairwise_cons]
  refine ⟨hxs.1, ⟨hback, hxs.2.1⟩, ?_⟩
  intro a ha b hb
  cases List.mem_cons.1 hb with
  | inl heq =>
    rw [heq]
    exact hfront a ha
  | inr hb => exact hxs.2.2 a ha b hb

theorem pairwise_foldl_insert (hys : ys.Pairwise R) (hxs : Told lt R xs)
    (h : ∀ a ∈ ys, ∀ b ∈ xs, Tells (lt b a) R a b)
    : (xs.foldl (insert lt) ys).Pairwise R := by
  induction xs generalizing ys with
  | nil => exact hys
  | cons x xs ih =>
    unfold Told at hxs
    rw [List.pairwise_cons] at hxs
    apply ih
    . exact pairwise_insert hys fun a ha => h a ha x List.mem_cons_self
    . exact hxs.2
    . intro a ha b hb
      cases List.mem_cons.1 ((insert_perm lt ys x).mem_iff.1 ha) with
      | inl heq =>
        rw [heq]
        exact hxs.1 b hb
      | inr ha => exact h a ha b (List.mem_cons_of_mem x hb)

theorem pairwise_splitRun {S T : α → α → Prop} [IsTrans α S] {continues : α → α → Bool}
    (h : ∀ a b, T a b → continues b a = true → S a b) (hxs : (x :: xs).Pairwise T)
    : (x :: (splitRun continues x xs).1).Pairwise S := by
  induction xs generalizing x with
  | nil => exact List.pairwise_singleton S x
  | cons y xs ih =>
    unfold splitRun
    rw [List.pairwise_cons] at hxs
    by_cases hcontinues : continues y x = true
    . have hxy : S x y := h x y (hxs.1 y List.mem_cons_self) hcontinues
      have hrun := ih hxs.2
      rw [if_pos hcontinues]
      dsimp only
      rw [List.pairwise_cons]
      refine ⟨?_, hrun⟩
      intro b hb
      cases List.mem_cons.1 hb with
      | inl heq =>
        rw [heq]
        exact hxy
      | inr hb => exact trans_of S hxy ((List.pairwise_cons.1 hrun).1 b hb)
    . rw [if_neg hcontinues]
      exact List.pairwise_singleton S x

theorem pairwise_firstRun (hxs : Told lt R xs) : (firstRun lt xs).1.Pairwise R := by
  unfold firstRun
  split
  . next x y rest =>
    dsimp only
    cases hdescending : lt y x with
    | true =>
      have hrun : (x :: (splitRun (fun a b => lt a b == true) x (y :: rest)).1).Pairwise
          (Function.swap R) :=
        pairwise_splitRun (fun a b htells hlt => htells.of_true (by simpa using hlt)) hxs
      rw [if_pos rfl, List.pairwise_reverse]
      exact hrun
    | false =>
      have hrun : (x :: (splitRun (fun a b => lt a b == false) x (y :: rest)).1).Pairwise R :=
        pairwise_splitRun (fun a b htells hlt => htells.of_false (by simpa using hlt)) hxs
      rw [if_neg Bool.false_ne_true]
      exact hrun
  . next hshort =>
    cases xs with
    | nil => exact .nil
    | cons x rest =>
      cases rest with
      | nil => exact List.pairwise_singleton R x
      | cons y rest => exact absurd rfl (hshort x y rest)

end RankFusion.Order
