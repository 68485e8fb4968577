import RankFusion.Order.Sort

/-!
This module contains that sorting only rearranges, whatever the comparison. Every step of it moves
items from one list to another.
-/

namespace RankFusion.Order

variable {α : Type}

theorem insert_perm (lt : α → α → Bool) (xs : List α) (x : α)
    : (insert lt xs x).Perm (x :: xs) := by
  unfold insert
  dsimp only
  generalize bisect (fun y => !lt x y) 0 xs 0 xs.length = place
  conv => rhs; rw [← List.take_append_drop place xs]
  exact List.perm_middle

theorem foldl_insert_perm (lt : α → α → Bool) (xs ys : List α)
    : (xs.foldl (insert lt) ys).Perm (ys ++ xs) := by
  induction xs generalizing ys with
  | nil => rw [List.foldl_nil, List.append_nil]
  | cons x xs ih =>
    rw [List.foldl_cons]
    refine (ih _).trans ?_
    exact ((insert_perm lt ys x).append_right xs).trans List.perm_middle.symm

theorem splitRun_append (continues : α → α → Bool) (last : α) (xs : List α)
    : (splitRun continues last xs).1 ++ (splitRun continues last xs).2 = xs := by
  induction xs generalizing last with
  | nil => rfl
  | cons x xs ih =>
    unfold splitRun
    split
    . exact congrArg (x :: ·) (ih x)
    . rfl

theorem firstRun_perm (lt : α → α → Bool) (xs : List α)
    : ((firstRun lt xs).1 ++ (firstRun lt xs).2).Perm xs := by
  unfold firstRun
  split
  . next x y rest =>
    dsimp only
    have happend := splitRun_append (fun a b => lt a b == lt y x) x (y :: rest)
    generalize splitRun (fun a b => lt a b == lt y x) x (y :: rest) = split at happend ⊢
    rw [← happend]
    split
    . exact (List.reverse_perm (x :: split.1)).append_right split.2
    . exact .refl _
  . rw [List.append_nil]

theorem firstRun_ne_nil (lt : α → α → Bool) {xs : List α} (h : xs ≠ [])
    : (firstRun lt xs).1 ≠ [] := by
  unfold firstRun
  split
  . dsimp only
    split
    . simp
    . simp
  . exact h

theorem filledRun_perm (lt : α → α → Bool) (least : Nat) (xs : List α)
    : ((filledRun lt least xs).1 ++ (filledRun lt least xs).2).Perm xs := by
  unfold filledRun
  refine List.Perm.trans ?_ (firstRun_perm lt xs)
  dsimp only
  generalize least - (firstRun lt xs).1.length = missing
  refine ((foldl_insert_perm lt _ _).append_right _).trans ?_
  rw [List.append_assoc, List.take_append_drop]

theorem length_filledRun_lt (lt : α → α → Bool) (least : Nat) {xs : List α} (h : xs ≠ [])
    : (filledRun lt least xs).2.length < xs.length := by
  have hlength := (firstRun_perm lt xs).length_eq
  have hpos := List.length_pos_iff.2 (firstRun_ne_nil lt h)
  rw [List.length_append] at hlength
  unfold filledRun
  dsimp only
  rw [List.length_drop]
  omega

namespace Merging

variable (d : Direction α)

theorem takeShort_perm (count : Nat) (m : Merging α)
    : (m.takeShort count).result.Perm m.result := by
  unfold takeShort result
  dsimp only
  rw [List.reverse_append, List.reverse_reverse, List.append_assoc, List.append_assoc,
    List.append_assoc]
  refine List.Perm.append_left _ ?_
  conv => rhs; rw [← List.take_append_drop count m.short]
  exact List.perm_append_comm_assoc _ _ _

theorem result_takeLong (count : Nat) (m : Merging α) : (m.takeLong count).result = m.result := by
  unfold takeLong result
  dsimp only
  rw [List.reverse_append, List.reverse_reverse, List.append_assoc m.taken.reverse,
    List.take_append_drop]

theorem takeOne_perm (m : Merging α) : (m.takeOne d).2.result.Perm m.result := by
  unfold takeOne
  split
  . split
    . rw [result_takeLong]
    . exact takeShort_perm 1 m
  . exact .refl _

theorem takeRun_perm (ofShort : Bool) (m : Merging α)
    : (m.takeRun d ofShort).2.result.Perm m.result := by
  unfold takeRun
  split
  . next x _ y _ _ _ =>
    split
    . dsimp only
      generalize gallop (fun x => !d.longFirst x y) d.tilt m.short = count
      split
      . exact takeShort_perm count m
      . rw [result_takeLong]
        exact takeShort_perm count m
    . dsimp only
      generalize gallop (fun y => d.longFirst x y) d.tilt m.long = count
      split
      . rw [result_takeLong]
      . refine (takeShort_perm 1 _).trans ?_
        rw [result_takeLong]
  . exact .refl _

theorem takeRuns_perm (m : Merging α) : (m.takeRuns d).2.result.Perm m.result := by
  unfold takeRuns
  dsimp only
  split
  . exact takeRun_perm d _ m
  . exact (takeRun_perm d _ _).trans (takeRun_perm d _ m)

/-- Both ways of taking items go on with each other, so the induction is on their common fuel. -/
theorem single_runs_perm (fuel : Nat)
    : (∀ patience lastLong streak (m : Merging α),
          (single d fuel patience lastLong streak m).1.result.Perm m.result)
        ∧ ∀ patience (m : Merging α), (runs d fuel patience m).1.result.Perm m.result := by
  induction fuel with
  | zero =>
    refine ⟨?_, ?_⟩
    . intro patience lastLong streak m
      unfold single
      exact .refl _
    . intro patience m
      unfold runs
      exact .refl _
  | succ fuel ih =>
    refine ⟨?_, ?_⟩
    . intro patience lastLong streak m
      unfold single
      dsimp only
      generalize (if (m.takeOne d).1 == lastLong then streak + 1 else 1) = streak
      split
      . exact takeOne_perm d m
      . split
        . exact (ih.2 _ _).trans (takeOne_perm d m)
        . exact (ih.1 _ _ _ _).trans (takeOne_perm d m)
    . intro patience m
      unfold runs
      dsimp only
      split
      . exact takeRuns_perm d m
      . split
        . exact (ih.2 _ _).trans (takeRuns_perm d m)
        . exact (ih.1 _ _ _ _).trans (takeRuns_perm d m)

theorem run_perm (patience : Nat) (m : Merging α) : (run d patience m).1.Perm m.result := by
  unfold run
  dsimp only
  split
  . rw [result_takeLong]
  . refine ((single_runs_perm d _).1 _ _ _ _).trans ?_
    rw [result_takeLong]

end Merging

variable (lt : α → α → Bool)

theorem mergeCores_perm (patience : Nat) (xs ys : List α)
    : (mergeCores lt patience xs ys).1.Perm (xs ++ ys) := by
  unfold mergeCores
  split
  . refine (Merging.run_perm _ _ _).trans ?_
    exact List.perm_append_comm
  . refine (List.reverse_perm _).trans ((Merging.run_perm _ _ _).trans ?_)
    exact (List.reverse_perm xs).append (List.reverse_perm ys)

theorem merge_perm (patience : Nat) (xs ys : List α)
    : (merge lt patience xs ys).1.Perm (xs ++ ys) := by
  unfold merge
  split
  . rw [List.append_nil]
  . dsimp only
    split
    . exact .refl _
    . split
      . exact .refl _
      . next y ys _ x _ _ =>
        generalize gallop (fun x => !lt y x) 0 xs = front
        generalize (y :: ys).length - gallop (fun y => !lt y x) 1 (y :: ys).reverse = moved
        have hcores := mergeCores_perm lt patience (xs.drop front) ((y :: ys).take moved)
        generalize (mergeCores lt patience (xs.drop front) ((y :: ys).take moved)).1 = zs at hcores
        refine (((hcores.append_left (xs.take front)).append_right ((y :: ys).drop moved)).trans ?_)
        rw [← List.append_assoc, List.take_append_drop, List.append_assoc, List.take_append_drop]

def itemsOf (runs : List (Run α)) : List α := runs.flatMap (·.items)

theorem merge_parts_perm {patience patience' : Nat} {first second : Run α} {items : List α}
    (h : merge lt patience second.items first.items = (items, patience')) (depth : Nat)
    (rest : List (Run α))
    : (itemsOf (⟨items, depth⟩ :: rest)).Perm (itemsOf (first :: second :: rest)) := by
  have hitems := merge_perm lt patience second.items first.items
  rw [h] at hitems
  unfold itemsOf
  rw [List.flatMap_cons, List.flatMap_cons, List.flatMap_cons, ← List.append_assoc]
  exact (hitems.trans List.perm_append_comm).append_right _

theorem settle_perm (depth : Nat) (runs : List (Run α)) (patience : Nat)
    : (itemsOf (settle lt depth runs patience).runs).Perm (itemsOf runs) := by
  induction runs, patience using settle.induct lt depth with
  | case1 patience last previous rest hdepth items patience' hmerge ih =>
    unfold settle
    rw [if_pos hdepth, hmerge]
    exact ih.trans (merge_parts_perm lt hmerge previous.depth rest)
  | case2 patience last previous rest hdepth =>
    unfold settle
    rw [if_neg hdepth]
    exact .refl _
  | case3 patience last =>
    unfold settle
    exact .refl _
  | case4 patience =>
    unfold settle
    exact .refl _

theorem push_perm (total : Nat) (items : List α) (s : Sorting α)
    : (itemsOf (s.push lt total items).runs).Perm (items ++ itemsOf s.runs) := by
  unfold Sorting.push
  split
  . next hruns =>
    rw [hruns]
    exact .refl _
  . exact (settle_perm lt _ s.runs s.patience).append_left items

theorem divide_perm (total : Nat) (s : Sorting α) (fuel : Nat) (xs : List α)
    (h : xs.length ≤ fuel)
    : (itemsOf (Sorting.divide lt total s fuel xs).runs).Perm (itemsOf s.runs ++ xs) := by
  induction fuel generalizing s xs with
  | zero =>
    have hnil := List.length_eq_zero_iff.1 (Nat.le_zero.1 h)
    subst hnil
    unfold Sorting.divide
    rw [List.append_nil]
  | succ fuel ih =>
    cases xs with
    | nil =>
      unfold Sorting.divide
      rw [List.append_nil]
    | cons x xs =>
      unfold Sorting.divide
      dsimp only
      have hlength := length_filledRun_lt lt (leastRun total) (List.cons_ne_nil x xs)
      have hperm := filledRun_perm lt (leastRun total) (x :: xs)
      generalize filledRun lt (leastRun total) (x :: xs) = filled at hlength hperm ⊢
      refine (ih _ filled.2 (by omega)).trans ?_
      refine ((push_perm lt total filled.1 s).append_right filled.2).trans ?_
      refine (List.perm_append_comm.append_right filled.2).trans ?_
      rw [List.append_assoc]
      exact hperm.append_left (itemsOf s.runs)

theorem collapse_perm (runs : List (Run α)) (patience : Nat)
    : (collapse lt runs patience).Perm (itemsOf runs) := by
  induction runs, patience using collapse.induct lt with
  | case1 patience =>
    unfold collapse
    exact .refl _
  | case2 patience run =>
    unfold collapse itemsOf
    rw [List.flatMap_singleton]
  | case3 patience last previous =>
    unfold collapse itemsOf
    rw [List.flatMap_cons, List.flatMap_singleton]
    exact (merge_perm lt patience previous.items last.items).trans List.perm_append_comm
  | case4 patience last previous before rest hlength items patience' hmerge ih =>
    unfold collapse
    rw [if_pos hlength, hmerge]
    exact ih.trans ((merge_parts_perm lt hmerge before.depth rest).append_left last.items)
  | case5 patience last previous before rest hlength items patience' hmerge ih =>
    unfold collapse
    rw [if_neg hlength, hmerge]
    exact ih.trans (merge_parts_perm lt hmerge previous.depth (before :: rest))

theorem sort_perm (xs : List α) : (sort lt xs).Perm xs := by
  unfold sort
  refine (collapse_perm lt _ _).trans ?_
  exact divide_perm lt xs.length {} xs.length xs (Nat.le_refl _)

end RankFusion.Order
