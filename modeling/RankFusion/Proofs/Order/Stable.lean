import RankFusion.Proofs.Order.Merge

/-!
This module contains that sorting orders, and that it is stable: the outcome is in the order that
the comparisons of the items with those before them tell.
-/

namespace RankFusion.Order

variable {α : Type} {R : α → α → Prop} {lt : α → α → Bool} {xs ys : List α} [IsStrictOrder α R]

variable {runs : List (Run α)}

/--
Whether sorted parts of a list, the last one first, are in order, and the comparisons of their items
with those of the parts before tell the order.
-/
def Stacked (lt : α → α → Bool) (R : α → α → Prop) : List (Run α) → Prop
  | [] => True
  | r :: runs =>
    r.items.Pairwise R ∧ Across lt R (itemsOf runs) r.items ∧ Stacked lt R runs

omit [IsStrictOrder α R] in
theorem Across.perm {xs' : List α} (hperm : xs'.Perm xs) (h : Across lt R xs ys)
    : Across lt R xs' ys :=
  fun x hx => h x (hperm.mem_iff.1 hx)

theorem Stacked.merge_parts {patience patience' : Nat} {first second : Run α} {items : List α}
    (h : Stacked lt R (first :: second :: runs))
    (hmerge : merge lt patience second.items first.items = (items, patience')) (depth : Nat)
    : Stacked lt R (⟨items, depth⟩ :: runs) := by
  obtain ⟨hfirst, hacross, hsecond, hacross', hrest⟩ := h
  have hitems := pairwise_merge hsecond hfirst
    (fun x hx => hacross x (List.mem_append_left _ hx)) patience
  have hperm := merge_perm lt patience second.items first.items
  rw [hmerge] at hitems hperm
  refine ⟨hitems, ?_, hrest⟩
  intro x hx y hy
  cases List.mem_append.1 (hperm.mem_iff.1 hy) with
  | inl hy => exact hacross' x hx y hy
  | inr hy => exact hacross x (List.mem_append_right _ hx) y hy

theorem stacked_settle (depth : Nat) (patience : Nat) (h : Stacked lt R runs)
    : Stacked lt R (settle lt depth runs patience).runs := by
  induction runs, patience using settle.induct lt depth with
  | case1 patience last previous rest hdepth items patience' hmerge ih =>
    unfold settle
    rw [if_pos hdepth, hmerge]
    exact ih (h.merge_parts hmerge previous.depth)
  | case2 patience last previous rest hdepth =>
    unfold settle
    rw [if_neg hdepth]
    exact h
  | case3 patience last =>
    unfold settle
    exact h
  | case4 patience =>
    unfold settle
    exact h

theorem stacked_push {s : Sorting α} (total : Nat) (hs : Stacked lt R s.runs)
    (hxs : xs.Pairwise R) (h : Across lt R (itemsOf s.runs) xs)
    : Stacked lt R (s.push lt total xs).runs := by
  unfold Sorting.push
  split
  . exact ⟨hxs, nofun, trivial⟩
  . dsimp only
    exact ⟨hxs, h.perm (settle_perm lt _ s.runs s.patience), stacked_settle _ s.patience hs⟩

theorem pairwise_collapse (patience : Nat) (h : Stacked lt R runs)
    : (collapse lt runs patience).Pairwise R := by
  induction runs, patience using collapse.induct lt with
  | case1 patience =>
    unfold collapse
    exact .nil
  | case2 patience run =>
    unfold collapse
    exact h.1
  | case3 patience last previous =>
    unfold collapse
    exact pairwise_merge h.2.2.1 h.1 (fun x hx => h.2.1 x (List.mem_append_left _ hx)) patience
  | case4 patience last previous before rest hlength items patience' hmerge ih =>
    unfold collapse
    rw [if_pos hlength, hmerge]
    exact ih ⟨h.1, h.2.1.perm (merge_parts_perm lt hmerge before.depth rest),
      h.2.2.merge_parts hmerge before.depth⟩
  | case5 patience last previous before rest hlength items patience' hmerge ih =>
    unfold collapse
    rw [if_neg hlength, hmerge]
    exact ih (h.merge_parts hmerge previous.depth)

omit [IsStrictOrder α R] in
theorem exists_firstRun_append (lt : α → α → Bool) (xs : List α)
    : ∃ start : List α, (firstRun lt xs).1.Perm start ∧ start ++ (firstRun lt xs).2 = xs := by
  unfold firstRun
  split
  . next x y rest =>
    dsimp only
    have happend := splitRun_append (fun a b => lt a b == lt y x) x (y :: rest)
    generalize splitRun (fun a b => lt a b == lt y x) x (y :: rest) = split at happend ⊢
    refine ⟨x :: split.1, ?_, congrArg (x :: ·) happend⟩
    split
    . exact List.reverse_perm _
    . exact .refl _
  . exact ⟨xs, .refl xs, List.append_nil xs⟩

theorem pairwise_filledRun (least : Nat) (hxs : Told lt R xs)
    : (filledRun lt least xs).1.Pairwise R
        ∧ ∃ start : List α, (filledRun lt least xs).1.Perm start
            ∧ start ++ (filledRun lt least xs).2 = xs := by
  have hrun := pairwise_firstRun hxs
  obtain ⟨start, hperm, happend⟩ := exists_firstRun_append lt xs
  unfold filledRun
  dsimp only
  generalize firstRun lt xs = first at hrun hperm happend
  generalize least - first.1.length = missing
  unfold Told at hxs
  rw [← happend, ← List.take_append_drop missing first.2, ← List.append_assoc,
    List.pairwise_append, List.pairwise_append] at hxs
  refine ⟨?_, start ++ first.2.take missing, ?_, ?_⟩
  . apply pairwise_foldl_insert hrun hxs.1.2.1
    intro a ha b hb
    exact hxs.1.2.2 a (hperm.mem_iff.1 ha) b hb
  . exact (foldl_insert_perm lt _ _).trans (hperm.append_right _)
  . rw [List.append_assoc, List.take_append_drop, happend]

theorem stacked_divide {s : Sorting α} (total fuel : Nat) (hs : Stacked lt R s.runs)
    (hxs : Told lt R xs) (h : Across lt R (itemsOf s.runs) xs)
    : Stacked lt R (Sorting.divide lt total s fuel xs).runs := by
  induction fuel generalizing s xs with
  | zero =>
    unfold Sorting.divide
    cases xs with
    | nil => exact hs
    | cons x xs => exact hs
  | succ fuel ih =>
    cases xs with
    | nil =>
      unfold Sorting.divide
      exact hs
    | cons x xs =>
      obtain ⟨hrun, start, hperm, happend⟩ := pairwise_filledRun (leastRun total) hxs
      unfold Sorting.divide
      dsimp only
      generalize filledRun lt (leastRun total) (x :: xs) = filled at hrun hperm happend
      rw [← happend] at h
      unfold Told at hxs
      rw [← happend, List.pairwise_append] at hxs
      have hstart : Across lt R (itemsOf s.runs) filled.1 :=
        fun a ha b hb => h a ha b (List.mem_append_left _ (hperm.mem_iff.1 hb))
      apply ih (stacked_push total hs hrun hstart) hxs.2.1
      intro a ha b hb
      cases List.mem_append.1 ((push_perm lt total filled.1 s).mem_iff.1 ha) with
      | inl ha => exact hxs.2.2 a (hperm.mem_iff.1 ha) b hb
      | inr ha => exact h a ha b (List.mem_append_right _ hb)

theorem pairwise_sort (hxs : Told lt R xs) : (sort lt xs).Pairwise R := by
  unfold sort
  dsimp only
  exact pairwise_collapse _ (stacked_divide xs.length xs.length trivial hxs nofun)

end RankFusion.Order
