import RankFusion.Proofs.Order.Insertion

/-!
This module contains that merging keeps to an order. Two lists in order, of which the comparisons
tell how their items stand to each other, are merged into one in order, whatever the patience.
-/

namespace RankFusion.Order

variable {α : Type} {R : α → α → Prop} {lt : α → α → Bool} {xs ys : List α} {x y : α}
  [IsStrictOrder α R]

namespace Merging

variable {d : Direction α} {m : Merging α} {count : Nat}

/--
Whether the items taken so far are in order and come before all that are left, those left of each
list are in order, and the last one of the shorter list is the last of all.
-/
structure Ordered (d : Direction α) (R : α → α → Prop) (m : Merging α) : Prop where
  short : (m.taken.reverse ++ m.short).Pairwise R
  long : (m.taken.reverse ++ m.long).Pairwise R
  tells : ∀ x ∈ m.short, ∀ y ∈ m.long, Tells (d.longFirst x y) R x y
  last : ∀ y ∈ m.long, ∃ x ∈ m.short.getLast?, R y x

def left (m : Merging α) : Nat := m.short.length + m.long.length

omit [IsStrictOrder α R] in
theorem Ordered.pairwise_result (h : m.Ordered d R) (hover : m.isOver = true)
    : m.result.Pairwise R := by
  have hlong := h.long
  have hshort := h.short
  unfold isOver at hover
  unfold result
  rw [Bool.or_eq_true, List.isEmpty_iff, decide_eq_true_eq] at hover
  rw [List.pairwise_append] at hshort ⊢
  refine ⟨hlong, hshort.2.1, ?_⟩
  intro a ha x hx
  cases List.mem_append.1 ha with
  | inl ha => exact hshort.2.2 a ha x hx
  | inr ha =>
    -- An item of the longer list is left, so there is one left of the shorter list, the last.
    obtain hnil | hlength := hover
    . rw [hnil] at ha
      cases ha
    . obtain ⟨z, hz, haz⟩ := h.last a ha
      obtain ⟨w, hw⟩ := List.length_eq_one_iff.1
        (Nat.le_antisymm hlength (List.length_pos_of_mem hx))
      rw [hw, List.mem_singleton] at hx
      rw [hw] at hz
      cases hz
      rw [hx]
      exact haz

theorem Ordered.takeShort (h : m.Ordered d R)
    (hcount : ∀ x ∈ m.short.take count, ∀ y ∈ m.long, R x y)
    : (m.takeShort count).Ordered d R := by
  have hlong := h.long
  have hshort := h.short
  unfold Merging.takeShort
  constructor
  . dsimp only
    rwa [List.reverse_append, List.reverse_reverse, List.append_assoc, List.take_append_drop]
  . dsimp only
    rw [← List.take_append_drop count m.short, ← List.append_assoc, List.pairwise_append] at hshort
    rw [List.pairwise_append] at hlong
    rw [List.reverse_append, List.reverse_reverse, List.pairwise_append]
    refine ⟨hshort.1, hlong.2.1, ?_⟩
    intro a ha y hy
    cases List.mem_append.1 ha with
    | inl ha => exact hlong.2.2 a ha y hy
    | inr ha => exact hcount a ha y hy
  . intro x hx y hy
    exact h.tells x (List.mem_of_mem_drop hx) y hy
  . intro y hy
    obtain ⟨x, hx, hyx⟩ := h.last y hy
    refine ⟨x, ?_, hyx⟩
    have hlt : ¬ m.short.length ≤ count := by
      intro hle
      have hmem : x ∈ m.short.take count := by
        rw [List.take_of_length_le hle]
        exact List.mem_of_getLast? hx
      exact asymm_of R hyx (hcount x hmem y hy)
    dsimp only
    rwa [List.getLast?_drop, if_neg hlt]

omit [IsStrictOrder α R] in
theorem Ordered.takeLong (h : m.Ordered d R)
    (hcount : ∀ y ∈ m.long.take count, ∀ x ∈ m.short, R y x)
    : (m.takeLong count).Ordered d R := by
  have hlong := h.long
  have hshort := h.short
  unfold Merging.takeLong
  constructor
  . dsimp only
    rw [← List.take_append_drop count m.long, ← List.append_assoc, List.pairwise_append] at hlong
    rw [List.pairwise_append] at hshort
    rw [List.reverse_append, List.reverse_reverse, List.pairwise_append]
    refine ⟨hlong.1, hshort.2.1, ?_⟩
    intro a ha x hx
    cases List.mem_append.1 ha with
    | inl ha => exact hshort.2.2 a ha x hx
    | inr ha => exact hcount a ha x hx
  . dsimp only
    rwa [List.reverse_append, List.reverse_reverse, List.append_assoc, List.take_append_drop]
  . intro x hx y hy
    exact h.tells x hx y (List.mem_of_mem_drop hy)
  . intro y hy
    exact h.last y (List.mem_of_mem_drop hy)

theorem rel_of_rel_head {a : α} (hys : (y :: ys).Pairwise R) (hay : R a y)
    : ∀ b ∈ y :: ys, R a b := by
  rw [List.pairwise_cons] at hys
  rw [List.forall_mem_cons]
  exact ⟨hay, fun b hb => trans_of R hay (hys.1 b hb)⟩

omit [IsStrictOrder α R] in
theorem Ordered.pairwise_short (h : m.Ordered d R) : m.short.Pairwise R :=
  (List.pairwise_append.1 h.short).2.1

omit [IsStrictOrder α R] in
theorem Ordered.pairwise_long (h : m.Ordered d R) : m.long.Pairwise R :=
  (List.pairwise_append.1 h.long).2.1

theorem Ordered.takeShort_one (h : m.Ordered d R) (hshort : m.short = x :: xs)
    (hxy : ∀ y ∈ m.long.head?, R x y)
    : (m.takeShort 1).Ordered d R := by
  apply h.takeShort
  rw [hshort]
  intro a ha b hb
  obtain rfl : a = x := by simpa using ha
  have hlong := h.pairwise_long
  cases hcases : m.long with
  | nil =>
    rw [hcases] at hb
    cases hb
  | cons y ys =>
    rw [hcases] at hb hlong hxy
    exact rel_of_rel_head hlong (hxy y rfl) b hb

theorem Ordered.takeLong_one (h : m.Ordered d R) (hlong : m.long = y :: ys)
    (hyx : ∀ x ∈ m.short.head?, R y x)
    : (m.takeLong 1).Ordered d R := by
  apply h.takeLong
  rw [hlong]
  intro b hb a ha
  obtain rfl : b = y := by simpa using hb
  have hshort := h.pairwise_short
  cases hcases : m.short with
  | nil =>
    rw [hcases] at ha
    cases ha
  | cons x xs =>
    rw [hcases] at ha hshort hyx
    exact rel_of_rel_head hshort (hyx x rfl) a ha

theorem Ordered.takeOne (h : m.Ordered d R) : (m.takeOne d).2.Ordered d R := by
  unfold Merging.takeOne
  split
  . next x xs y ys hshort hlong =>
    have htells : Tells (d.longFirst x y) R x y := by
      apply h.tells
      . rw [hshort]
        exact List.mem_cons_self
      . rw [hlong]
        exact List.mem_cons_self
    split
    . next hfirst =>
      apply h.takeLong_one hlong
      rw [hshort]
      rintro _ ⟨⟩
      exact htells.of_true hfirst
    . next hfirst =>
      apply h.takeShort_one hshort
      rw [hlong]
      rintro _ ⟨⟩
      exact htells.of_false (by simpa using hfirst)
  . exact h

theorem Ordered.takeRun (h : m.Ordered d R) (ofShort : Bool)
    : (m.takeRun d ofShort).2.Ordered d R := by
  unfold Merging.takeRun
  split
  . next x xs y ys hshort hlong =>
    have hx : x ∈ m.short := by
      rw [hshort]
      exact List.mem_cons_self
    have hy : y ∈ m.long := by
      rw [hlong]
      exact List.mem_cons_self
    split
    . -- The run is of the shorter list, and the first item of the longer one follows it.
      have hend := endsAt_gallop d.tilt
        (parted_of_not h.pairwise_short fun x hx => h.tells x hx y hy)
      dsimp only
      generalize gallop (fun x => !d.longFirst x y) d.tilt m.short = count at hend
      have hrun : (m.takeShort count).Ordered d R := by
        apply h.takeShort
        intro a ha
        have hay : R a y := (h.tells a (List.mem_of_mem_take ha) y hy).of_false
          (by simpa using hend.of_mem_take ha)
        have hpairwise := h.pairwise_long
        rw [hlong] at hpairwise ⊢
        exact rel_of_rel_head hpairwise hay
      split
      . exact hrun
      . apply hrun.takeLong_one hlong
        intro a ha
        have ha := List.mem_of_mem_head? ha
        exact (h.tells a (List.mem_of_mem_drop ha) y hy).of_true
          (by simpa using hend.of_mem_drop ha)
    . -- The run is of the longer list, and the first item of the shorter one follows it.
      have hend := endsAt_gallop d.tilt
        (parted_of h.pairwise_long fun y hy => h.tells x hx y hy)
      dsimp only
      generalize gallop (fun y => d.longFirst x y) d.tilt m.long = count at hend
      have hrun : (m.takeLong count).Ordered d R := by
        apply h.takeLong
        intro b hb
        have hbx : R b x := (h.tells x hx b (List.mem_of_mem_take hb)).of_true
          (hend.of_mem_take hb)
        have hpairwise := h.pairwise_short
        rw [hshort] at hpairwise ⊢
        exact rel_of_rel_head hpairwise hbx
      split
      . exact hrun
      . apply hrun.takeShort_one hshort
        intro b hb
        have hb := List.mem_of_mem_head? hb
        exact (h.tells x hx b (List.mem_of_mem_drop hb)).of_false (hend.of_mem_drop hb)
  . exact h

theorem Ordered.takeRuns (h : m.Ordered d R) : (m.takeRuns d).2.Ordered d R := by
  unfold Merging.takeRuns
  dsimp only
  split
  . exact h.takeRun d.shortLeads
  . exact (h.takeRun d.shortLeads).takeRun (!d.shortLeads)

section Progress

theorem isOver_of_short_nil (h : m.short = []) : m.isOver = true := by
  unfold isOver
  simp [h]

theorem isOver_of_long_nil (h : m.long = []) : m.isOver = true := by
  unfold isOver
  simp [h]

theorem left_takeShort_le (count : Nat) : (m.takeShort count).left ≤ m.left := by
  unfold left takeShort
  dsimp only
  rw [List.length_drop]
  omega

theorem left_takeLong_le (count : Nat) : (m.takeLong count).left ≤ m.left := by
  unfold left takeLong
  dsimp only
  rw [List.length_drop]
  omega

theorem left_takeShort_one_lt (h : m.short = x :: xs) : (m.takeShort 1).left < m.left := by
  unfold left takeShort
  dsimp only
  rw [h, List.length_drop, List.length_cons]
  omega

theorem left_takeLong_one_lt (h : m.long = y :: ys) : (m.takeLong 1).left < m.left := by
  unfold left takeLong
  dsimp only
  rw [h, List.length_drop, List.length_cons]
  omega

theorem isOver_of_no_heads (h : ∀ x xs y ys, m.short = x :: xs → m.long = y :: ys → False)
    : m.isOver = true := by
  cases hshort : m.short with
  | nil => exact isOver_of_short_nil hshort
  | cons x xs =>
    cases hlong : m.long with
    | nil => exact isOver_of_long_nil hlong
    | cons y ys => exact (h x xs y ys hshort hlong).elim

theorem left_takeOne_lt (h : (m.takeOne d).2.isOver = false) : (m.takeOne d).2.left < m.left := by
  unfold takeOne at h ⊢
  split at h
  . next x xs y ys hshort hlong =>
    split
    . exact left_takeLong_one_lt hlong
    . exact left_takeShort_one_lt hshort
  . next hnone =>
    rw [isOver_of_no_heads hnone] at h
    cases h

theorem left_takeRun_lt {ofShort : Bool} (h : (m.takeRun d ofShort).2.isOver = false)
    : (m.takeRun d ofShort).2.left < m.left := by
  unfold takeRun at h ⊢
  split at h
  . next x xs y ys hshort hlong =>
    split
    . next hside =>
      rw [if_pos hside] at h
      dsimp only at h ⊢
      generalize gallop (fun x => !d.longFirst x y) d.tilt m.short = count at h ⊢
      split at h
      . next hover =>
        rw [hover] at h
        cases h
      . next hover =>
        rw [if_neg hover]
        have htaken : (m.takeShort count).long = y :: ys := hlong
        exact Nat.lt_of_lt_of_le (left_takeLong_one_lt htaken) (left_takeShort_le count)
    . next hside =>
      rw [if_neg hside] at h
      dsimp only at h ⊢
      generalize gallop (fun y => d.longFirst x y) d.tilt m.long = count at h ⊢
      split at h
      . next hover =>
        rw [hover] at h
        cases h
      . next hover =>
        rw [if_neg hover]
        have htaken : (m.takeLong count).short = x :: xs := hshort
        exact Nat.lt_of_lt_of_le (left_takeShort_one_lt htaken) (left_takeLong_le count)
  . next hnone =>
    rw [isOver_of_no_heads hnone] at h
    cases h

theorem left_takeRuns_lt (h : (m.takeRuns d).2.isOver = false)
    : (m.takeRuns d).2.left < m.left := by
  unfold takeRuns at h ⊢
  dsimp only at h ⊢
  split at h
  . next hover =>
    rw [hover] at h
    cases h
  . next hover =>
    rw [if_neg hover]
    exact Nat.lt_trans (left_takeRun_lt h) (left_takeRun_lt (Bool.eq_false_iff.2 hover))

end Progress

theorem pairwise_single_runs (fuel : Nat)
    : (∀ patience lastLong streak (m : Merging α), m.Ordered d R → m.left ≤ fuel →
          (single d fuel patience lastLong streak m).1.result.Pairwise R)
        ∧ ∀ patience (m : Merging α), m.Ordered d R → m.left ≤ fuel →
          (runs d fuel patience m).1.result.Pairwise R := by
  induction fuel with
  | zero =>
    have hover : ∀ m : Merging α, m.left ≤ 0 → m.isOver = true := by
      intro m hleft
      apply isOver_of_long_nil
      unfold left at hleft
      rw [← List.length_eq_zero_iff]
      omega
    refine ⟨?_, ?_⟩
    . intro patience lastLong streak m h hleft
      unfold single
      exact h.pairwise_result (hover m hleft)
    . intro patience m h hleft
      unfold runs
      exact h.pairwise_result (hover m hleft)
  | succ fuel ih =>
    refine ⟨?_, ?_⟩
    . intro patience lastLong streak m h hleft
      have htaken := h.takeOne
      unfold single
      dsimp only
      generalize (if (m.takeOne d).1 == lastLong then streak + 1 else 1) = streak
      split
      . next hover => exact htaken.pairwise_result hover
      . next hover =>
        have hlt := left_takeOne_lt (Bool.eq_false_iff.2 hover)
        split
        . exact ih.2 _ _ htaken (by omega)
        . exact ih.1 _ _ _ _ htaken (by omega)
    . intro patience m h hleft
      have htaken := h.takeRuns
      unfold runs
      dsimp only
      split
      . next hover => exact htaken.pairwise_result hover
      . next hover =>
        have hlt := left_takeRuns_lt (Bool.eq_false_iff.2 hover)
        split
        . exact ih.2 _ _ htaken (by omega)
        . exact ih.1 _ _ _ _ htaken (by omega)

theorem pairwise_run (h : m.Ordered d R) (hfirst : ∀ y ∈ m.long.head?, ∀ x ∈ m.short, R y x)
    (patience : Nat)
    : (run d patience m).1.Pairwise R := by
  have htaken : (m.takeLong 1).Ordered d R := by
    apply h.takeLong
    intro y hy
    apply hfirst
    cases hlong : m.long with
    | nil =>
      rw [hlong] at hy
      cases hy
    | cons z ys =>
      rw [hlong] at hy
      obtain rfl : y = z := by simpa using hy
      rfl
  unfold run
  dsimp only
  split
  . next hover => exact htaken.pairwise_result hover
  . exact (pairwise_single_runs _).1 _ _ _ _ htaken (Nat.le_refl _)

end Merging

def Across (lt : α → α → Bool) (R : α → α → Prop) (xs ys : List α) : Prop :=
  ∀ x ∈ xs, ∀ y ∈ ys, Tells (lt y x) R x y

theorem pairwise_mergeCores (hxs : xs.Pairwise R) (hys : ys.Pairwise R) (h : Across lt R xs ys)
    (hhead : ∃ y ∈ ys.head?, ∀ x ∈ xs, R y x) (hlast : ∃ x ∈ xs.getLast?, ∀ y ∈ ys, R y x)
    (patience : Nat)
    : (mergeCores lt patience xs ys).1.Pairwise R := by
  obtain ⟨y, hy, hyxs⟩ := hhead
  obtain ⟨x, hx, hysx⟩ := hlast
  unfold mergeCores
  split
  . have hordered : Merging.Ordered (.ascending lt) R ⟨xs, ys, []⟩ :=
      ⟨hxs, hys, h, fun b hb => ⟨x, hx, hysx b hb⟩⟩
    apply Merging.pairwise_run hordered
    intro b hb
    cases hy.symm.trans hb
    exact hyxs
  . dsimp only
    rw [List.pairwise_reverse]
    have hordered : Merging.Ordered (.descending lt) (Function.swap R)
        ⟨ys.reverse, xs.reverse, []⟩ := by
      refine ⟨List.pairwise_reverse.2 hys, List.pairwise_reverse.2 hxs, ?_, ?_⟩
      . intro b hb a ha
        exact h a (List.mem_reverse.1 ha) b (List.mem_reverse.1 hb)
      . intro a ha
        refine ⟨y, ?_, hyxs a (List.mem_reverse.1 ha)⟩
        rwa [List.getLast?_reverse]
    apply Merging.pairwise_run hordered
    intro a ha b hb
    dsimp only at ha
    rw [List.head?_reverse] at ha
    cases hx.symm.trans ha
    exact hysx b (List.mem_reverse.1 hb)

theorem pairwise_append_of_last (hxs : xs.Pairwise R) (hys : ys.Pairwise R)
    (hlast : ∃ x ∈ xs.getLast?, ∀ y ∈ ys, R x y)
    : (xs ++ ys).Pairwise R := by
  obtain ⟨x, hx, hxys⟩ := hlast
  obtain ⟨front, rfl⟩ := List.getLast?_eq_some_iff.1 hx
  rw [List.pairwise_append] at hxs ⊢
  refine ⟨List.pairwise_append.2 hxs, hys, ?_⟩
  intro a ha y hy
  cases List.mem_append.1 ha with
  | inl ha => exact trans_of R (hxs.2.2 a ha x (List.mem_singleton_self x)) (hxys y hy)
  | inr ha =>
    rw [List.mem_singleton.1 ha]
    exact hxys y hy

theorem order_of_gallop {y : α} (hxs : xs.Pairwise R) (h : ∀ x ∈ xs, Tells (lt y x) R x y)
    : (∀ x ∈ xs.take (gallop (fun x => !lt y x) 0 xs), R x y)
        ∧ ∀ x ∈ xs.drop (gallop (fun x => !lt y x) 0 xs), R y x := by
  have hend := endsAt_gallop 0 (parted_of_not hxs h)
  constructor
  . intro x hx
    exact (h x (List.mem_of_mem_take hx)).of_false (by simpa using hend.of_mem_take hx)
  . intro x hx
    exact (h x (List.mem_of_mem_drop hx)).of_true (by simpa using hend.of_mem_drop hx)

theorem order_of_gallop_reverse {x : α} (hys : ys.Pairwise R)
    (h : ∀ y ∈ ys, Tells (lt y x) R x y)
    : (∀ y ∈ ys.drop (ys.length - gallop (fun y => !lt y x) 1 ys.reverse), R x y)
        ∧ ∀ y ∈ ys.take (ys.length - gallop (fun y => !lt y x) 1 ys.reverse), R y x := by
  have hparted := parted_of_not (R := Function.swap R) (List.pairwise_reverse.2 hys)
    fun y hy => h y (List.mem_reverse.1 hy)
  have hend := endsAt_gallop 1 hparted
  constructor
  . intro y hy
    have htaken : y ∈ ys.reverse.take (gallop (fun y => !lt y x) 1 ys.reverse) := by
      rwa [List.take_reverse, List.mem_reverse]
    exact (h y (List.mem_of_mem_drop hy)).of_false (by simpa using hend.of_mem_take htaken)
  . intro y hy
    have hdropped : y ∈ ys.reverse.drop (gallop (fun y => !lt y x) 1 ys.reverse) := by
      rwa [List.drop_reverse, List.mem_reverse]
    exact (h y (List.mem_of_mem_take hy)).of_true (by simpa using hend.of_mem_drop hdropped)

omit [IsStrictOrder α R] in
theorem pairwise_merged {zs front back front' back' : List α} (hxs : (front ++ back).Pairwise R)
    (hys : (front' ++ back').Pairwise R) (hzs : zs.Pairwise R) (hperm : zs.Perm (back ++ front'))
    (hfront : ∀ a ∈ front, ∀ b ∈ front' ++ back', R a b) (hback : ∀ a ∈ back, ∀ b ∈ back', R a b)
    : (front ++ zs ++ back').Pairwise R := by
  rw [List.pairwise_append] at hxs hys
  rw [List.pairwise_append, List.pairwise_append]
  refine ⟨⟨hxs.1, hzs, ?_⟩, hys.2.1, ?_⟩
  . intro a ha b hb
    cases List.mem_append.1 (hperm.mem_iff.1 hb) with
    | inl hb => exact hxs.2.2 a ha b hb
    | inr hb => exact hfront a ha b (List.mem_append_left back' hb)
  . intro a ha b hb
    cases List.mem_append.1 ha with
    | inl ha => exact hfront a ha b (List.mem_append_right front' hb)
    | inr ha =>
      cases List.mem_append.1 (hperm.mem_iff.1 ha) with
      | inl ha => exact hback a ha b hb
      | inr ha => exact hys.2.2 a ha b hb

theorem pairwise_merge (hxs : xs.Pairwise R) (hys : ys.Pairwise R) (h : Across lt R xs ys)
    (patience : Nat)
    : (merge lt patience xs ys).1.Pairwise R := by
  unfold merge
  split
  . exact hxs
  . next y ys =>
    -- The items in front come before all of the second list, and stay.
    obtain ⟨hfront, hafter⟩ := order_of_gallop hxs fun x hx => h x hx y List.mem_cons_self
    dsimp only
    generalize gallop (fun x => !lt y x) 0 xs = front at hfront hafter
    have hbefore : ∀ x ∈ xs.take front, ∀ b ∈ y :: ys, R x b :=
      fun x hx => Merging.rel_of_rel_head hys (hfront x hx)
    have hsplit : (xs.take front ++ xs.drop front).Pairwise R := by
      rwa [List.take_append_drop]
    split
    . next hnone =>
      rw [List.getLast?_eq_none_iff] at hnone
      have hall : xs.take front = xs := by
        conv => rhs; rw [← List.take_append_drop front xs, hnone, List.append_nil]
      rw [hall] at hbefore
      exact List.pairwise_append.2 ⟨hxs, hys, hbefore⟩
    . next x hlast =>
      -- The items at the end come after all of the first list, and stay.
      have hmem := List.mem_of_getLast? hlast
      obtain ⟨hbehind, hmoved⟩ := order_of_gallop_reverse hys
        fun b hb => h x (List.mem_of_mem_drop hmem) b hb
      generalize (y :: ys).length - gallop (fun b => !lt b x) 1 (y :: ys).reverse = moved
        at hbehind hmoved
      rw [← List.take_append_drop moved (y :: ys)] at hys
      have hparts := List.pairwise_append.1 hsplit
      have hparts' := List.pairwise_append.1 hys
      split
      . next hzero =>
        rw [hzero] at hbehind
        exact absurd (hbehind y List.mem_cons_self) (asymm_of R (hafter x hmem))
      . next hpos =>
        apply pairwise_merged hsplit hys
        . apply pairwise_mergeCores hparts.2.1 hparts'.1
          . intro a ha b hb
            exact h a (List.mem_of_mem_drop ha) b (List.mem_of_mem_take hb)
          . exact ⟨y, by rw [List.head?_take, if_neg hpos]; rfl, hafter⟩
          . exact ⟨x, hlast, hmoved⟩
        . exact mergeCores_perm lt patience _ _
        . rwa [List.take_append_drop]
        . exact (List.pairwise_append.1
            (pairwise_append_of_last hparts.2.1 hparts'.2.1 ⟨x, hlast, hbehind⟩)).2.2

end RankFusion.Order
