import RankFusion.Proofs.Batch.Acceptance

/-!
This module contains the rows of a merge as entries: items with the identifier of their row. The
entries of the first side are all kept, and those of the second side if they bring a new identifier.
Joining entries this way is associative.
-/

namespace RankFusion

variable {α : Type} {seen other : List Int} {es fs gs : List (Option Int × α)}

def unseen (seen : List Int) : List (Option Int × α) → List (Option Int × α)
  | [] => []
  | (none, _) :: es => unseen seen es
  | (some x, a) :: es => if x ∈ seen then unseen seen es else (some x, a) :: unseen (x :: seen) es

def identifiers (es : List (Option Int × α)) : List Int := es.filterMap (·.1)

def joinEntries (es fs : List (Option Int × α)) : List (Option Int × α) :=
  es ++ unseen (identifiers es) fs

theorem unseen_nil : unseen seen ([] : List (Option Int × α)) = [] := rfl

theorem unseen_some {x : Int} {a : α}
    : unseen seen ((some x, a) :: es) =
        if x ∈ seen then unseen seen es else (some x, a) :: unseen (x :: seen) es := rfl

theorem identifiers_append : identifiers (es ++ fs) = identifiers es ++ identifiers fs :=
  List.filterMap_append

theorem unseen_congr (h : ∀ x, x ∈ seen ↔ x ∈ other) : unseen seen es = unseen other es := by
  induction es generalizing seen other with
  | nil => rfl
  | cons e es ih =>
    obtain ⟨_ | x, a⟩ := e
    . exact ih h
    . have hcons : ∀ y, y ∈ x :: seen ↔ y ∈ x :: other := by
        intro y
        rw [List.mem_cons, List.mem_cons, h]
      simp only [unseen_some, h x, ih h, ih hcons]

theorem mem_identifiers_unseen {x : Int}
    : x ∈ identifiers (unseen seen es) ↔ x ∈ identifiers es ∧ x ∉ seen := by
  induction es generalizing seen with
  | nil => simp [unseen_nil, identifiers]
  | cons e es ih =>
    obtain ⟨_ | y, a⟩ := e
    . exact ih
    . have hhead : identifiers ((some y, a) :: es) = y :: identifiers es := rfl
      rw [unseen_some, hhead]
      split
      . next hseen =>
        rw [ih, List.mem_cons]
        constructor
        . rintro ⟨hx, hnew⟩
          exact ⟨.inr hx, hnew⟩
        . rintro ⟨rfl | hx, hnew⟩
          . exact absurd hseen hnew
          . exact ⟨hx, hnew⟩
      . next hseen =>
        have hhead : identifiers ((some y, a) :: unseen (y :: seen) es) =
            y :: identifiers (unseen (y :: seen) es) := rfl
        rw [hhead, List.mem_cons, List.mem_cons, ih, List.mem_cons]
        by_cases hxy : x = y
        . subst hxy
          simp [hseen]
        . simp [hxy]

theorem nodup_identifiers_unseen : (identifiers (unseen seen es)).Nodup := by
  induction es generalizing seen with
  | nil => exact .nil
  | cons e es ih =>
    obtain ⟨_ | x, a⟩ := e
    . exact ih
    . rw [unseen_some]
      split
      . exact ih
      . have hnew : x ∉ identifiers (unseen (x :: seen) es) := by
          rw [mem_identifiers_unseen]
          simp
        exact List.nodup_cons.2 ⟨hnew, ih⟩

theorem unseen_append
    : unseen seen (es ++ fs) = unseen seen es ++ unseen (seen ++ identifiers es) fs := by
  induction es generalizing seen with
  | nil => simp [unseen_nil, identifiers]
  | cons e es ih =>
    obtain ⟨_ | x, a⟩ := e
    . exact ih
    . have hhead : identifiers ((some x, a) :: es) = x :: identifiers es := rfl
      rw [List.cons_append, unseen_some, unseen_some, ih, ih, hhead]
      split
      . next hseen =>
        congr 1
        apply unseen_congr
        intro y
        simp only [List.mem_append, List.mem_cons]
        grind
      . rw [List.cons_append]
        congr 2
        apply unseen_congr
        intro y
        simp only [List.mem_append, List.mem_cons]
        grind

theorem unseen_unseen (h : ∀ x ∈ seen, x ∈ other)
    : unseen other (unseen seen es) = unseen other es := by
  induction es generalizing seen other with
  | nil => rfl
  | cons e es ih =>
    obtain ⟨_ | x, a⟩ := e
    . exact ih h
    . rw [unseen_some, unseen_some]
      split
      . next hseen =>
        rw [if_pos (h x hseen)]
        exact ih h
      . rw [unseen_some]
        split
        . next hother =>
          apply ih
          intro y hy
          cases List.mem_cons.1 hy with
          | inl heq => exact heq ▸ hother
          | inr hy => exact h y hy
        . congr 1
          apply ih
          intro y hy
          rw [List.mem_cons] at hy ⊢
          exact hy.imp_right (h y)

theorem unseen_eq_nil (h : ∀ x ∈ identifiers es, x ∈ seen) : unseen seen es = [] := by
  induction es with
  | nil => rfl
  | cons e es ih =>
    obtain ⟨_ | x, a⟩ := e
    . exact ih h
    . have hhead : identifiers ((some x, a) :: es) = x :: identifiers es := rfl
      rw [hhead, List.forall_mem_cons] at h
      rw [unseen_some, if_pos h.1]
      exact ih h.2

theorem joinEntries_eq_self (h : ∀ x ∈ identifiers fs, x ∈ identifiers es)
    : joinEntries es fs = es := by
  unfold joinEntries
  rw [unseen_eq_nil h, List.append_nil]

theorem joinEntries_assoc
    : joinEntries (joinEntries es fs) gs = joinEntries es (joinEntries fs gs) := by
  have hseen : unseen (identifiers (es ++ unseen (identifiers es) fs)) gs =
      unseen (identifiers es ++ identifiers fs) gs := by
    apply unseen_congr
    intro x
    rw [identifiers_append, List.mem_append, List.mem_append, mem_identifiers_unseen]
    by_cases hx : x ∈ identifiers es
    . simp [hx]
    . simp [hx]
  have hscan : unseen (identifiers es ++ identifiers fs) (unseen (identifiers fs) gs) =
      unseen (identifiers es ++ identifiers fs) gs := by
    apply unseen_unseen
    intro x hx
    exact List.mem_append_right _ hx
  unfold joinEntries
  rw [hseen, unseen_append, hscan, List.append_assoc]

theorem unseen_eq_map_go {start : Nat} {f : Nat → Option Int × α}
    (hf : ∀ n e, es[n]? = some e → f (start + n) = e)
    : unseen seen es = (unseenPositions.go seen start (es.map (·.1))).map f := by
  induction es generalizing seen start with
  | nil => rfl
  | cons e es ih =>
    have htail : ∀ n e', es[n]? = some e' → f (start + 1 + n) = e' := by
      intro n e' he'
      rw [Nat.add_right_comm]
      exact hf (n + 1) e' he'
    have hhead : f start = e := hf 0 e rfl
    obtain ⟨_ | x, a⟩ := e
    . exact ih htail
    . rw [unseen_some, List.map_cons, unseenPositions.go]
      split
      . exact ih htail
      . rw [List.map_cons, hhead, ih htail]

theorem unseen_eq_map {f : Nat → Option Int × α} (hf : ∀ n e, es[n]? = some e → f n = e)
    : unseen seen es = (unseenPositions seen (es.map (·.1))).map f := by
  apply unseen_eq_map_go
  intro n e he
  rw [Nat.zero_add]
  exact hf n e he

end RankFusion
