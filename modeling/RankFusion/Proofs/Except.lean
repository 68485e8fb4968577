import Mathlib.Data.List.Forall2

/-!
This module contains the inversion of computations that may fail: what holds of the parts of a
computation that returned, and what the failures of a computation have in common if those of its
parts do.
-/

variable {ε α β γ : Type}

namespace Except

theorem bind_eq_ok_iff {x : Except ε α} {f : α → Except ε β} {b : β}
    : x >>= f = .ok b ↔ ∃ a, x = .ok a ∧ f a = .ok b := by
  cases x with
  | error e => simp [bind, Except.bind]
  | ok a => simp [bind, Except.bind]

theorem bind_unit_eq_ok_iff {x : Except ε PUnit} {f : PUnit → Except ε β} {b : β}
    : x >>= f = .ok b ↔ x = .ok () ∧ f () = .ok b := by
  cases x with
  | error e => simp [bind, Except.bind]
  | ok a => simp [bind, Except.bind]

theorem ok_bind {a : α} {f : α → Except ε β} : (.ok a : Except ε α) >>= f = f a := rfl

theorem bind_eq_error_iff {x : Except ε α} {f : α → Except ε β} {e : ε}
    : x >>= f = .error e ↔ x = .error e ∨ ∃ a, x = .ok a ∧ f a = .error e := by
  cases x with
  | error e => simp [bind, Except.bind]
  | ok a => simp [bind, Except.bind]

theorem pure_eq_ok_iff {a b : α} : (pure a : Except ε α) = .ok b ↔ a = b := by
  simp [pure, Except.pure]

theorem mapError_eq_ok_iff {x : Except ε α} {f : ε → β} {a : α}
    : x.mapError f = .ok a ↔ x = .ok a := by
  cases x with
  | error e => simp [Except.mapError]
  | ok b => simp [Except.mapError]

theorem bind_congr_of_ok {x : Except ε α} {f g : α → Except ε β}
    (h : ∀ a, x = .ok a → f a = g a)
    : x >>= f = x >>= g := by
  cases x with
  | error e => rfl
  | ok a => exact h a rfl

theorem throw_ne_ok {e : ε} {a : α} : (throw e : Except ε α) ≠ .ok a := by
  simp [throw, throwThe, MonadExceptOf.throw]

def Fails (P : ε → Prop) (x : Except ε α) : Prop := ∀ e, x = .error e → P e

namespace Fails

variable {P Q : ε → Prop} {x : Except ε α}

theorem ok (a : α) : Fails P (.ok a : Except ε α) := fun _ h => (by cases h)

theorem error {e : ε} (h : P e) : Fails P (.error e : Except ε α) := by
  rintro _ ⟨⟩
  exact h

theorem imp (h : Fails P x) (hPQ : ∀ e, P e → Q e) : Fails Q x := fun e he => hPQ e (h e he)

theorem bind {f : α → Except ε β} (hx : Fails P x) (hf : ∀ a, x = .ok a → Fails P (f a))
    : Fails P (x >>= f) := by
  intro e h
  cases x with
  | error e' =>
    cases h
    exact hx _ rfl
  | ok a => exact hf a rfl e h

theorem bind_ok {f : α → Except ε β} {a : α} (hx : x = .ok a) (hf : Fails P (f a))
    : Fails P (x >>= f) := by
  rw [hx]
  exact hf

theorem map {f : α → β} (hx : Fails P x) : Fails P (x.map f) := by
  intro e h
  cases x with
  | error e' =>
    cases h
    exact hx _ rfl
  | ok a => cases h

theorem mapError {ε' : Type} {P : ε' → Prop} {f : ε → ε'} (h : ∀ e, x = .error e → P (f e))
    : Fails P (x.mapError f) := by
  intro e he
  cases x with
  | error e' =>
    cases he
    exact h e' rfl
  | ok a => cases he

theorem mapM {f : α → Except ε β} {xs : List α} (h : ∀ a ∈ xs, Fails P (f a))
    : Fails P (xs.mapM f) := by
  induction xs with
  | nil => exact ok _
  | cons a xs ih =>
    rw [List.forall_mem_cons] at h
    rw [List.mapM_cons]
    apply bind h.1
    intro _ _
    apply bind (ih h.2)
    intro _ _
    exact ok _

theorem foldlM {f : β → α → Except ε β} {xs : List α} (h : ∀ b, ∀ a ∈ xs, Fails P (f b a)) (b : β)
    : Fails P (xs.foldlM f b) := by
  induction xs generalizing b with
  | nil => exact ok _
  | cons a xs ih =>
    rw [List.foldlM_cons]
    apply bind (h b a List.mem_cons_self)
    intro b' _
    exact ih (fun b a ha => h b a (List.mem_cons_of_mem _ ha)) b'

theorem forM {f : α → Except ε PUnit} {xs : List α} (h : ∀ a ∈ xs, Fails P (f a))
    : Fails P (xs.forM f) := by
  induction xs with
  | nil => exact ok _
  | cons a xs ih =>
    rw [List.forall_mem_cons] at h
    apply bind h.1
    intro _ _
    exact ih h.2

end Fails

end Except

namespace List

theorem mapM_eq_ok_iff {f : α → Except ε β} {xs : List α} {ys : List β}
    : xs.mapM f = .ok ys ↔ Forall₂ (fun x y => f x = .ok y) xs ys := by
  induction xs generalizing ys with
  | nil =>
    rw [mapM_nil, Except.pure_eq_ok_iff, forall₂_nil_left_iff]
    exact eq_comm
  | cons x xs ih =>
    rw [mapM_cons, forall₂_cons_left_iff]
    simp only [Except.bind_eq_ok_iff, Except.pure_eq_ok_iff, ih]
    constructor
    . rintro ⟨y, hy, rest, hrest, rfl⟩
      exact ⟨y, rest, hy, hrest, rfl⟩
    . rintro ⟨y, rest, hy, hrest, rfl⟩
      exact ⟨y, hy, rest, hrest, rfl⟩

theorem mapM_congr_of_mem {f g : α → Except ε β} {xs : List α} (h : ∀ x ∈ xs, f x = g x)
    : xs.mapM f = xs.mapM g := by
  induction xs with
  | nil => rfl
  | cons x xs ih =>
    rw [forall_mem_cons] at h
    rw [mapM_cons, mapM_cons, h.1, ih h.2]

theorem mapM_map_eq_ok {f : α → Except ε β} {g : γ → α} {k : γ → β} {zs : List γ}
    (h : ∀ z ∈ zs, f (g z) = .ok (k z))
    : (zs.map g).mapM f = .ok (zs.map k) := by
  rw [mapM_eq_ok_iff, forall₂_map_left_iff, forall₂_map_right_iff, forall₂_same]
  exact h

theorem mapM_eq_map_mapM {f : α → Except ε γ} {g : α → Except ε β} {k : β → γ} {xs : List α}
    (h : ∀ x ∈ xs, f x = k <$> g x)
    : xs.mapM f = map k <$> xs.mapM g := by
  induction xs with
  | nil => rfl
  | cons x xs ih =>
    rw [forall_mem_cons] at h
    rw [mapM_cons, mapM_cons, h.1, ih h.2, map_bind, bind_map_left]
    apply Except.bind_congr_of_ok
    intro y _
    rw [map_bind, bind_map_left]
    rfl

theorem exists_mapM_iff {f : α → Except ε β} {xs : List α}
    : (∃ ys, xs.mapM f = .ok ys) ↔ ∀ x ∈ xs, ∃ y, f x = .ok y := by
  simp only [mapM_eq_ok_iff]
  induction xs with
  | nil => simp
  | cons x xs ih =>
    simp only [forall₂_cons_left_iff, forall_mem_cons, ← ih]
    constructor
    . rintro ⟨_, y, ys, hy, hys, _⟩
      exact ⟨⟨y, hy⟩, ys, hys⟩
    . rintro ⟨⟨y, hy⟩, ys, hys⟩
      exact ⟨_, y, ys, hy, hys, rfl⟩

theorem forM_eq_ok_iff {f : α → Except ε PUnit} {xs : List α}
    : xs.forM f = .ok () ↔ ∀ x ∈ xs, f x = .ok () := by
  induction xs with
  | nil => simp [pure, Except.pure]
  | cons x xs ih =>
    rw [List.forM, Except.bind_unit_eq_ok_iff, forall_mem_cons, ih]

theorem foldlM_eq_self {f : β → α → Except ε β} {xs : List α} {b : β}
    (h : ∀ x ∈ xs, f b x = .ok b)
    : xs.foldlM f b = .ok b := by
  induction xs with
  | nil => rfl
  | cons x xs ih =>
    rw [forall_mem_cons] at h
    rw [foldlM_cons, h.1]
    exact ih h.2

theorem foldlM_keeps {P : β → Prop} {f : β → α → Except ε β} {xs : List α} {b b' : β}
    (hstep : ∀ x ∈ xs, ∀ b b', P b → f b x = .ok b' → P b') (hb : P b)
    (h : xs.foldlM f b = .ok b')
    : P b' := by
  induction xs generalizing b with
  | nil =>
    cases h
    exact hb
  | cons x xs ih =>
    rw [forall_mem_cons] at hstep
    rw [foldlM_cons] at h
    obtain ⟨next, hnext, h⟩ := Except.bind_eq_ok_iff.1 h
    exact ih hstep.2 (hstep.1 b next hb hnext) h

variable {R : α → β → Prop} {xs : List α} {ys : List β}

theorem exists_left_of_forall₂ (h : Forall₂ R xs ys) {y : β} (hy : y ∈ ys)
    : ∃ x ∈ xs, R x y := by
  induction h with
  | nil => cases hy
  | cons hxy _ ih =>
    cases hy with
    | head => exact ⟨_, mem_cons_self, hxy⟩
    | tail _ hy =>
      obtain ⟨x, hx, hxy⟩ := ih hy
      exact ⟨x, mem_cons_of_mem _ hx, hxy⟩

theorem exists_right_of_forall₂ (h : Forall₂ R xs ys) {x : α} (hx : x ∈ xs)
    : ∃ y ∈ ys, R x y :=
  exists_left_of_forall₂ h.flip hx

theorem map_eq_map_of_forall₂ {f : α → γ} {g : β → γ} (h : Forall₂ R xs ys)
    (hfg : ∀ x y, R x y → f x = g y)
    : xs.map f = ys.map g := by
  induction h with
  | nil => rfl
  | cons hxy _ ih => rw [map_cons, map_cons, hfg _ _ hxy, ih]

end List
