import RankFusion.Proofs.Number.Arithmetic
import RankFusion.Proofs.Number.Scalar
import RankFusion.Validation.Reader

/-!
This module contains what readers of typed values accept. A value within bounds obeys them, each
reader takes the data that show a value back to that value, and it says what is wrong with all data
that it refuses.
-/

namespace RankFusion

namespace Checked

variable {α β : Type} {x : Checked α} {a : α} {b : β}

theorem map_eq_valid_iff {f : α → β} : x.map f = .valid b ↔ ∃ a, x = .valid a ∧ f a = b := by
  cases x with
  | valid a => simp [map]
  | invalid is => simp [map]

theorem bind_eq_valid_iff {f : α → Checked β}
    : x.bind f = .valid b ↔ ∃ a, x = .valid a ∧ f a = .valid b := by
  cases x with
  | valid a => simp [bind]
  | invalid is => simp [bind]

theorem under_eq_valid_iff {part : PathPart} : x.under part = .valid a ↔ x = .valid a := by
  cases x with
  | valid b => simp [under]
  | invalid is => simp [under]

theorem require_eq_valid_iff {holds : Bool} {kind : IssueKind} {a' : α}
    : require holds kind a = .valid a' ↔ holds = true ∧ a = a' := by
  unfold require
  split
  . next h => simp [h]
  . next h => simp [h, fail]

section Reported

variable {γ : Type}

def Reported (x : Checked α) : Prop := x ≠ .invalid []

theorem Reported.map (h : x.Reported) (f : α → β) : (x.map f).Reported := by
  cases x with
  | valid a => nofun
  | invalid is =>
    rintro ⟨⟩
    exact h rfl

theorem Reported.bind {f : α → Checked β} (h : x.Reported) (hf : ∀ a, (f a).Reported)
    : (x.bind f).Reported := by
  cases x with
  | valid a => exact hf a
  | invalid is =>
    rintro ⟨⟩
    exact h rfl

theorem Reported.under (h : x.Reported) (part : PathPart) : (x.under part).Reported := by
  cases x with
  | valid a => nofun
  | invalid is =>
    intro hunder
    rw [Checked.under, invalid.injEq, List.map_eq_nil_iff] at hunder
    exact h (hunder ▸ rfl)

theorem Reported.both {y : Checked β} {f : α → β → γ} (hx : x.Reported) (hy : y.Reported)
    : (both f x y).Reported := by
  unfold Checked.both
  split
  . nofun
  . next hvalid =>
    intro h
    rw [invalid.injEq, List.append_eq_nil_iff] at h
    cases x with
    | invalid is => exact hx (congrArg invalid h.1)
    | valid a =>
      cases y with
      | invalid is => exact hy (congrArg invalid h.2)
      | valid b => exact hvalid a b rfl rfl

theorem reported_require {holds : Bool} {kind : IssueKind} {a : α}
    : (require holds kind a).Reported := by
  unfold require
  split
  . nofun
  . nofun

end Reported

end Checked

namespace Bounds

variable {x : Binary}

theorem positive_broken?_iff : positive.broken? x = none ↔ Binary.zero.lt x = true := by
  simp [broken?, positive]

theorem nonNegative_broken?_iff : nonNegative.broken? x = none ↔ Binary.zero.le x = true := by
  simp [broken?, nonNegative]

theorem unit_broken?_iff : unit.broken? x = none ↔ x.InUnit := by
  have hunit : unit.broken? x = none ↔ Binary.one.lt x = false ∧ Binary.zero.le x = true := by
    cases hone : Binary.one.lt x with
    | true => simp [broken?, unit, hone]
    | false => simp [broken?, unit, hone]
  rw [hunit, Binary.InUnit]
  constructor
  . rintro ⟨hone, hzero⟩
    refine ⟨hzero, ?_⟩
    have hx : x.isNaN = false := (Binary.le_iff.1 hzero).2.1
    cases Binary.le_total (x := x) (y := .one) hx rfl with
    | inl hle => exact hle
    | inr hge =>
      unfold Binary.lt at hone
      rw [hge] at hone
      simpa using hone
  . rintro ⟨hzero, hone⟩
    refine ⟨?_, hzero⟩
    unfold Binary.lt
    rw [hone]
    simp

theorem positive_broken?_int_iff {n : Int}
    : positive.broken? (Scalar.int n).exact = none ↔ 0 < n := by
  have hzero := Scalar.lt_exact_int 0 n
  rw [positive_broken?_iff]
  exact (Bool.eq_iff_iff.1 hzero).trans decide_eq_true_iff

theorem nonNegative_broken?_int_iff {n : Int}
    : nonNegative.broken? (Scalar.int n).exact = none ↔ 0 ≤ n := by
  have hzero := Scalar.le_exact_int 0 n
  rw [nonNegative_broken?_iff]
  exact (Bool.eq_iff_iff.1 hzero).trans decide_eq_true_iff

end Bounds

namespace Reader

variable {α : Type} {r : Reader α} {v : Value} {b : Bounds}

theorem boundedReal_eq_valid_iff {x : Binary}
    : boundedReal b v = .valid x ↔ real v = .valid x ∧ b.broken? x = none := by
  unfold boundedReal
  rw [Checked.bind_eq_valid_iff]
  constructor
  . rintro ⟨y, hy, h⟩
    split at h
    . cases h
    . next hb =>
      cases h
      exact ⟨hy, hb⟩
  . rintro ⟨hx, hb⟩
    refine ⟨x, hx, ?_⟩
    rw [hb]

theorem boundedInteger_eq_valid_iff {n : Int}
    : boundedInteger b v = .valid n
        ↔
      integer v = .valid n ∧ b.broken? (Scalar.int n).exact = none := by
  unfold boundedInteger
  rw [Checked.bind_eq_valid_iff]
  constructor
  . rintro ⟨m, hm, h⟩
    split at h
    . cases h
    . next hb =>
      cases h
      exact ⟨hm, hb⟩
  . rintro ⟨hn, hb⟩
    refine ⟨n, hn, ?_⟩
    rw [hb]

theorem pos_of_boundedReal {x : Binary} (h : boundedReal .positive v = .valid x)
    : Binary.zero.lt x = true :=
  Bounds.positive_broken?_iff.1 (boundedReal_eq_valid_iff.1 h).2

theorem pos_of_boundedInteger {n : Int} (h : boundedInteger .positive v = .valid n) : 0 < n :=
  Bounds.positive_broken?_int_iff.1 (boundedInteger_eq_valid_iff.1 h).2

theorem mem_of_optional {o : Option α} (h : optional r v = .valid o) {x : α} (hx : x ∈ o)
    : r v = .valid x := by
  unfold optional at h
  split at h
  . cases h
    cases hx
  . obtain ⟨y, hy, rfl⟩ := Checked.map_eq_valid_iff.1 h
    cases hx
    exact hy

theorem length_of_listAtLeast {least : Nat} {xs : List α} (h : listAtLeast least r v = .valid xs)
    : least ≤ xs.length := by
  obtain ⟨ys, _, h⟩ := Checked.bind_eq_valid_iff.1 h
  obtain ⟨hlength, rfl⟩ := Checked.require_eq_valid_iff.1 h
  exact of_decide_eq_true hlength

theorem length_of_items {position : Nat} {vs : List Value} {xs : List α}
    (h : items r position vs = .valid xs)
    : xs.length = vs.length := by
  induction vs generalizing position xs with
  | nil =>
    cases h
    rfl
  | cons v vs ih =>
    unfold items Checked.both at h
    split at h
    . next x ys hx hys =>
      cases h
      rw [List.length_cons, List.length_cons, ih hys]
    . cases h

theorem length_of_listOfLength {length : Nat} {xs : List α}
    (h : listOfLength length r v = .valid xs)
    : xs.length = length := by
  unfold listOfLength at h
  split at h
  . next vs =>
    split at h
    . cases h
    . next hlong =>
      obtain ⟨ys, hys, h⟩ := Checked.bind_eq_valid_iff.1 h
      obtain ⟨hshort, rfl⟩ := Checked.require_eq_valid_iff.1 h
      have hlength := length_of_items hys
      have := of_decide_eq_true hshort
      omega
  . cases h

section Shown

variable {shown : α → Value}

theorem text_text (s : String) : text (.text s) = .valid s := rfl

theorem real_real (x : Binary) : real (.real x) = .valid x := rfl

theorem integer_int (n : Int) : integer (.int n) = .valid n := rfl

theorem boundedReal_real {x : Binary} (h : b.broken? x = none)
    : boundedReal b (.real x) = .valid x :=
  boundedReal_eq_valid_iff.2 ⟨real_real x, h⟩

theorem boundedInteger_int {n : Int} (h : b.broken? (Scalar.int n).exact = none)
    : boundedInteger b (.int n) = .valid n :=
  boundedInteger_eq_valid_iff.2 ⟨integer_int n, h⟩

theorem truth_bool (b : Bool) : truth (.bool b) = .valid b := rfl

theorem member_text {ofName? : String → Option α} {name : String} {x : α}
    (h : ofName? name = some x)
    : member ofName? (.text name) = .valid x := by
  have hdecoded : decoded (.text name) = .text name := rfl
  unfold member
  rw [hdecoded]
  dsimp only
  rw [h]

theorem items_map {position : Nat} {xs : List α} (h : ∀ x ∈ xs, r (shown x) = .valid x)
    : items r position (xs.map shown) = .valid xs := by
  induction xs generalizing position with
  | nil => rfl
  | cons x xs ih =>
    rw [List.forall_mem_cons] at h
    rw [List.map_cons, items, h.1, ih h.2]
    rfl

theorem list_map {xs : List α} (h : ∀ x ∈ xs, r (shown x) = .valid x)
    : list r (.list (xs.map shown)) = .valid xs := items_map h

theorem listAtLeast_map {least : Nat} {xs : List α} (h : ∀ x ∈ xs, r (shown x) = .valid x)
    (hlength : least ≤ xs.length)
    : listAtLeast least r (.list (xs.map shown)) = .valid xs := by
  unfold listAtLeast
  rw [list_map h]
  exact Checked.require_eq_valid_iff.2 ⟨decide_eq_true hlength, rfl⟩

theorem listOfLength_map {length : Nat} {xs : List α} (h : ∀ x ∈ xs, r (shown x) = .valid x)
    (hlength : xs.length = length)
    : listOfLength length r (.list (xs.map shown)) = .valid xs := by
  unfold listOfLength
  dsimp only
  rw [List.length_map, if_neg (by omega), items_map h]
  exact Checked.require_eq_valid_iff.2 ⟨decide_eq_true hlength.ge, rfl⟩

theorem entries_map {es : List (String × α)} (h : ∀ e ∈ es, r (shown e.2) = .valid e.2)
    : entries r (es.map fun e => (e.1, shown e.2)) = .valid es := by
  induction es with
  | nil => rfl
  | cons e es ih =>
    rw [List.forall_mem_cons] at h
    rw [List.map_cons, entries, h.1, ih h.2]
    rfl

theorem optional_some {x : α} (hnull : v ≠ .null) (h : r v = .valid x)
    : optional r v = .valid (some x) := by
  unfold optional
  split
  . exact absurd rfl hnull
  . rw [h]
    rfl

end Shown

section Reports

def Reports (r : Reader α) : Prop := ∀ v, (r v).Reported

theorem reported_wellFormed {s : String} {x : Checked α} (h : x.Reported)
    : (wellFormed s x).Reported := by
  unfold wellFormed
  split
  . exact h
  . nofun

theorem reports_text : text.Reports := by
  intro v
  unfold text
  split
  all_goals nofun

theorem reports_real : real.Reports := by
  intro v
  unfold real
  split
  . apply reported_wellFormed
    split
    . nofun
    . nofun
  . nofun
  . split
    . split
      . nofun
      . nofun
    . nofun

theorem reported_wholeReal (x : Binary) : (wholeReal x).Reported := by
  unfold wholeReal
  split
  . nofun
  . split
    . nofun
    . split
      . exact Checked.reported_require
      . nofun

theorem reports_integer : integer.Reports := by
  intro v
  unfold integer
  split
  . nofun
  . nofun
  . exact reported_wholeReal _
  . apply reported_wellFormed
    split
    . nofun
    . nofun
    . nofun
  . nofun
  . nofun

theorem reported_truthOfInt (n : Int) : (truthOfInt n).Reported := by
  unfold truthOfInt
  split
  . nofun
  . split
    . nofun
    . nofun

theorem reported_truthOfWord (s : String) : (truthOfWord s).Reported := by
  unfold truthOfWord
  dsimp only
  split
  . nofun
  . split
    . nofun
    . nofun

theorem reports_truth : truth.Reports := by
  intro v
  unfold truth
  split
  . nofun
  . split
    . exact reported_truthOfInt _
    . nofun
  . split
    . exact reported_truthOfInt _
    . nofun
  . exact reported_wellFormed (reported_truthOfWord _)
  . nofun
  . nofun

theorem reports_member (ofName? : String → Option α) : (member ofName?).Reports := by
  intro v
  unfold member
  split
  . split
    . nofun
    . nofun
  . nofun

theorem Reports.optional (h : r.Reports) : (optional r).Reports := by
  intro v
  unfold Reader.optional
  split
  . nofun
  . exact (h v).map some

theorem reports_boundedReal (b : Bounds) : (boundedReal b).Reports := by
  intro v
  apply (reports_real v).bind
  intro x
  split
  . nofun
  . nofun

theorem reports_boundedInteger (b : Bounds) : (boundedInteger b).Reports := by
  intro v
  apply (reports_integer v).bind
  intro x
  split
  . nofun
  . nofun

theorem Reports.items (h : r.Reports) (position : Nat) (vs : List Value)
    : (items r position vs).Reported := by
  induction vs generalizing position with
  | nil => nofun
  | cons v vs ih => exact ((h v).under _).both (ih (position + 1))

theorem Reports.list (h : r.Reports) : (list r).Reports := by
  intro v
  unfold Reader.list
  split
  . exact h.items 0 _
  . nofun

theorem Reports.listAtLeast (h : r.Reports) (least : Nat) : (listAtLeast least r).Reports :=
  fun v => (h.list v).bind fun _ => Checked.reported_require

theorem Reports.listOfLength (h : r.Reports) (length : Nat) : (listOfLength length r).Reports := by
  intro v
  unfold Reader.listOfLength
  split
  . split
    . nofun
    . exact (h.items 0 _).bind fun _ => Checked.reported_require
  . nofun

theorem Reports.entries (h : r.Reports) (es : List (String × Value))
    : (entries r es).Reported := by
  induction es with
  | nil => nofun
  | cons e es ih => exact ((h e.2).under _).both ih

theorem Reports.dict (h : r.Reports) : (dict r).Reports := by
  intro v
  unfold Reader.dict
  split
  . exact h.entries _
  . nofun

end Reports

end Reader

end RankFusion
