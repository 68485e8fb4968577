import RankFusion.Proofs.Batch.Sort
import RankFusion.Proofs.Column.Admission
import RankFusion.Proofs.Number.Scalar
import RankFusion.Proofs.Text.Bytes

/-!
This module contains the order of the cells of a column in a descending sort. Greater cells come
first, then NaN, then absent cells. The cells that a type admits are all comparable, and the sort
compares them that way.
-/

namespace RankFusion

namespace Value

/--
Whether an ordinary cell is less than another one of its column: numbers by value, texts by their
bytes, and false before true.
-/
inductive Below : Value → Value → Prop where
  | bool : Below (.bool false) (.bool true)
  | int {m n : Int} (h : m < n) : Below (.int m) (.int n)
  | real {x y : Binary} (hx : x.isNaN = false) (hy : y.isNaN = false)
      (h : x.extended < y.extended) : Below (.real x) (.real y)
  | text {s t : String} (h : utf8Bytes s < utf8Bytes t) : Below (.text s) (.text t)

/--
Whether a cell is better than another one of its column: it is greater, or the other is NaN and it
is not, or the other is absent and it is not.
-/
inductive Outranks : Value → Value → Prop where
  | greater {v w : Value} (h : w.Below v) : Outranks v w
  | ordinary {v w : Value} (hv : KeyClass.ofValue v = .ordinary)
      (hw : KeyClass.ofValue w = .nan) : Outranks v w
  | present {v : Value} (h : v ≠ .null) : Outranks v .null

/--
Whether two cells are equally good: they are the same, equal numbers, or both NaN.
-/
inductive Ties : Value → Value → Prop where
  | same (v : Value) : Ties v v
  | real {x y : Binary} (hx : x.isNaN = false) (hy : y.isNaN = false)
      (h : x.extended = y.extended) : Ties (.real x) (.real y)
  | nan {v w : Value} (hv : KeyClass.ofValue v = .nan) (hw : KeyClass.ofValue w = .nan) : Ties v w

variable {t : ColumnType} {u v w : Value}

theorem descends_null (v : Value) : v.descends .null = true := by
  unfold descends KeyClass.ofValue
  cases v with
  | real x => cases h : x.isNaN <;> simp [h, KeyClass.place]
  | _ => rfl

theorem null_descends_iff : Value.null.descends v = true ↔ v = .null := by
  cases v with
  | real x => cases h : x.isNaN <;> simp [descends, KeyClass.ofValue, h, KeyClass.place]
  | _ => simp [descends, KeyClass.ofValue, KeyClass.place]

theorem descends_bool_iff {a b : Bool}
    : (Value.bool a).descends (.bool b) = true ↔ b ≤ a := by
  cases a <;> cases b <;> decide

theorem descends_int_iff {m n : Int} : (Value.int m).descends (.int n) = true ↔ n ≤ m := by
  rw [← decide_eq_true_iff (p := n ≤ m), ← Scalar.le_exact_int]
  rfl

theorem orderText_ne_lt_iff {s t : String} : (orderText s t != .lt) = true ↔ t ≤ s := by
  unfold orderText
  rw [← not_lt]
  split
  . next h => simp [h]
  . next h =>
    split
    . simp [h]
    . simp [h]

theorem descends_text_iff {s t : String} : (Value.text s).descends (.text t) = true ↔ t ≤ s :=
  orderText_ne_lt_iff

theorem kinds_of_admits (hv : t.Admits v) (hw : t.Admits w) (hv' : v ≠ .null) (hw' : w ≠ .null)
    : (∃ a b, v = .bool a ∧ w = .bool b)
        ∨ (∃ m n, v = .int m ∧ w = .int n)
        ∨ (∃ x y, v = .real x ∧ w = .real y)
        ∨ ∃ s s', v = .text s ∧ w = .text s' := by
  cases hv with
  | absent => exact absurd rfl hv'
  | bool a =>
    cases hw with
    | absent => exact absurd rfl hw'
    | bool b => exact .inl ⟨a, b, rfl, rfl⟩
  | integer _ _ m =>
    cases hw with
    | absent => exact absurd rfl hw'
    | integer _ _ n => exact .inr (.inl ⟨m, n, rfl, rfl⟩)
  | real _ x =>
    cases hw with
    | absent => exact absurd rfl hw'
    | real _ y => exact .inr (.inr (.inl ⟨x, y, rfl, rfl⟩))
  | text s =>
    cases hw with
    | absent => exact absurd rfl hw'
    | text s' => exact .inr (.inr (.inr ⟨s, s', rfl, rfl⟩))

inductive Compared (v w : Value) : Prop where
  | better (h : v.Outranks w) (hvw : v.descends w = true) (hwv : w.descends v = false)
  | equal (h : v.Ties w) (hvw : v.descends w = true) (hwv : w.descends v = true)
  | worse (h : w.Outranks v) (hvw : v.descends w = false) (hwv : w.descends v = true)

theorem compared_of_le_iff {α : Type} [LinearOrder α] {f : α → Value}
    (hle : ∀ a b, (f a).descends (f b) = true ↔ b ≤ a) (hlt : ∀ a b, a < b → (f a).Below (f b))
    (a b : α)
    : Compared (f a) (f b) := by
  obtain h | rfl | h := lt_trichotomy a b
  . exact .worse (.greater (hlt a b h)) (Bool.eq_false_iff.2 fun h' => h.not_ge ((hle a b).1 h'))
      ((hle b a).2 h.le)
  . exact .equal (.same _) ((hle a a).2 le_rfl) ((hle a a).2 le_rfl)
  . exact .better (.greater (hlt b a h)) ((hle a b).2 h.le)
      (Bool.eq_false_iff.2 fun h' => h.not_ge ((hle b a).1 h'))

theorem descends_real_of_isNaN {x y : Binary} (hx : x.isNaN = false) (hy : y.isNaN = false)
    : (Value.real x).descends (.real y) = true ↔ y.extended ≤ x.extended := by
  simp [Binary.descends_real_iff, Binary.le_iff, hx, hy]

theorem compared_real (x y : Binary) : Compared (.real x) (.real y) := by
  have hordinary {x y : Binary} (hx : x.isNaN = false) (hy : y.isNaN = true) :
      (Value.real x).Outranks (.real y) :=
    .ordinary (by simp [KeyClass.ofValue, hx]) (by simp [KeyClass.ofValue, hy])
  cases hx : x.isNaN with
  | true =>
    cases hy : y.isNaN with
    | true =>
      exact .equal (.nan (by simp [KeyClass.ofValue, hx]) (by simp [KeyClass.ofValue, hy]))
        (Binary.descends_real_iff.2 (.inl hy)) (Binary.descends_real_iff.2 (.inl hx))
    | false =>
      refine .worse (hordinary hy hx) ?_ (Binary.descends_real_iff.2 (.inl hx))
      simp [Bool.eq_false_iff, Binary.descends_real_iff, hx, hy]
  | false =>
    cases hy : y.isNaN with
    | true =>
      refine .better (hordinary hx hy) (Binary.descends_real_iff.2 (.inl hy)) ?_
      simp [Bool.eq_false_iff, Binary.descends_real_iff, hx, hy]
    | false =>
      have hxy := descends_real_of_isNaN hx hy
      have hyx := descends_real_of_isNaN hy hx
      obtain h | h | h := lt_trichotomy x.extended y.extended
      . exact .worse (.greater (.real hx hy h)) (Bool.eq_false_iff.2 fun h' => h.not_ge (hxy.1 h'))
          (hyx.2 h.le)
      . exact .equal (.real hx hy h) (hxy.2 h.ge) (hyx.2 h.le)
      . exact .better (.greater (.real hy hx h)) (hxy.2 h.le)
          (Bool.eq_false_iff.2 fun h' => h.not_ge (hyx.1 h'))

theorem compared_of_admits (hv : t.Admits v) (hw : t.Admits w) : Compared v w := by
  by_cases hv' : v = .null
  . subst hv'
    by_cases hw' : w = .null
    . subst hw'
      exact .equal (.same _) rfl rfl
    . exact .worse (.present hw') (Bool.eq_false_iff.2 fun h => hw' (null_descends_iff.1 h))
        (descends_null w)
  . by_cases hw' : w = .null
    . subst hw'
      exact .better (.present hv') (descends_null v)
        (Bool.eq_false_iff.2 fun h => hv' (null_descends_iff.1 h))
    . obtain ⟨a, b, rfl, rfl⟩ | ⟨m, n, rfl, rfl⟩ | ⟨x, y, rfl, rfl⟩ | ⟨s, s', rfl, rfl⟩ :=
        kinds_of_admits hv hw hv' hw'
      . refine compared_of_le_iff (fun _ _ => descends_bool_iff) ?_ a b
        rintro (_ | _) (_ | _) h
        . cases h
        . exact .bool
        . cases h
        . cases h
      . exact compared_of_le_iff (fun _ _ => descends_int_iff) (fun _ _ => .int) m n
      . exact compared_real x y
      . exact compared_of_le_iff (fun _ _ => descends_text_iff)
          (fun _ _ h => .text (utf8Bytes_lt_iff.2 h)) s s'

theorem descends_trans (hu : t.Admits u) (hv : t.Admits v) (hw : t.Admits w)
    (huv : u.descends v = true) (hvw : v.descends w = true)
    : u.descends w = true := by
  by_cases hw' : w = .null
  . rw [hw']
    exact descends_null u
  . have hv' : v ≠ .null := by
      rintro rfl
      exact hw' (null_descends_iff.1 hvw)
    have hu' : u ≠ .null := by
      rintro rfl
      exact hv' (null_descends_iff.1 huv)
    obtain ⟨a, b, rfl, rfl⟩ | ⟨m, n, rfl, rfl⟩ | ⟨x, y, rfl, rfl⟩ | ⟨s, s', rfl, rfl⟩ :=
      kinds_of_admits hu hv hu' hv'
    . cases hv
      cases hw with
      | absent => exact absurd rfl hw'
      | bool c =>
        rw [descends_bool_iff] at huv hvw ⊢
        exact hvw.trans huv
    . cases hv
      cases hw with
      | absent => exact absurd rfl hw'
      | integer _ _ k =>
        rw [descends_int_iff] at huv hvw ⊢
        exact hvw.trans huv
    . cases hv
      cases hw with
      | absent => exact absurd rfl hw'
      | real _ z => exact Binary.descends_real_trans x y z huv hvw
    . cases hv
      cases hw with
      | absent => exact absurd rfl hw'
      | text s'' =>
        rw [descends_text_iff] at huv hvw ⊢
        exact hvw.trans huv

theorem descends_total (hv : t.Admits v) (hw : t.Admits w)
    : (v.descends w || w.descends v) = true := by
  rw [Bool.or_eq_true]
  cases compared_of_admits hv hw with
  | better _ hvw _ => exact .inl hvw
  | equal _ hvw _ => exact .inl hvw
  | worse _ _ hwv => exact .inr hwv

theorem outranks_or_ties {P : Prop} (hv : t.Admits v) (hw : t.Admits w)
    (h : v.descends w = true) (htie : w.descends v = true → P)
    : v.Outranks w ∨ (v.Ties w ∧ P) := by
  cases compared_of_admits hv hw with
  | better houtranks _ _ => exact .inl houtranks
  | equal hties _ hwv => exact .inr ⟨hties, htie hwv⟩
  | worse _ hvw _ =>
    rw [h] at hvw
    cases hvw

end Value

end RankFusion
