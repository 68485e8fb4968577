import RankFusion.Proofs.Number.Scalar

/-!
This module contains when two data are the same key. Numbers are if they have one place on the
number line, whatever their kind, so being the same key is an equivalence.
-/

namespace RankFusion

namespace Value

/--
What tells a possible key from others. All kinds of NaN are one key.
-/
inductive KeyPart where
  | null
  | number (place : Option (WithBot (WithTop ℚ)))
  | text (s : String)
  | bytes (bs : List UInt8)

def placeOf (x : Binary) : Option (WithBot (WithTop ℚ)) := if x.isNaN then none else some x.extended

def keyPart? : Value → Option KeyPart
  | .null => some .null
  | .text s => some (.text s)
  | .bytes bs => some (.bytes bs)
  | v => v.number?.map fun x => .number (placeOf x)

variable {v w : Value} {x y : Binary} {a b : KeyPart}

theorem equal_of_number? (hv : v.number? = some x) (hw : w.number? = some y)
    : v.equal w = x.eq y := by
  cases v <;> cases w <;> simp_all [equal, number?]

theorem isNaN_of_number? (hv : v.number? = some x) : v.isNaN = x.isNaN := by
  cases v with
  | real y =>
    cases hv
    rfl
  | bool b =>
    cases hv
    cases b <;> rfl
  | int n =>
    cases hv
    unfold isNaN
    dsimp only
    split <;> rfl
  | _ => cases hv

theorem sameKey_of_number? (hv : v.number? = some x) (hw : w.number? = some y)
    : v.sameKey w = true ↔ placeOf x = placeOf y := by
  unfold sameKey placeOf
  rw [equal_of_number? hv hw, isNaN_of_number? hv, isNaN_of_number? hw, Bool.or_eq_true,
    Bool.and_eq_true, Binary.eq_iff]
  cases x.isNaN <;> cases y.isNaN <;> simp

theorem sameKey_number_iff (hv : v.number? = some x) (hw : w.keyPart? = some b)
    : v.sameKey w = true ↔ KeyPart.number (placeOf x) = b := by
  cases hy : w.number? with
  | some y =>
    have hpart : w.keyPart? = some (.number (placeOf y)) := by
      cases w <;> cases hy <;> rfl
    rw [hpart] at hw
    cases hw
    rw [sameKey_of_number? hv hy, KeyPart.number.injEq]
  | none =>
    have hunequal : v.equal w = false := by
      cases v <;> cases hv <;> cases w <;> cases hy <;> simp [equal, number?]
    have hnumber : ∀ place, KeyPart.number place ≠ b := by
      intro place heq
      cases w <;> cases hy <;> cases hw <;> cases heq
    have hnan : w.isNaN = false := by
      cases w <;> cases hy <;> rfl
    simp [sameKey, hunequal, hnumber, hnan]

theorem sameKey_iff (hv : v.keyPart? = some a) (hw : w.keyPart? = some b)
    : v.sameKey w = true ↔ a = b := by
  cases hx : v.number? with
  | some x =>
    rw [sameKey_number_iff hx hw]
    cases v <;> cases hx <;> cases hv <;> rfl
  | none =>
    cases v with
    | null =>
      cases hv
      cases w <;> cases hw <;> simp [sameKey, equal, isNaN, number?]
    | text s =>
      cases hv
      cases w <;> cases hw <;> simp [sameKey, equal, isNaN, number?]
    | bytes bs =>
      cases hv
      cases w <;> cases hw <;> simp [sameKey, equal, isNaN, number?]
    | bool b => cases hx
    | int n => cases hx
    | real y => cases hx
    | _ => cases hv

structure IsKey (v : Value) : Prop where
  possible : v.notKey? = none
  same : v.sameKey v = true

theorem IsKey.exists_keyPart (h : v.IsKey) : ∃ a, v.keyPart? = some a := by
  obtain ⟨hpossible, hsame⟩ := h
  cases v with
  | list vs => cases hpossible
  | dict es => cases hpossible
  | other kind => simp [sameKey, equal, isNaN, number?] at hsame
  | _ => exact ⟨_, rfl⟩

theorem IsKey.symm (hv : v.IsKey) (hw : w.IsKey) (h : v.sameKey w = true)
    : w.sameKey v = true := by
  obtain ⟨a, ha⟩ := hv.exists_keyPart
  obtain ⟨b, hb⟩ := hw.exists_keyPart
  rw [sameKey_iff ha hb] at h
  rw [sameKey_iff hb ha, h]

theorem IsKey.trans {u : Value} (hu : u.IsKey) (hv : v.IsKey) (hw : w.IsKey)
    (huv : u.sameKey v = true) (hvw : v.sameKey w = true)
    : u.sameKey w = true := by
  obtain ⟨a, ha⟩ := hu.exists_keyPart
  obtain ⟨b, hb⟩ := hv.exists_keyPart
  obtain ⟨c, hc⟩ := hw.exists_keyPart
  rw [sameKey_iff ha hb] at huv
  rw [sameKey_iff hb hc] at hvw
  rw [sameKey_iff ha hc, huv, hvw]

theorem IsKey.comm (hv : v.IsKey) (hw : w.IsKey) : v.sameKey w = w.sameKey v := by
  rw [Bool.eq_iff_iff]
  exact ⟨hv.symm hw, hw.symm hv⟩

theorem IsKey.congr {u : Value} (hu : u.IsKey) (hv : v.IsKey) (hw : w.IsKey)
    (h : u.sameKey v = true)
    : u.sameKey w = v.sameKey w := by
  rw [Bool.eq_iff_iff]
  exact ⟨hv.trans hu hw (hu.symm hv h), hu.trans hv hw h⟩

end Value

end RankFusion
