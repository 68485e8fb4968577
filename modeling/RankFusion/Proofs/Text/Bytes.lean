import Mathlib.Data.List.Lex
import Mathlib.Data.String.Basic

/-!
This module contains the order of texts. Texts are compared by the code points of their characters,
and that is how their bytes in UTF-8 compare.
-/

namespace RankFusion

def utf8Bytes (s : String) : List UInt8 := s.toUTF8.data.toList

theorem utf8Bytes_eq (s : String) : utf8Bytes s = s.toList.flatMap String.utf8EncodeChar := by
  conv => lhs; rw [← String.ofList_toList (s := s)]
  unfold utf8Bytes String.toUTF8
  rw [String.toByteArray_ofList, List.utf8Encode, List.data_toByteArray]

theorem ofNat_cons_lt_iff {x y : Nat} {xs ys : List UInt8} (hx : x < 256) (hy : y < 256)
    : UInt8.ofNat x :: xs < UInt8.ofNat y :: ys ↔ x < y ∨ x = y ∧ xs < ys := by
  rw [List.cons_lt_cons_iff, UInt8.lt_iff_toNat_lt, ← UInt8.toNat_inj, UInt8.toNat_ofNat',
    UInt8.toNat_ofNat', Nat.mod_eq_of_lt hx, Nat.mod_eq_of_lt hy]

theorem lt_or_digit_lt {x y : Nat} (h : x < y)
    : x / 64 < y / 64 ∨ x / 64 = y / 64 ∧ x % 64 < y % 64 := by
  omega

theorem utf8EncodeChar_append_lt {c d : Char} (h : c < d) (xs ys : List UInt8)
    : String.utf8EncodeChar c ++ xs < String.utf8EncodeChar d ++ ys := by
  have hlt : c.val.toNat < d.val.toNat := by
    rwa [Char.lt_def, UInt32.lt_iff_toNat_lt] at h
  have hd : d.val.toNat < 0x110000 := by
    have := d.valid
    unfold UInt32.isValidChar Nat.isValidChar at this
    omega
  unfold String.utf8EncodeChar
  dsimp only
  generalize c.val.toNat = x at *
  generalize d.val.toNat = y at *
  split_ifs
  all_goals simp (disch := omega) only [List.cons_append, List.nil_append, ofNat_cons_lt_iff]
  any_goals omega
  -- Of four bytes each, the first that differ are those of the first digits that differ.
  have hx : x / 4096 = x / 64 / 64 ∧ x / 262144 = x / 64 / 64 / 64 := by omega
  have hy : y / 4096 = y / 64 / 64 ∧ y / 262144 = y / 64 / 64 / 64 := by omega
  rw [hx.1, hx.2, hy.1, hy.2]
  obtain h | h := lt_or_digit_lt hlt
  . obtain h | h := lt_or_digit_lt h
    . obtain h | h := lt_or_digit_lt h
      . omega
      . omega
    . omega
  . omega

theorem flatMap_utf8EncodeChar_lt {cs ds : List Char} (h : cs < ds)
    : cs.flatMap String.utf8EncodeChar < ds.flatMap String.utf8EncodeChar := by
  induction h with
  | @nil d ds =>
    rw [List.flatMap_nil, List.flatMap_cons]
    cases hbytes : String.utf8EncodeChar d with
    | nil => exact absurd hbytes String.utf8EncodeChar_ne_nil
    | cons b bs => exact .nil
  | rel h => exact utf8EncodeChar_append_lt h _ _
  | cons h ih => exact List.append_left_lt ih

theorem utf8Bytes_lt_iff {s t : String} : utf8Bytes s < utf8Bytes t ↔ s < t := by
  rw [utf8Bytes_eq, utf8Bytes_eq]
  constructor
  . intro h
    obtain hlt | heq | hgt := lt_trichotomy s t
    . exact hlt
    . rw [heq] at h
      exact absurd h (List.lt_irrefl _)
    . exact absurd h (List.lt_asymm (flatMap_utf8EncodeChar_lt (String.lt_iff_toList_lt.1 hgt)))
  . intro h
    exact flatMap_utf8EncodeChar_lt (String.lt_iff_toList_lt.1 h)

end RankFusion
