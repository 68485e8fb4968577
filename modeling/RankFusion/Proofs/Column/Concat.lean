import RankFusion.Column.Basic
import RankFusion.Proofs.Except

/-!
This module contains the joining of two columns. It returns exactly if the field's type can be
merged, the two sides agree on it once a side without values has adopted it, and all positions are
inside their column. The cells are then those at the positions, those of the first side first.
-/

namespace RankFusion

theorem Field.ensureSupported_eq_ok_iff {f : Field}
    : f.ensureSupported = .ok () ↔ f.type.isSupported := by
  unfold Field.ensureSupported
  split
  . next h => simp [h]
  . next h => simp [h]

namespace Cells

variable {c first second : Cells}

/--
A cell of a column. A column without values has absent cells only.
-/
def cell (c : Cells) (i : Nat) : Value := if c.type = .null then .null else c.values.getD i .null

theorem cell_of_type_ne_null (h : c.type ≠ .null) (i : Nat)
    : c.cell i = c.values.getD i .null := by
  unfold cell
  rw [if_neg h]

theorem map_cell_range (h : c.type ≠ .null)
    : (List.range c.values.length).map c.cell = c.values := by
  apply List.ext_getElem
  . simp
  . intro i _ hi
    simp [cell_of_type_ne_null h, hi]

theorem values_gather (positions : List Nat)
    : (c.gather positions).values = positions.map fun i => c.values.getD i .null := rfl

theorem getD_values_adopt (t : ColumnType) (i : Nat)
    : (c.adopt t).values.getD i .null = c.cell i := by
  unfold adopt cell
  split
  . next h =>
    rw [List.getD_eq_getElem?_getD, List.getElem?_replicate]
    split <;> rfl
  . rfl

theorem values_gather_adopt (t : ColumnType) (positions : List Nat)
    : ((c.adopt t).gather positions).values = positions.map c.cell := by
  rw [values_gather]
  simp only [getD_values_adopt]

theorem positions?_ofNat (size : Nat) (ns : List Nat)
    : positions? size (ns.map Int.ofNat) = if ∀ n ∈ ns, n < size then some ns else none := by
  unfold positions?
  have hmap : (ns.map Int.ofNat).map Int.toNat = ns := by
    rw [List.map_map]
    exact List.map_id' ns
  rw [hmap]
  simp

theorem take_eq_ok_iff {ns : List Nat} {d : Cells}
    : c.take (ns.map Int.ofNat) = .ok d ↔ (∀ n ∈ ns, n < c.size) ∧ c.gather ns = d := by
  unfold take
  rw [positions?_ofNat]
  split
  . next positions h =>
    split at h
    . next hall =>
      cases h
      rw [Except.ok.injEq]
      exact (and_iff_right hall).symm
    . cases h
  . next h =>
    split at h
    . cases h
    . next hall => simp [hall]

theorem align_eq_ok_iff {f : Field} {p : Cells × Cells}
    : align f first second = .ok p
        ↔
      f.type.isSupported
        ∧ (second.adopt f.type).type = (first.adopt f.type).type
        ∧ (first.adopt f.type, second.adopt f.type) = p := by
  unfold align
  rw [Except.bind_eq_ok_iff]
  constructor
  . rintro ⟨_, hsupported, h⟩
    dsimp only at h
    split at h
    . exact absurd h Except.throw_ne_ok
    . next heq =>
      exact ⟨Field.ensureSupported_eq_ok_iff.1 hsupported, not_not.1 heq,
        Except.pure_eq_ok_iff.1 h⟩
  . rintro ⟨hsupported, heq, rfl⟩
    refine ⟨(), Field.ensureSupported_eq_ok_iff.2 hsupported, ?_⟩
    dsimp only
    rw [if_neg (not_not.2 heq)]
    rfl

theorem concat_eq_ok_iff {f : Field} {ns ms : List Nat} {d : Cells}
    : concat f first (ns.map Int.ofNat) second (ms.map Int.ofNat) = .ok d
        ↔
      f.type.isSupported
        ∧ (second.adopt f.type).type = (first.adopt f.type).type
        ∧ (∀ n ∈ ns, n < first.size)
        ∧ (∀ m ∈ ms, m < second.size)
        ∧ ⟨(first.adopt f.type).type, ns.map first.cell ++ ms.map second.cell⟩ = d := by
  unfold concat
  simp only [Except.bind_eq_ok_iff, align_eq_ok_iff, take_eq_ok_iff, Except.pure_eq_ok_iff]
  constructor
  . rintro ⟨_, ⟨hsupported, heq, rfl⟩, _, ⟨hns, rfl⟩, _, ⟨hms, rfl⟩, rfl⟩
    rw [size_adopt] at hns hms
    refine ⟨hsupported, heq, hns, hms, ?_⟩
    simp only [append, values_gather_adopt]
    rfl
  . rintro ⟨hsupported, heq, hns, hms, rfl⟩
    rw [← size_adopt first f.type] at hns
    rw [← size_adopt second f.type] at hms
    refine ⟨_, ⟨hsupported, heq, rfl⟩, _, ⟨hns, rfl⟩, _, ⟨hms, rfl⟩, ?_⟩
    simp only [append, values_gather_adopt]
    rfl

end Cells

end RankFusion
