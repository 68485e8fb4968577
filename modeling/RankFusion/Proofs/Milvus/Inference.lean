import RankFusion.Proofs.Milvus.Result

/-!
This module contains the columns of data that come without a type. If all data are of one scalar
type, or absent, that is the type that they show.
-/

namespace RankFusion

namespace Evidence

inductive Shows : ColumnType → Evidence → Prop where
  | bool (t a b : Nat) : Shows .bool (mk t a b 0 0 0 0 0 0 none [])
  | integer (t a i : Nat) : Shows (.integer true .w64) (mk t a 0 i 0 0 0 0 0 none [])
  | real (t a r : Nat) : Shows (.real .double) (mk t a 0 0 r 0 0 0 0 none [])
  | text (t a x : Nat) : Shows .string (mk t a 0 0 0 x 0 0 0 none [])

variable {t : ColumnType} {e : Evidence} {v : Value} {vs : List Value}

theorem Shows.observe (h : Shows t e) (hv : t.Admits v) : Shows t (e.observe v) := by
  cases h <;> cases hv <;> (unfold Evidence.observe; constructor)

end Evidence

namespace ColumnType

def shownTypes : List ColumnType := [.bool, .integer true .w64, .real .double, .string]

variable {t : ColumnType} {vs : List Value}

end ColumnType

namespace Cells

variable {t : ColumnType} {vs : List Value}

theorem length_of_ofValues {declared? : Option ColumnType} {cells : Cells}
    (h : ofValues declared? vs = .ok cells)
    : cells.values.length = vs.length := by
  have hlength : ∀ {type : ColumnType},
      (do return ⟨type, ← vs.mapM type.convert⟩ : Except Failure Cells) = .ok cells →
        cells.values.length = vs.length := by
    intro type hcells
    obtain ⟨values, hvalues, hcells⟩ := Except.bind_eq_ok_iff.1 hcells
    cases hcells
    exact (List.mapM_eq_ok_iff.1 hvalues).length_eq.symm
  cases declared? with
  | some type => exact hlength h
  | none =>
    obtain ⟨type, _, hcells⟩ := Except.bind_eq_ok_iff.1 h
    exact hlength hcells

end Cells

end RankFusion
