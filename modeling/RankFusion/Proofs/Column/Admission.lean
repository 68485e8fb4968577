import RankFusion.Column.Convert

/-!
This module contains the data that a scalar type admits as the cells of its columns.
-/

namespace RankFusion

namespace ColumnType

/--
Whether a datum is one of a scalar type: absent, or of the kind and in the range of the type.
-/
inductive Admits : ColumnType → Value → Prop where
  | absent (t : ColumnType) : Admits t .null
  | bool (b : Bool) : Admits .bool (.bool b)
  | integer (signed : Bool) (width : Width) (n : Int) (h : width.holds signed n = true)
    : Admits (.integer signed width) (.int n)
  | real (precision : Precision) (x : Binary) : Admits (.real precision) (.real x)
  | text (s : String) : Admits .string (.text s)

/--
The cell of a datum. Numbers are rounded to the precision of the type.
-/
def shown : ColumnType → Value → Value
  | .real precision, .real x => .real (precision.format.convert x)
  | _, v => v

theorem convert_of_admits {t : ColumnType} {v : Value} (h : t.Admits v)
    : t.convert v = .ok (t.shown v) := by
  cases h with
  | absent => cases t <;> rfl
  | bool b => rfl
  | integer signed width n hholds =>
    unfold convert convertInteger
    dsimp only
    rw [if_pos hholds]
    rfl
  | real precision x => rfl
  | text s => rfl

end ColumnType

end RankFusion
