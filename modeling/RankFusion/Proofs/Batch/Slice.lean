import Mathlib.Data.List.Pairwise
import RankFusion.Batch.Slice
import RankFusion.Proofs.Batch.Lookup

/-!
This module contains the slices of batches. A slice of a slice is a slice, and the slices between
cut points in order make up what is between the first and the last.
-/

namespace RankFusion

theorem flatten_pieces {α : Type} (xs : List α) (first : Nat) (cuts : List Nat)
    (h : (first :: cuts).Pairwise (· ≤ ·))
    : (((first :: cuts).zip cuts).map fun c => (xs.take c.2).drop c.1).flatten =
        (xs.take ((first :: cuts).getLast (List.cons_ne_nil _ _))).drop first := by
  induction cuts generalizing first with
  | nil => simp
  | cons next cuts ih =>
    rw [List.pairwise_cons] at h
    have hfirst : first ≤ next := h.1 next List.mem_cons_self
    have hlast : next ≤ (next :: cuts).getLast (List.cons_ne_nil _ _) :=
      h.2.rel_getLast List.mem_cons_self
    rw [List.zip_cons_cons, List.map_cons, List.flatten_cons, ih next h.2,
      List.getLast_cons (List.cons_ne_nil next cuts)]
    generalize (next :: cuts).getLast (List.cons_ne_nil _ _) = last at hlast
    -- Both sides are what is between two positions, so it is enough to look at one position.
    apply List.ext_getElem?
    intro i
    simp only [List.getElem?_append, List.getElem?_drop, List.getElem?_take, List.length_drop,
      List.length_take]
    grind

namespace Batch

theorem eq_of_columns {b b' : Batch} (hcolumns : b.columns = b'.columns)
    (hmetadata : b.metadata = b'.metadata)
    : b = b' := by
  cases b
  cases b'
  cases hcolumns
  cases hmetadata
  rfl

variable (b : Batch) (start stop : Nat)

theorem columns_extract
    : (b.extract start stop).columns =
        b.columns.map fun c => { c with values := (c.values.take stop).drop start } := by
  simp only [extract, List.drop_take]

theorem rows_extract
    : (b.extract start stop).rows = min (stop - start) (b.rows - start) := by
  have h : ∀ columns : List Column,
      rowCount (columns.map fun c =>
          { c with values := (c.values.drop start).take (stop - start) }) =
        min (stop - start) (rowCount columns - start) := by
    intro columns
    cases columns with
    | nil => simp [rowCount]
    | cons c columns => simp [rowCount]
  exact h b.columns

theorem extract_rows : b.extract 0 b.rows = b := by
  apply eq_of_columns
  . rw [columns_extract]
    conv => rhs; rw [← List.map_id b.columns]
    apply List.map_congr_left
    intro c hc
    rw [← length_values_of_mem hc, List.take_length]
    rfl
  . rfl

theorem extract_extract (middle : Nat)
    : (b.extract 0 stop).extract start middle = b.extract start (min middle stop) := by
  apply eq_of_columns
  . simp only [columns_extract, List.map_map]
    apply List.map_congr_left
    intro c _
    simp [List.take_take]
  . rfl

theorem extract_of_rows_le (h : b.rows ≤ start)
    : b.extract start b.rows = b.extract b.rows b.rows := by
  apply eq_of_columns
  . simp only [columns_extract]
    apply List.map_congr_left
    intro c hc
    have hlength := length_values_of_mem hc
    rw [List.drop_of_length_le (by rw [List.length_take]; omega),
      List.drop_of_length_le (by rw [List.length_take]; omega)]
  . rfl

theorem slice_natCast (length : Nat)
    : b.slice start length = .ok (b.extract start (start + length)) := by
  unfold slice
  rw [if_neg (by omega)]
  rfl

end Batch

end RankFusion
