import Mathlib.Data.List.Nodup
import RankFusion.Value

/-!
This module contains lookups in the entries of mappings. A lookup sees the entry that was put under
its key last, and in entries without repeated keys it sees every entry.
-/

namespace RankFusion

namespace Value

variable {p : String → Bool} {key name : String} {v : Value} {es fs : List (String × Value)}

theorem lookup?_cons {e : String × Value}
    : lookup? key (e :: es) = if e.1 = key then some e.2 else lookup? key es := by
  unfold lookup?
  rw [List.find?_cons]
  split
  . next h => rw [if_pos (beq_iff_eq.1 h), Option.map_some]
  . next h => rw [if_neg (beq_eq_false_iff_ne.1 h)]

theorem lookup?_append : lookup? key (es ++ fs) = (lookup? key es).or (lookup? key fs) := by
  unfold lookup?
  rw [List.find?_append, Option.map_or]

theorem lookup?_insert
    : lookup? key (insert name v es) = if name = key then some v else lookup? key es := by
  induction es with
  | nil => exact lookup?_cons
  | cons e es ih =>
    rw [insert]
    split
    . next h =>
      rw [lookup?_cons, lookup?_cons, beq_iff_eq.1 h]
      split <;> rfl
    . next h =>
      rw [lookup?_cons, lookup?_cons, ih]
      split
      . next he => rw [if_neg fun hname => h (beq_iff_eq.2 (he.trans hname.symm))]
      . rfl

theorem lookup?_eq_none_iff : lookup? key es = none ↔ key ∉ es.map (·.1) := by
  unfold lookup?
  rw [Option.map_eq_none_iff, List.find?_eq_none, List.mem_map, not_exists]
  apply forall_congr'
  intro e
  rw [not_and, beq_iff_eq]

theorem mem_of_lookup? (h : lookup? key es = some v) : (key, v) ∈ es := by
  obtain ⟨e, he, rfl⟩ := Option.map_eq_some_iff.1 h
  have hkey := List.find?_some he
  rw [← beq_iff_eq.1 hkey]
  exact List.mem_of_find?_eq_some he

theorem lookup?_eq_some_iff (hkeys : (es.map (·.1)).Nodup)
    : lookup? key es = some v ↔ (key, v) ∈ es := by
  constructor
  . exact mem_of_lookup?
  . intro h
    induction es with
    | nil => cases h
    | cons e es ih =>
      rw [List.map_cons, List.nodup_cons] at hkeys
      rw [lookup?_cons]
      cases h with
      | head => exact if_pos rfl
      | tail _ hmem =>
        have hne : e.1 ≠ key := by
          rintro rfl
          exact hkeys.1 (List.mem_map.2 ⟨_, hmem, rfl⟩)
        rw [if_neg hne]
        exact ih hkeys.2 hmem

theorem lookup?_filter (h : p key = true)
    : lookup? key (es.filter fun e => p e.1) = lookup? key es := by
  unfold lookup?
  rw [List.find?_filter]
  congr 2
  funext e
  by_cases he : e.1 = key
  . simp [he, h]
  . simp [he]

theorem lookup?_filter_eq_none (h : p key = false)
    : lookup? key (es.filter fun e => p e.1) = none := by
  unfold lookup?
  rw [Option.map_eq_none_iff, List.find?_eq_none]
  intro e he hkey
  have hp := (List.mem_filter.1 he).2
  rw [beq_iff_eq.1 hkey, h] at hp
  cases hp

theorem mem_keys_insert
    : key ∈ (insert name v es).map (·.1) ↔ key = name ∨ key ∈ es.map (·.1) := by
  rw [← not_iff_not, ← lookup?_eq_none_iff, lookup?_insert, not_or, ← lookup?_eq_none_iff]
  split
  . next h => simp [h.symm]
  . next h => simp [Ne.symm h]

theorem nodup_keys_insert (h : (es.map (·.1)).Nodup) : ((insert name v es).map (·.1)).Nodup := by
  induction es with
  | nil => exact List.nodup_singleton name
  | cons e es ih =>
    rw [List.map_cons, List.nodup_cons] at h
    rw [insert]
    split
    . next hname =>
      rw [List.map_cons, List.nodup_cons, ← beq_iff_eq.1 hname]
      exact h
    . next hname =>
      rw [List.map_cons, List.nodup_cons, mem_keys_insert]
      refine ⟨?_, ih h.2⟩
      rintro (heq | hmem)
      . exact hname (beq_iff_eq.2 heq)
      . exact h.1 hmem

theorem insert_of_not_mem (h : name ∉ es.map (·.1)) : insert name v es = es ++ [(name, v)] := by
  induction es with
  | nil => rfl
  | cons e es ih =>
    rw [List.map_cons, List.mem_cons, not_or] at h
    rw [insert, if_neg fun heq => h.1 (beq_iff_eq.1 heq).symm, ih h.2, List.cons_append]

section FilterMap

variable {α : Type} (keyOf : α → String) (value? : α → Option Value) {xs : List α}

theorem keys_filterMap_sublist (xs : List α)
    : ((xs.filterMap fun x => (value? x).map fun v => (keyOf x, v)).map (·.1)).Sublist
        (xs.map keyOf) := by
  induction xs with
  | nil => exact .slnil
  | cons x xs ih =>
    rw [List.filterMap_cons, List.map_cons]
    cases value? x with
    | none => exact ih.cons _
    | some v => exact ih.cons_cons _

theorem lookup?_filterMap (hkeys : (xs.map keyOf).Nodup) {x : α} (hx : x ∈ xs)
    : lookup? (keyOf x) (xs.filterMap fun x => (value? x).map fun v => (keyOf x, v)) =
        value? x := by
  ext v
  rw [lookup?_eq_some_iff (hkeys.sublist (keys_filterMap_sublist keyOf value? xs)),
    List.mem_filterMap]
  simp only [Option.map_eq_some_iff, Prod.mk.injEq]
  constructor
  . rintro ⟨y, hy, w, hw, hkey, rfl⟩
    rw [← List.inj_on_of_nodup_map hkeys hy hx hkey]
    exact hw
  . intro hv
    exact ⟨x, hx, v, hv, rfl, rfl⟩

end FilterMap

end Value

end RankFusion
