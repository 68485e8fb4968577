import Mathlib.Data.List.Find
import RankFusion.Proofs.Value.Entries
import RankFusion.Settings.Environment

/-!
This module contains entries that are put into others, and the entries that are given for a form.
One that is no mapping replaces what there was under its name, and those of a mapping are put into
another mapping in turn.
-/

namespace RankFusion

namespace Variables

variable {key : String} {v w : Value} {es fs : List (String × Value)}

/--
The entries of a datum that may be missing. Only a mapping has some.
-/
def entriesOf : Option Value → List (String × Value)
  | some (.dict es) => es
  | _ => []

theorem updateEntries_nil_right : updateEntries es [] = es := rfl

theorem updateEntries_cons {e : String × Value}
    : updateEntries es (e :: fs) =
        updateEntries (Value.insert e.1 (update ((Value.lookup? e.1 es).getD .null) e.2) es)
          fs := rfl

theorem mem_keys_updateEntries
    : key ∈ (updateEntries es fs).map (·.1)
        ↔
      key ∈ es.map (·.1) ∨ key ∈ fs.map (·.1) := by
  induction fs generalizing es with
  | nil => simp [updateEntries_nil_right]
  | cons f fs ih =>
    rw [updateEntries_cons, ih, Value.mem_keys_insert, List.map_cons, List.mem_cons]
    tauto

theorem nodup_keys_updateEntries (h : (es.map (·.1)).Nodup)
    : ((updateEntries es fs).map (·.1)).Nodup := by
  induction fs generalizing es with
  | nil => rwa [updateEntries_nil_right]
  | cons f fs ih =>
    rw [updateEntries_cons]
    exact ih (Value.nodup_keys_insert h)

theorem lookup?_updateEntries_of_not_mem (h : key ∉ fs.map (·.1))
    : Value.lookup? key (updateEntries es fs) = Value.lookup? key es := by
  induction fs generalizing es with
  | nil => rw [updateEntries_nil_right]
  | cons f fs ih =>
    rw [List.map_cons, List.mem_cons, not_or] at h
    rw [updateEntries_cons, ih h.2, Value.lookup?_insert, if_neg (Ne.symm h.1)]

theorem lookup?_updateEntries (hkeys : (fs.map (·.1)).Nodup) (h : Value.lookup? key fs = some v)
    : Value.lookup? key (updateEntries es fs) =
        some (update ((Value.lookup? key es).getD .null) v) := by
  induction fs generalizing es with
  | nil => cases h
  | cons f fs ih =>
    rw [List.map_cons, List.nodup_cons] at hkeys
    rw [updateEntries_cons]
    rw [Value.lookup?_cons] at h
    split at h
    . next hkey =>
      cases h
      subst hkey
      rw [lookup?_updateEntries_of_not_mem hkeys.1, Value.lookup?_insert, if_pos rfl]
    . next hkey => rw [ih hkeys.2 h, Value.lookup?_insert, if_neg hkey]

theorem update_of_not_dict_left (h : ∀ es, v ≠ .dict es) : update v w = w := by
  rw [update]
  rintro es _ rfl
  exact absurd rfl (h es)

theorem update_null : update .null v = v := update_of_not_dict_left nofun

theorem updateEntries_append (hkeys : ((es ++ fs).map (·.1)).Nodup)
    : updateEntries es fs = es ++ fs := by
  induction fs generalizing es with
  | nil => rw [updateEntries_nil_right, List.append_nil]
  | cons f fs ih =>
    have hmem : f.1 ∉ es.map (·.1) := by
      intro hmem
      rw [List.map_append, List.map_cons] at hkeys
      exact List.disjoint_of_nodup_append hkeys hmem List.mem_cons_self
    rw [List.append_cons] at hkeys
    rw [updateEntries_cons, Value.lookup?_eq_none_iff.2 hmem, Option.getD_none, update_null,
      Value.insert_of_not_mem hmem, ih hkeys, List.append_assoc, List.singleton_append]

theorem updateEntries_nil (hkeys : (fs.map (·.1)).Nodup) : updateEntries [] fs = fs :=
  updateEntries_append hkeys

theorem update_dict {v? : Option Value} (hkeys : (fs.map (·.1)).Nodup)
    : update (v?.getD .null) (.dict fs) = .dict (updateEntries (entriesOf v?) fs) := by
  have hnone : Value.dict fs = .dict (updateEntries [] fs) :=
    congrArg Value.dict (updateEntries_nil hkeys).symm
  cases v? with
  | none => exact update_null.trans hnone
  | some v =>
    cases v with
    | dict es => rfl
    | _ => exact (update_of_not_dict_left (by nofun)).trans hnone

theorem update_of_not_dict (h : ∀ es, v ≠ .dict es) : update w v = v := by
  cases v with
  | dict es => exact absurd rfl (h es)
  | _ => cases w <;> rfl

end Variables

section FormEntries

/--
Names that entries are recognized by: lower case, and none of those of the options.
-/
structure AreFieldNames (names : List String) : Prop where
  nodup : names.Nodup
  lower : ∀ name ∈ names, lowerText name = name
  free : ∀ name ∈ names, name ∉ SearchOptions.names
  noReceiver : SearchOptions.settingsReceiver ∉ names

def InFieldCase (names : List String) (es : List (String × Value)) : Prop :=
  ∀ key ∈ es.map (·.1), lowerText key ∈ names → lowerText key = key

variable {names : List String} {name : String} {es : List (String × Value)}

variable (hnames : AreFieldNames names)

include hnames

theorem lookup?_formEntries (hcase : InFieldCase names es) (hname : name ∈ names)
    : Value.lookup? name (formEntries names es) = Value.lookup? name es := by
  have hother : Value.lookup? name
      ((es.filter fun e => e.1 ∉ SearchOptions.names).filter fun e => lowerText e.1 ∉ names) =
        none :=
    Value.lookup?_filter_eq_none (p := fun n => lowerText n ∉ names)
      (by simpa [hnames.lower name hname] using hname)
  have hfound : ∀ e ∈ es.filter fun e => e.1 ∉ SearchOptions.names,
      (lowerText e.1 == name) = (e.1 == name) := by
    intro e he
    rw [Bool.eq_iff_iff, beq_iff_eq, beq_iff_eq]
    constructor
    . rintro rfl
      exact (hcase e.1 (List.mem_map_of_mem (List.mem_of_mem_filter he)) hname).symm
    . rintro rfl
      exact hnames.lower e.1 hname
  have hown := Value.lookup?_filterMap id (fun n =>
    ((es.filter fun e => e.1 ∉ SearchOptions.names).find? fun e => lowerText e.1 == n).map (·.2))
    (by simpa using hnames.nodup) hname
  simp only [Option.map_map] at hown
  unfold formEntries
  dsimp only
  rw [Value.lookup?_append, hother, Option.or_none]
  refine hown.trans ?_
  rw [List.find?_congr hfound]
  exact Value.lookup?_filter (p := fun n => n ∉ SearchOptions.names)
    (by simpa using hnames.free name hname)

omit hnames in
theorem mem_keys_formEntries (h : name ∈ (formEntries names es).map (·.1))
    : name ∈ names ∨ name ∈ es.map (·.1) := by
  unfold formEntries at h
  rw [List.map_append, List.mem_append] at h
  obtain h | h := h
  . obtain ⟨e, he, rfl⟩ := List.mem_map.1 h
    obtain ⟨n, hn, hfound⟩ := List.mem_filterMap.1 he
    obtain ⟨_, _, rfl⟩ := Option.map_eq_some_iff.1 hfound
    exact .inl hn
  . obtain ⟨e, he, rfl⟩ := List.mem_map.1 h
    exact .inr (List.mem_map_of_mem (List.mem_of_mem_filter (List.mem_of_mem_filter he)))

omit hnames in
theorem mem_keys_formEntries_of_unknown (h : name ∈ es.map (·.1))
    (hoption : name ∉ SearchOptions.names) (hunknown : lowerText name ∉ names)
    : name ∈ (formEntries names es).map (·.1) := by
  obtain ⟨e, he, rfl⟩ := List.mem_map.1 h
  unfold formEntries
  refine List.mem_map_of_mem (List.mem_append_right _ ?_)
  simp [he, hoption, hunknown]

theorem nodup_keys_formEntries (h : (es.map (·.1)).Nodup)
    : ((formEntries names es).map (·.1)).Nodup := by
  have hown : ((names.filterMap fun n =>
      ((es.filter fun e => e.1 ∉ SearchOptions.names).find? fun e => lowerText e.1 == n).map
        fun e => (n, e.2)).map (·.1)).Sublist names := by
    have hkeys := Value.keys_filterMap_sublist id (fun n =>
      ((es.filter fun e => e.1 ∉ SearchOptions.names).find? fun e => lowerText e.1 == n).map (·.2))
      names
    simp only [Option.map_map, List.map_id] at hkeys
    exact hkeys
  unfold formEntries
  rw [List.map_append]
  apply List.Nodup.append
  . exact hnames.nodup.sublist hown
  . exact h.sublist ((List.filter_sublist.trans List.filter_sublist).map _)
  . intro name hleft hright
    have hname := hown.subset hleft
    obtain ⟨e, he, rfl⟩ := List.mem_map.1 hright
    have hother := of_decide_eq_true (List.mem_filter.1 he).2
    rw [hnames.lower e.1 hname] at hother
    exact hother hname

theorem inFieldCase_of_names (h : ∀ key ∈ es.map (·.1), key ∈ names) : InFieldCase names es :=
  fun key hkey _ => hnames.lower key (h key hkey)

end FormEntries

section CanonicalEntries

variable {fields : List FieldName} {es : List (String × Value)}

theorem canonicalEntries_keeps {P : List (String × Value) → Prop} (hnil : P [])
    (hinsert : ∀ (acc : List (String × Value)) (e : String × Value), P acc → P (Value.insert
      (((fields.find? fun f => f.name == lowerText e.1).map (·.name)).getD e.1) e.2 acc))
    : P (Variables.canonicalEntries fields es) :=
  List.foldlRecOn es _ hnil fun acc hacc e _ => hinsert acc e hacc

theorem nodup_keys_canonicalEntries
    : ((Variables.canonicalEntries fields es).map (·.1)).Nodup :=
  canonicalEntries_keeps (P := fun es => (es.map (·.1)).Nodup) List.nodup_nil
    fun _ _ => Value.nodup_keys_insert

theorem inFieldCase_canonicalEntries (hnames : AreFieldNames (fields.map (·.name)))
    : InFieldCase (fields.map (·.name)) (Variables.canonicalEntries fields es) := by
  refine canonicalEntries_keeps (P := InFieldCase _) nofun ?_
  intro acc e hacc key hkey hlower
  rw [Value.mem_keys_insert] at hkey
  obtain rfl | hkey := hkey
  . cases hfield : fields.find? fun f => f.name == lowerText e.1 with
    | none =>
      rw [hfield] at hlower
      obtain ⟨f, hf, hname⟩ := List.mem_map.1 hlower
      exact absurd (beq_iff_eq.2 hname) (List.find?_eq_none.1 hfield f hf)
    | some f =>
      exact hnames.lower f.name (List.mem_map_of_mem (List.mem_of_find?_eq_some hfield))
  . exact hacc key hkey hlower

end CanonicalEntries

def HasNoOptions (es : List (String × Value)) : Prop :=
  ∀ e ∈ es, e.1 ∉ SearchOptions.names ∧ e.1 ≠ SearchOptions.settingsReceiver

theorem AreFieldNames.hasNoOptions {names : List String} {es : List (String × Value)}
    (h : AreFieldNames names) (hkeys : ∀ key ∈ es.map (·.1), key ∈ names)
    : HasNoOptions es := by
  intro e he
  have hname := hkeys e.1 (List.mem_map_of_mem he)
  refine ⟨h.free e.1 hname, ?_⟩
  intro hreceiver
  exact h.noReceiver (hreceiver ▸ hname)

theorem InFieldCase.updateEntries {names : List String} {es fs : List (String × Value)}
    (hes : InFieldCase names es) (hfs : InFieldCase names fs)
    : InFieldCase names (Variables.updateEntries es fs) := by
  intro key hkey
  obtain hkey | hkey := Variables.mem_keys_updateEntries.1 hkey
  . exact hes key hkey
  . exact hfs key hkey

end RankFusion
