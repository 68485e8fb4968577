import RankFusion.Proofs.Validation.Reader
import RankFusion.Proofs.Value.Entries
import RankFusion.Validation.Form

/-!
This module contains the filling of forms. A form that is read has been filled field after field,
each with what is given for it, and what every field keeps holds of the whole form.
-/

namespace RankFusion

variable {R : Type}

namespace FormField

def Keeps (f : FormField R) (P : R → Prop) : Prop :=
  ∀ x v y, P x → f.fill x v = .valid y → P y

def Reports (f : FormField R) : Prop := ∀ x v, (f.fill x v).Reported

variable {α : Type} {name : String} {reader : Reader α} {set : R → α → R} {value : R → Value}

theorem reports_ofReader (h : reader.Reports) : (ofReader name reader set value).Reports :=
  fun _ v => (h v).map _

theorem fill_ofReader_iff {x y : R} {v : Value}
    : (ofReader name reader set value).fill x v = .valid y
        ↔
      ∃ a, reader v = .valid a ∧ set x a = y :=
  Checked.map_eq_valid_iff

theorem keeps_ofReader {P : R → Prop} (h : ∀ x v a, P x → reader v = .valid a → P (set x a))
    : (ofReader name reader set value).Keeps P := by
  intro x v y hx hfill
  obtain ⟨a, ha, rfl⟩ := fill_ofReader_iff.1 hfill
  exact h x v a hx ha

def Commutes (f : FormField R) (g : R → R) : Prop := ∀ x v, f.fill (g x) v = (f.fill x v).map g

theorem commutes_of_fill {f : FormField R} {g : R → R}
    (hfill : f.fill = fun x v => (reader v).map (set x)) (h : ∀ x a, set (g x) a = g (set x a))
    : f.Commutes g := by
  intro x v
  rw [hfill]
  dsimp only
  cases reader v with
  | valid a => exact congrArg Checked.valid (h x a)
  | invalid is => rfl

theorem Commutes.keeps {f : FormField R} {g : R → R} (h : f.Commutes g)
    : f.Keeps fun x => g x = x := by
  intro x v y hx hfill
  have hmapped := h x v
  rw [hx, hfill] at hmapped
  exact (Checked.valid.inj hmapped).symm

end FormField

theorem Filling.eq_of_issues {s : Filling R} (h : s.issues = []) : s = { state := s.state } := by
  cases s with
  | mk state issues =>
    cases h
    rfl

namespace Form

/--
Filling the fields of a form one after another with what is given for them. A field that is required
has to be given.
-/
inductive Fills (given : FormField R → Option Value) : List (FormField R) → R → R → Prop where
  | nil {x : R} : Fills given [] x x
  | filled {f : FormField R} {fs : List (FormField R)} {x y z : R} {v : Value}
      (hgiven : given f = some v) (hfill : f.fill x v = .valid y) (hrest : Fills given fs y z) :
      Fills given (f :: fs) x z
  | absent {f : FormField R} {fs : List (FormField R)} {x z : R}
      (hgiven : given f = none) (hrequired : f.required = false) (hrest : Fills given fs x z) :
      Fills given (f :: fs) x z

variable {fields : List (FormField R)} {es : List (String × Value)} {x y blank : R}
  {given given' : FormField R → Option Value}

theorem Fills.congr (h : Fills given fields x y) (hgiven : ∀ f ∈ fields, given f = given' f)
    : Fills given' fields x y := by
  induction h with
  | nil => exact .nil
  | filled hv hfill _ ih =>
    rw [List.forall_mem_cons] at hgiven
    exact .filled (hgiven.1 ▸ hv) hfill (ih hgiven.2)
  | absent hnone hrequired _ ih =>
    rw [List.forall_mem_cons] at hgiven
    exact .absent (hgiven.1 ▸ hnone) hrequired (ih hgiven.2)

theorem Fills.keeps {P : R → Prop} (h : Fills given fields x y)
    (hfields : ∀ f ∈ fields, f.Keeps P) (hx : P x)
    : P y := by
  induction h with
  | nil => exact hx
  | filled _ hfill _ ih =>
    rw [List.forall_mem_cons] at hfields
    exact ih hfields.2 (hfields.1 _ _ _ hx hfill)
  | absent _ _ _ ih =>
    rw [List.forall_mem_cons] at hfields
    exact ih hfields.2 hx

theorem fills_cons_iff {α : Type} {f : FormField R} {reader : Reader α} {set : R → α → R}
    {v : Value} (hgiven : given f = some v) (hfill : f.fill = fun x v => (reader v).map (set x))
    : Fills given (f :: fields) x y
        ↔
      ∃ a, reader v = .valid a ∧ Fills given fields (set x a) y := by
  constructor
  . intro h
    cases h with
    | absent hnone =>
      rw [hgiven] at hnone
      cases hnone
    | filled hv hchecked hrest =>
      rw [hgiven, Option.some.injEq] at hv
      rw [hfill, ← hv] at hchecked
      obtain ⟨a, ha, rfl⟩ := Checked.map_eq_valid_iff.1 hchecked
      exact ⟨a, ha, hrest⟩
  . rintro ⟨a, ha, hrest⟩
    refine .filled hgiven ?_ hrest
    rw [hfill]
    exact Checked.map_eq_valid_iff.2 ⟨a, ha, rfl⟩

theorem fills_field {α : Type} {f : FormField R} {reader : Reader α} {set : R → α → R} {r : R}
    {a : α} (hfill : f.fill = fun x v => (reader v).map (set x))
    (h : reader (f.value r) = .valid a)
    (hrest : Fills (fun f => some (f.value r)) fields (set x a) y)
    : Fills (fun f => some (f.value r)) (f :: fields) x y :=
  (fills_cons_iff rfl hfill).2 ⟨a, h, hrest⟩

theorem fills_nil_iff : Fills given [] x y ↔ x = y := by
  constructor
  . rintro ⟨⟩
    rfl
  . rintro rfl
    exact .nil

theorem fills_absent_iff {f : FormField R} (hgiven : given f = none)
    (hrequired : f.required = false)
    : Fills given (f :: fields) x y ↔ Fills given fields x y := by
  constructor
  . intro h
    cases h with
    | filled hv =>
      rw [hgiven] at hv
      cases hv
    | absent _ _ hrest => exact hrest
  . exact .absent hgiven hrequired

theorem fills_boundedReal_iff {f : FormField R} {b : Bounds} {a : Binary} {set : R → Binary → R}
    (hgiven : given f = some (.real a))
    (hfill : f.fill = fun x v => (Reader.boundedReal b v).map (set x))
    : Fills given (f :: fields) x y ↔ b.broken? a = none ∧ Fills given fields (set x a) y := by
  rw [fills_cons_iff hgiven hfill]
  constructor
  . rintro ⟨a', ha, hrest⟩
    obtain ⟨hreal, hbounds⟩ := Reader.boundedReal_eq_valid_iff.1 ha
    cases hreal
    exact ⟨hbounds, hrest⟩
  . rintro ⟨hbounds, hrest⟩
    exact ⟨a, Reader.boundedReal_eq_valid_iff.2 ⟨rfl, hbounds⟩, hrest⟩

theorem fills_member_iff {α : Type} {f : FormField R} {ofName? : String → Option α}
    {name : String} {a : α} {set : R → α → R} (hname : ofName? name = some a)
    (hgiven : given f = some (.text name))
    (hfill : f.fill = fun x v => (Reader.member ofName? v).map (set x))
    : Fills given (f :: fields) x y ↔ Fills given fields (set x a) y := by
  rw [fills_cons_iff hgiven hfill, Reader.member_text hname]
  constructor
  . rintro ⟨_, ⟨⟩, hrest⟩
    exact hrest
  . intro hrest
    exact ⟨a, rfl, hrest⟩

theorem fills_asked_real_iff {f : FormField R} {b : Bounds} {a d : Binary} {set : R → Binary → R}
    (hasked : (given f).getD (.real d) = .real a) (hrequired : f.required = false)
    (hfill : f.fill = fun x v => (Reader.boundedReal b v).map (set x))
    (hbounds : b.broken? d = none) (hdefault : set x d = x)
    : Fills given (f :: fields) x y ↔ b.broken? a = none ∧ Fills given fields (set x a) y := by
  cases hgiven : given f with
  | none =>
    rw [hgiven, Option.getD_none, Value.real.injEq] at hasked
    rw [fills_absent_iff hgiven hrequired, ← hasked, hdefault]
    exact (and_iff_right hbounds).symm
  | some v =>
    rw [hgiven, Option.getD_some] at hasked
    exact fills_boundedReal_iff (hasked ▸ hgiven) hfill

theorem fills_asked_member_iff {α : Type} {f : FormField R} {ofName? : String → Option α}
    {nameOf : α → String} {a d : α} {set : R → α → R} (hname : ∀ m, ofName? (nameOf m) = some m)
    (hasked : (given f).getD (.text (nameOf d)) = .text (nameOf a)) (hrequired : f.required = false)
    (hfill : f.fill = fun x v => (Reader.member ofName? v).map (set x)) (hdefault : set x d = x)
    : Fills given (f :: fields) x y ↔ Fills given fields (set x a) y := by
  cases hgiven : given f with
  | none =>
    rw [hgiven, Option.getD_none, Value.text.injEq] at hasked
    obtain rfl : d = a := by
      rw [← Option.some.injEq, ← hname, hasked, hname]
    rw [fills_absent_iff hgiven hrequired, hdefault]
  | some v =>
    rw [hgiven, Option.getD_some] at hasked
    exact fills_member_iff (hname a) (hasked ▸ hgiven) hfill

theorem fills_none_iff (h : ∀ f ∈ fields, given f = none ∧ f.required = false)
    : Fills given fields x y ↔ x = y := by
  induction fields with
  | nil => exact fills_nil_iff
  | cons f fs ih =>
    rw [List.forall_mem_cons] at h
    exact (fills_absent_iff h.1.1 h.1.2).trans (ih h.2)

theorem fills_congr (hgiven : ∀ f ∈ fields, given f = given' f)
    : Fills given fields x y ↔ Fills given' fields x y :=
  ⟨fun h => h.congr hgiven, fun h => h.congr fun f hf => (hgiven f hf).symm⟩

theorem fills_append_iff {fs gs : List (FormField R)} {z : R}
    : Fills given (fs ++ gs) x z ↔ ∃ y, Fills given fs x y ∧ Fills given gs y z := by
  induction fs generalizing x with
  | nil =>
    constructor
    . intro h
      exact ⟨x, .nil, h⟩
    . rintro ⟨y, hnil, h⟩
      rw [fills_nil_iff.1 hnil]
      exact h
  | cons f fs ih =>
    rw [List.cons_append]
    constructor
    . intro h
      cases h with
      | filled hv hfill hrest =>
        obtain ⟨y, hfs, hgs⟩ := ih.1 hrest
        exact ⟨y, .filled hv hfill hfs, hgs⟩
      | absent hnone hrequired hrest =>
        obtain ⟨y, hfs, hgs⟩ := ih.1 hrest
        exact ⟨y, .absent hnone hrequired hfs, hgs⟩
    . rintro ⟨y, hfs, hgs⟩
      cases hfs with
      | filled hv hfill hrest => exact .filled hv hfill (ih.2 ⟨y, hrest, hgs⟩)
      | absent hnone hrequired hrest => exact .absent hnone hrequired (ih.2 ⟨y, hrest, hgs⟩)

theorem Fills.unique {z : R} (h : Fills given fields x y) (h' : Fills given fields x z)
    : y = z := by
  induction h with
  | nil => exact fills_nil_iff.1 h'
  | filled hv hfill _ ih =>
    cases h' with
    | filled hv' hfill' hrest' =>
      obtain rfl := Option.some.inj (hv.symm.trans hv')
      obtain rfl := Checked.valid.inj (hfill.symm.trans hfill')
      exact ih hrest'
    | absent hnone => exact absurd (hv.symm.trans hnone) nofun
  | absent hnone hrequired _ ih => exact ih ((fills_absent_iff hnone hrequired).1 h')

theorem fills_map_iff {g : R → R} {z : R} (hfields : ∀ f ∈ fields, f.Commutes g)
    : Fills given fields (g x) z ↔ ∃ y, Fills given fields x y ∧ g y = z := by
  induction fields generalizing x with
  | nil =>
    simp only [fills_nil_iff]
    exact ⟨fun h => ⟨x, rfl, h⟩, fun ⟨y, hy, h⟩ => hy ▸ h⟩
  | cons f fs ih =>
    rw [List.forall_mem_cons] at hfields
    constructor
    . intro h
      cases h with
      | filled hv hfill hrest =>
        rw [hfields.1] at hfill
        obtain ⟨w, hw, rfl⟩ := Checked.map_eq_valid_iff.1 hfill
        obtain ⟨y, hy, rfl⟩ := (ih hfields.2).1 hrest
        exact ⟨y, .filled hv hw hy, rfl⟩
      | absent hnone hrequired hrest =>
        obtain ⟨y, hy, rfl⟩ := (ih hfields.2).1 hrest
        exact ⟨y, .absent hnone hrequired hy, rfl⟩
    . rintro ⟨y, h, rfl⟩
      cases h with
      | filled hv hfill hrest =>
        refine .filled hv ?_ ((ih hfields.2).2 ⟨y, hrest, rfl⟩)
        rw [hfields.1]
        exact Checked.map_eq_valid_iff.2 ⟨_, hfill, rfl⟩
      | absent hnone hrequired hrest =>
        exact .absent hnone hrequired ((ih hfields.2).2 ⟨y, hrest, rfl⟩)

theorem issues_of_fillField {f : FormField R} {s : Filling R}
    (h : (fillField es s f).issues = [])
    : s.issues = [] := by
  unfold fillField at h
  split at h
  . split at h
    . exact h
    . exact (List.append_eq_nil_iff.1 h).1
  . split at h
    . exact (List.append_eq_nil_iff.1 h).1
    . exact h

theorem issues_of_foldl {s : Filling R} (h : (fields.foldl (fillField es) s).issues = [])
    : s.issues = [] := by
  induction fields generalizing s with
  | nil => exact h
  | cons f fs ih => exact issues_of_fillField (ih h)

theorem fillField_eq_iff {f : FormField R} (hf : f.Reports)
    : fillField es { state := x } f = { state := y }
        ↔
      (∃ v, Value.lookup? f.name es = some v ∧ f.fill x v = .valid y)
        ∨ (Value.lookup? f.name es = none ∧ f.required = false ∧ x = y) := by
  unfold fillField
  cases hlookup : Value.lookup? f.name es with
  | none =>
    cases hrequired : f.required with
    | true => simp
    | false => simp
  | some v =>
    cases hchecked : f.fill x v with
    | valid z => simp [Checked.under, hchecked]
    | invalid is =>
      have hne : is ≠ [] := by
        rintro rfl
        exact hf x v hchecked
      simp [Checked.under, hchecked, hne]

theorem foldl_fillField_iff (hfields : ∀ f ∈ fields, f.Reports)
    : fields.foldl (fillField es) { state := x } = { state := y }
        ↔
      Fills (fun f => Value.lookup? f.name es) fields x y := by
  induction fields generalizing x with
  | nil =>
    rw [List.foldl_nil, Filling.mk.injEq]
    constructor
    . rintro ⟨rfl, _⟩
      exact .nil
    . rintro ⟨⟩
      exact ⟨rfl, rfl⟩
  | cons f fs ih =>
    rw [List.forall_mem_cons] at hfields
    rw [List.foldl_cons]
    constructor
    . intro h
      have hissues : (fillField es { state := x } f).issues = [] :=
        issues_of_foldl (congrArg Filling.issues h)
      have hstep : fillField es { state := x } f
          = { state := (fillField es { state := x } f).state } :=
        Filling.eq_of_issues hissues
      rw [hstep, ih hfields.2] at h
      obtain ⟨v, hv, hfill⟩ | ⟨hnone, hrequired, hx⟩ := (fillField_eq_iff hfields.1).1 hstep
      . exact .filled hv hfill h
      . exact .absent hnone hrequired (hx ▸ h)
    . intro h
      cases h with
      | filled hv hfill hrest =>
        rw [(fillField_eq_iff hfields.1).2 (.inl ⟨_, hv, hfill⟩)]
        exact (ih hfields.2).2 hrest
      | absent hnone hrequired hrest =>
        rw [(fillField_eq_iff hfields.1).2 (.inr ⟨hnone, hrequired, rfl⟩)]
        exact (ih hfields.2).2 hrest

theorem read_eq_valid_iff (hfields : ∀ f ∈ fields, f.Reports)
    : read fields blank es = .valid y
        ↔
      (∀ e ∈ es, isWellFormed e.1 = true)
        ∧ unknownEntries fields es = []
        ∧ Fills (fun f => Value.lookup? f.name es) fields blank y := by
  rw [← foldl_fillField_iff hfields, ← List.all_eq_true]
  unfold read
  cases hnames : es.all fun e => isWellFormed e.1 with
  | false => simp [Checked.fail]
  | true =>
    rw [Bool.not_true, if_neg Bool.false_ne_true]
    dsimp only
    split
    . next hissues =>
      obtain ⟨hfilled, hunknown⟩ := List.append_eq_nil_iff.1 hissues
      rw [Checked.valid.injEq]
      constructor
      . rintro rfl
        exact ⟨rfl, hunknown, Filling.eq_of_issues hfilled⟩
      . rintro ⟨_, _, hstate⟩
        rw [hstate]
    . next hissues =>
      constructor
      . intro h
        cases h
      . rintro ⟨_, hunknown, hstate⟩
        rw [hstate, hunknown] at hissues
        exact absurd rfl hissues

theorem reported_read : (read fields blank es).Reported := by
  unfold read
  split
  . nofun
  . dsimp only
    split
    . nofun
    . next hissues =>
      intro h
      rw [Checked.invalid.injEq] at h
      exact hissues h

theorem lookup?_entries (hnames : (fields.map (·.name)).Nodup) {f : FormField R} (hf : f ∈ fields)
    : Value.lookup? f.name (entries fields x) = some (f.value x) := by
  have hkeys : ((entries fields x).map (·.1)).Nodup := by
    unfold entries
    rw [List.map_map]
    exact hnames
  rw [Value.lookup?_eq_some_iff hkeys]
  exact List.mem_map.2 ⟨f, hf, rfl⟩

theorem unknownEntries_eq_nil_iff
    : unknownEntries fields es = [] ↔ ∀ e ∈ es, ∃ f ∈ fields, f.name = e.1 := by
  unfold unknownEntries
  rw [List.map_eq_nil_iff, List.filter_eq_nil_iff]
  simp

theorem unknownEntries_entries : unknownEntries fields (entries fields x) = [] := by
  unfold unknownEntries entries
  rw [List.map_eq_nil_iff, List.filter_eq_nil_iff]
  intro e he hall
  obtain ⟨f, hf, rfl⟩ := List.mem_map.1 he
  have hne := List.all_eq_true.1 hall f hf
  simp at hne

theorem read_entries_iff (hfields : ∀ f ∈ fields, f.Reports)
    (hnames : (fields.map (·.name)).Nodup) (hformed : ∀ f ∈ fields, isWellFormed f.name = true)
    : read fields blank (entries fields x) = .valid y
        ↔
      Fills (fun f => some (f.value x)) fields blank y := by
  have hgiven : ∀ f ∈ fields, Value.lookup? f.name (entries fields x) = some (f.value x) :=
    fun f hf => lookup?_entries hnames hf
  have hkeys : ∀ e ∈ entries fields x, isWellFormed e.1 = true := by
    intro e he
    obtain ⟨f, hf, rfl⟩ := List.mem_map.1 he
    exact hformed f hf
  rw [read_eq_valid_iff hfields]
  constructor
  . rintro ⟨_, _, hfills⟩
    exact hfills.congr hgiven
  . intro hfills
    refine ⟨hkeys, unknownEntries_entries, hfills.congr ?_⟩
    intro f hf
    exact (hgiven f hf).symm

theorem assign_eq_valid_iff {name : String} {v : Value}
    : assign fields x name v = .valid y
        ↔
      ∃ f, fields.find? (fun g => g.name == name) = some f ∧ f.fill x v = .valid y := by
  unfold assign
  cases hfind : fields.find? fun g => g.name == name with
  | none => simp
  | some f => simp [Checked.under_eq_valid_iff]

end Form

end RankFusion
