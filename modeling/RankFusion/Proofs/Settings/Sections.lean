import RankFusion.Proofs.Settings.Sources
import RankFusion.Proofs.Settings.Strategy
import RankFusion.Yaml.Printer

/-!
This module contains the sections of settings and what documents show of them. A section within its
bounds is read back from its own values. A document has no infinity, and no field takes what it
shows instead.
-/

namespace RankFusion

namespace Value

def shown (v : Value) : Value := (Yaml.Leaf.ofValue v).toValue

variable {v : Value} {leaf : Yaml.Leaf}

theorem shown_ne_dict {es : List (String × Value)} : v.shown ≠ .dict es := by
  unfold shown
  cases Yaml.Leaf.ofValue v <;> nofun

theorem shown_real {x : Binary}
    : (Value.real x).shown = if x.isFinite = true then .real x else .null := by
  unfold shown Yaml.Leaf.ofValue
  dsimp only
  split <;> rfl

theorem shown_eq_or (h : v = leaf.toValue) : v.shown = v ∨ v.shown = .null := by
  subst h
  cases leaf with
  | real x =>
    rw [Yaml.Leaf.toValue, shown_real]
    split
    . exact .inl rfl
    . exact .inr rfl
  | _ => exact .inl rfl

theorem shown_eq_iff (h : v = leaf.toValue)
    : v.shown = v ↔ ∀ x, v = .real x → x.isFinite = true := by
  subst h
  cases leaf with
  | real x =>
    rw [Yaml.Leaf.toValue, shown_real]
    split
    . next hfinite =>
      refine iff_of_true rfl ?_
      rintro _ ⟨⟩
      exact hfinite
    . next hfinite => exact iff_of_false nofun fun h => hfinite (h x rfl)
  | _ => exact iff_of_true rfl nofun

end Value

namespace Reader

variable {α : Type} {b : Bounds}

/--
Whether a reader takes no absent datum, and says what is wrong with all data that it refuses.
-/
structure IsStrict (r : Reader α) : Prop where
  reports : r.Reports
  refusesNull : ∀ a, r .null ≠ .valid a

theorem isStrict_text : text.IsStrict := ⟨reports_text, nofun⟩

theorem isStrict_truth : truth.IsStrict := ⟨reports_truth, nofun⟩

theorem isStrict_member {ofName? : String → Option α} : (member ofName?).IsStrict :=
  ⟨reports_member ofName?, nofun⟩

theorem isStrict_boundedReal : (boundedReal b).IsStrict where
  reports := reports_boundedReal b
  refusesNull := by
    intro a h
    cases (boundedReal_eq_valid_iff.1 h).1

theorem isStrict_boundedInteger : (boundedInteger b).IsStrict where
  reports := reports_boundedInteger b
  refusesNull := by
    intro a h
    cases (boundedInteger_eq_valid_iff.1 h).1

end Reader

namespace FormField

variable {R α : Type} {reader : Reader α} {set : R → α → R}

/--
Whether a field is filled by a strict reader and shows a datum that documents have.
-/
structure IsStrict (f : FormField R) : Prop where
  reports : f.Reports
  refusesNull : ∀ x y, f.fill x .null ≠ .valid y
  shows : ∀ x, ∃ leaf : Yaml.Leaf, f.value x = leaf.toValue

theorem IsStrict.of_fill {f : FormField R} (hfill : f.fill = fun x v => (reader v).map (set x))
    (hreader : reader.IsStrict) (hshows : ∀ x, ∃ leaf : Yaml.Leaf, f.value x = leaf.toValue)
    : f.IsStrict where
  reports := by
    intro x v
    rw [hfill]
    exact (hreader.reports v).map (set x)
  refusesNull := by
    intro x y hvalid
    rw [hfill] at hvalid
    obtain ⟨a, ha, _⟩ := Checked.map_eq_valid_iff.1 hvalid
    exact hreader.refusesNull a ha
  shows := hshows

end FormField

namespace Form

variable {R : Type} {fields : List (FormField R)} {usual x y : R} {given : List (String × Value)}

structure IsSection (fields : List (FormField R)) : Prop where
  names : AreFieldNames (fields.map (·.name))
  wellFormed : ∀ name ∈ fields.map (·.name), isWellFormed name = true
  strict : ∀ f ∈ fields, f.IsStrict

theorem IsSection.reports (h : IsSection fields) : ∀ f ∈ fields, f.Reports :=
  fun f hf => (h.strict f hf).reports

theorem IsSection.keeps {P : R → Prop} (h : IsSection fields) (hkeeps : ∀ f ∈ fields, f.Keeps P)
    (husual : P usual) (hread : read fields usual given = .valid x)
    : P x := by
  obtain ⟨_, _, hfills⟩ := (read_eq_valid_iff h.reports).1 hread
  exact hfills.keeps hkeeps husual

def Restores (fields : List (FormField R)) (usual x : R) : Prop :=
  Fills (fun f => some (f.value x)) fields usual x

theorem Fills.ne_null {given : FormField R → Option Value} (h : Fills given fields x y)
    (hstrict : ∀ f ∈ fields, f.IsStrict)
    : ∀ f ∈ fields, given f ≠ some .null := by
  induction h with
  | nil => nofun
  | filled hgiven hfill _ ih =>
    rw [List.forall_mem_cons] at hstrict ⊢
    refine ⟨?_, ih hstrict.2⟩
    intro hnull
    rw [hgiven, Option.some.injEq] at hnull
    exact hstrict.1.refusesNull _ _ (hnull ▸ hfill)
  | absent hgiven _ _ ih =>
    rw [List.forall_mem_cons] at hstrict ⊢
    refine ⟨?_, ih hstrict.2⟩
    rw [hgiven]
    nofun

section Shown

variable (hfields : IsSection fields) (hrestores : Restores fields usual x)
  (hgiven : ∀ f ∈ fields, Value.lookup? f.name given = some (f.value x).shown)

include hfields hrestores hgiven

theorem eq_of_read_shown (h : read fields usual given = .valid y)
    : y = x
        ∧ (∀ f ∈ fields, (f.value x).shown = f.value x)
        ∧ ∀ key ∈ given.map (·.1), key ∈ fields.map (·.name) := by
  obtain ⟨_, hknown, hfills⟩ := (read_eq_valid_iff hfields.reports).1 h
  have hshown : ∀ f ∈ fields, (f.value x).shown = f.value x := by
    intro f hf
    obtain ⟨leaf, hleaf⟩ := (hfields.strict f hf).shows x
    refine (Value.shown_eq_or hleaf).resolve_right fun hnull => ?_
    exact hfills.ne_null hfields.strict f hf (hnull ▸ hgiven f hf)
  refine ⟨?_, hshown, ?_⟩
  case refine_2 =>
    intro key hkey
    obtain ⟨e, he, rfl⟩ := List.mem_map.1 hkey
    exact List.mem_map.2 (unknownEntries_eq_nil_iff.1 hknown e he)
  have hown : Fills (fun f => some (f.value x)) fields usual y := by
    refine hfills.congr ?_
    intro f hf
    rw [hgiven f hf, hshown f hf]
  exact hown.unique hrestores

theorem read_shown (hshown : ∀ f ∈ fields, (f.value x).shown = f.value x)
    (hkeys : ∀ key ∈ given.map (·.1), key ∈ fields.map (·.name))
    : read fields usual given = .valid x := by
  rw [read_eq_valid_iff hfields.reports, unknownEntries_eq_nil_iff]
  refine ⟨?_, ?_, ?_⟩
  . intro e he
    exact hfields.wellFormed e.1 (hkeys e.1 (List.mem_map_of_mem he))
  . intro e he
    obtain ⟨f, hf, hname⟩ := List.mem_map.1 (hkeys e.1 (List.mem_map_of_mem he))
    exact ⟨f, hf, hname⟩
  . refine Fills.congr hrestores ?_
    intro f hf
    rw [hgiven f hf, hshown f hf]

end Shown

end Form

theorem RerankerSettings.isSection : Form.IsSection fields where
  names := ⟨nodup_names, by decide, by decide, by decide⟩
  wellFormed := by decide
  strict := by
    unfold fields
    simp only [List.forall_mem_cons]
    exact ⟨.of_fill rfl Reader.isStrict_member fun s => ⟨.text s.method.name, rfl⟩,
      .of_fill rfl Reader.isStrict_boundedReal fun s => ⟨.real s.rrfConstant, rfl⟩,
      .of_fill rfl Reader.isStrict_boundedReal fun s => ⟨.real s.linearWeight, rfl⟩,
      .of_fill rfl Reader.isStrict_boundedReal fun s => ⟨.real s.linearFill, rfl⟩,
      .of_fill rfl Reader.isStrict_boundedReal fun s => ⟨.real s.mrrWeightVector, rfl⟩,
      .of_fill rfl Reader.isStrict_boundedReal fun s => ⟨.real s.mrrWeightFts, rfl⟩,
      nofun⟩

namespace QuerySettings

structure InBounds (s : QuerySettings) : Prop where
  subSearchLimit : 0 < s.subSearchLimit
  timeout : Binary.zero.lt s.timeout = true

variable {s : QuerySettings} {es : List (String × Value)}

theorem isSection : Form.IsSection fields where
  names := ⟨by decide, by decide, by decide, by decide⟩
  wellFormed := by decide
  strict := by
    unfold fields
    simp only [List.forall_mem_cons]
    exact ⟨.of_fill rfl Reader.isStrict_boundedInteger fun s => ⟨.int s.subSearchLimit, rfl⟩,
      .of_fill rfl Reader.isStrict_boundedReal fun s => ⟨.real s.timeout, rfl⟩,
      .of_fill rfl Reader.isStrict_truth fun s => ⟨.bool s.concurrent, rfl⟩,
      nofun⟩

theorem inBounds_default : InBounds {} where
  subSearchLimit := by decide
  timeout := rfl

theorem keeps_inBounds : ∀ f ∈ fields, f.Keeps InBounds := by
  unfold fields
  simp only [List.forall_mem_cons]
  refine ⟨?subSearchLimit, ?timeout, ?concurrent, nofun⟩
  case subSearchLimit =>
    exact FormField.keeps_ofReader fun _ _ _ h hn =>
      { h with subSearchLimit := Reader.pos_of_boundedInteger hn }
  case timeout =>
    exact FormField.keeps_ofReader fun _ _ _ h hx =>
      { h with timeout := Reader.pos_of_boundedReal hx }
  case concurrent => exact FormField.keeps_ofReader fun _ _ _ h _ => { h with }

theorem restores (h : s.InBounds) : Form.Restores fields {} s := by
  have hlimit := Bounds.positive_broken?_int_iff.2 h.subSearchLimit
  have htimeout := Bounds.positive_broken?_iff.2 h.timeout
  refine Form.fills_field rfl (Reader.boundedInteger_int hlimit) ?_
  refine Form.fills_field rfl (Reader.boundedReal_real htimeout) ?_
  refine Form.fills_field rfl (Reader.truth_bool _) ?_
  exact .nil

end QuerySettings

namespace MilvusSettings

structure InBounds (s : MilvusSettings) : Prop where
  connectTimeout : Binary.zero.lt s.connectTimeout = true
  maxWorkers : 0 < s.maxWorkers
  dropRatio : ratioBounds.broken? s.dropRatio = none

variable {s : MilvusSettings} {es : List (String × Value)}

theorem isSection : Form.IsSection fields where
  names := ⟨by decide, by decide, by decide, by decide⟩
  wellFormed := by decide
  strict := by
    unfold fields
    simp only [List.forall_mem_cons]
    exact ⟨.of_fill rfl Reader.isStrict_text fun s => ⟨.text s.uri, rfl⟩,
      .of_fill rfl Reader.isStrict_text fun s => ⟨.text s.token, rfl⟩,
      .of_fill rfl Reader.isStrict_text fun s => ⟨.text s.database, rfl⟩,
      .of_fill rfl Reader.isStrict_boundedReal fun s => ⟨.real s.connectTimeout, rfl⟩,
      .of_fill rfl Reader.isStrict_text fun s => ⟨.text s.vectorField, rfl⟩,
      .of_fill rfl Reader.isStrict_text fun s => ⟨.text s.sparseField, rfl⟩,
      .of_fill rfl Reader.isStrict_text fun s => ⟨.text s.textField, rfl⟩,
      .of_fill rfl Reader.isStrict_member fun s => ⟨.text s.distanceMetric.name, rfl⟩,
      .of_fill rfl Reader.isStrict_boundedInteger fun s => ⟨.int s.maxWorkers, rfl⟩,
      .of_fill rfl Reader.isStrict_boundedReal fun s => ⟨.real s.dropRatio, rfl⟩,
      nofun⟩

theorem inBounds_default : InBounds {} where
  connectTimeout := rfl
  maxWorkers := by decide
  dropRatio := rfl

theorem keeps_inBounds : ∀ f ∈ fields, f.Keeps InBounds := by
  unfold fields
  simp only [List.forall_mem_cons]
  refine ⟨?uri, ?token, ?database, ?connectTimeout, ?vectorField, ?sparseField, ?textField,
    ?distanceMetric, ?maxWorkers, ?dropRatio, nofun⟩
  case connectTimeout =>
    exact FormField.keeps_ofReader fun _ _ _ h hx =>
      { h with connectTimeout := Reader.pos_of_boundedReal hx }
  case distanceMetric =>
    intro x v y h hfill
    obtain ⟨_, _, rfl⟩ := Checked.map_eq_valid_iff.1 hfill
    exact { h with }
  case maxWorkers =>
    exact FormField.keeps_ofReader fun _ _ _ h hn =>
      { h with maxWorkers := Reader.pos_of_boundedInteger hn }
  case dropRatio =>
    exact FormField.keeps_ofReader fun _ _ _ h hx =>
      { h with dropRatio := (Reader.boundedReal_eq_valid_iff.1 hx).2 }
  all_goals exact FormField.keeps_ofReader fun _ _ _ h _ => { h with }

theorem restores (h : s.InBounds) : Form.Restores fields {} s := by
  have htimeout := Bounds.positive_broken?_iff.2 h.connectTimeout
  have hworkers := Bounds.positive_broken?_int_iff.2 h.maxWorkers
  refine Form.fills_field rfl (Reader.text_text _) ?_
  refine Form.fills_field rfl (Reader.text_text _) ?_
  refine Form.fills_field rfl (Reader.text_text _) ?_
  refine Form.fills_field rfl (Reader.boundedReal_real htimeout) ?_
  refine Form.fills_field rfl (Reader.text_text _) ?_
  refine Form.fills_field rfl (Reader.text_text _) ?_
  refine Form.fills_field rfl (Reader.text_text _) ?_
  refine Form.fills_field rfl (Reader.member_text (DistanceMetric.ofName?_name _)) ?_
  refine Form.fills_field rfl (Reader.boundedInteger_int hworkers) ?_
  refine Form.fills_field rfl (Reader.boundedReal_real h.dropRatio) ?_
  exact .nil

end MilvusSettings

namespace MonitoringSettings

structure InBounds (s : MonitoringSettings) : Prop where
  logLevel : s.logLevel ∈ levels.map (·.1)
  historySize : 0 < s.historySize

variable {s : MonitoringSettings} {es : List (String × Value)} {level : String}

theorem mem_levels_of_readLevel {v : Value} (h : readLevel v = .valid level)
    : level ∈ levels.map (·.1) := by
  obtain ⟨_, _, h⟩ := Checked.bind_eq_valid_iff.1 h
  obtain ⟨hmem, rfl⟩ := Checked.require_eq_valid_iff.1 h
  exact of_decide_eq_true hmem

theorem readLevel_text (h : level ∈ levels.map (·.1)) : readLevel (.text level) = .valid level := by
  have heach : ∀ name ∈ levels.map (·.1),
      String.ofList (name.toList.map capital) = name := by decide
  refine Checked.bind_eq_valid_iff.2 ⟨level, Reader.text_text level, ?_⟩
  dsimp only
  rw [heach level h]
  exact Checked.require_eq_valid_iff.2 ⟨decide_eq_true h, rfl⟩

theorem isStrict_readLevel : readLevel.IsStrict where
  reports := by
    intro v
    exact (Reader.reports_text v).bind fun _ => Checked.reported_require
  refusesNull := nofun

theorem isSection : Form.IsSection fields where
  names := ⟨by decide, by decide, by decide, by decide⟩
  wellFormed := by decide
  strict := by
    unfold fields
    simp only [List.forall_mem_cons]
    exact ⟨.of_fill rfl isStrict_readLevel fun s => ⟨.text s.logLevel, rfl⟩,
      .of_fill rfl Reader.isStrict_truth fun s => ⟨.bool s.enableMetrics, rfl⟩,
      .of_fill rfl Reader.isStrict_boundedInteger fun s => ⟨.int s.historySize, rfl⟩,
      nofun⟩

theorem inBounds_default : InBounds {} where
  logLevel := by decide
  historySize := by decide

theorem keeps_inBounds : ∀ f ∈ fields, f.Keeps InBounds := by
  unfold fields
  simp only [List.forall_mem_cons]
  refine ⟨?logLevel, ?enableMetrics, ?historySize, nofun⟩
  case logLevel =>
    exact FormField.keeps_ofReader fun _ _ _ h hlevel =>
      { h with logLevel := mem_levels_of_readLevel hlevel }
  case enableMetrics => exact FormField.keeps_ofReader fun _ _ _ h _ => { h with }
  case historySize =>
    exact FormField.keeps_ofReader fun _ _ _ h hn =>
      { h with historySize := Reader.pos_of_boundedInteger hn }

theorem restores (h : s.InBounds) : Form.Restores fields {} s := by
  have hsize := Bounds.positive_broken?_int_iff.2 h.historySize
  refine Form.fills_field rfl (readLevel_text h.logLevel) ?_
  refine Form.fills_field rfl (Reader.truth_bool _) ?_
  refine Form.fills_field rfl (Reader.boundedInteger_int hsize) ?_
  exact .nil

end MonitoringSettings

end RankFusion
