import RankFusion.Proofs.Except
import RankFusion.Proofs.Settings.Entries
import RankFusion.Settings.Basic

/-!
This module contains how given entries and those of the sources come together. Whatever the sources
have, the given entries are put into it, and without options only the environment is looked at.
-/

namespace RankFusion

namespace SearchOptions

variable {es : List (String × Value)} {firstField start : String} {separator : Option String}

theorem requireReceiver_of_no_options (h : HasNoOptions es) : requireReceiver es = .ok () := by
  have hnone : Value.lookup? settingsReceiver es = none := by
    rw [Value.lookup?_eq_none_iff]
    intro hmem
    obtain ⟨e, he, hkey⟩ := List.mem_map.1 hmem
    exact (h e he).2 hkey
  unfold requireReceiver
  rw [hnone]
  rfl

theorem ofEntries_of_no_options (h : HasNoOptions es)
    : ofEntries { start, separator } firstField es = .ok { start, separator } := by
  have hnone : ∀ name ∈ names, Value.lookup? name es = none := by
    intro name hname
    rw [Value.lookup?_eq_none_iff]
    intro hmem
    obtain ⟨e, he, rfl⟩ := List.mem_map.1 hmem
    exact (h e he).1 hname
  unfold ofEntries startsFields flag option? Value.lookup
  simp only [hnone "_env_nested_max_split" (by decide), hnone "_env_prefix" (by decide),
    hnone "_env_prefix_target" (by decide), hnone "_case_sensitive" (by decide),
    hnone "_env_ignore_empty" (by decide), hnone "_env_nested_delimiter" (by decide),
    hnone "_env_parse_none_str" (by decide), hnone "_env_parse_enums" (by decide),
    hnone "_env_file" (by decide), hnone "_secrets_dir" (by decide)]
  rfl

end SearchOptions

namespace Sources

variable {o : SearchOptions} {form : FormOutline} {around : Surroundings}

theorem sectionValue_nil {source : String} {f : FieldName}
    : Variables.sectionValue o source [] f = .ok none := by
  have hnested : Variables.nestedValues o [] f.name f.fields = [] := by
    unfold Variables.nestedValues
    split
    . rfl
    . rfl
  unfold Variables.sectionValue
  rw [hnested]
  rfl

theorem exists_of_sectionValue {source : String} {vars : Variables} {f : FieldName}
    {es : List (String × Value)} (hcase : o.caseSensitive = false) (habsent : o.absentText = none)
    (h : vars.sectionValue o source f = .ok (some (.dict es)))
    : ∃ es', es = Variables.canonicalEntries f.fields es' := by
  unfold Variables.sectionValue Variables.canonicalValue at h
  dsimp only at h
  rw [hcase, habsent] at h
  split at h
  . split at h
    . cases h
    . cases h
      exact ⟨_, rfl⟩
  . rw [if_neg (by nofun)] at h
    split at h
    . cases h
    . cases h
    . rw [Variables.update] at h
      cases h
      exact ⟨_, rfl⟩
    . next hdict _ =>
      cases h
      exact absurd rfl (hdict es)

theorem fieldValues_of_sections {source : String} {vars : Variables}
    {value? : FieldName → Option Value} (hsections : form.hasSections = true)
    (h : ∀ f ∈ form.fields, vars.sectionValue o source f = .ok (value? f))
    : fieldValues o form source vars =
        .ok (form.fields.filterMap fun f => (value? f).map fun v => (f.name, v)) := by
  have hfound : (form.fields.mapM fun f => do
        return (← vars.sectionValue o source f).map fun v => (f.name, v)) =
      .ok (form.fields.map fun f => (value? f).map fun v => (f.name, v)) := by
    rw [List.mapM_eq_ok_iff, List.forall₂_map_right_iff, List.forall₂_same]
    intro f hf
    rw [h f hf]
    rfl
  unfold fieldValues
  rw [if_pos hsections, hfound]
  exact congrArg Except.ok (List.filterMap_map ..)

theorem exists_of_fieldValues {source : String} {vars : Variables} {es : List (String × Value)}
    (hsections : form.hasSections = true) (h : fieldValues o form source vars = .ok es)
    : ∃ value? : FieldName → Option Value,
        ∀ f ∈ form.fields, vars.sectionValue o source f = .ok (value? f) := by
  unfold fieldValues at h
  rw [if_pos hsections] at h
  obtain ⟨found, hfound, _⟩ := Except.bind_eq_ok_iff.1 h
  have heach := List.exists_mapM_iff.1 ⟨found, hfound⟩
  refine ⟨fun f => (vars.sectionValue o source f).toOption.join, ?_⟩
  intro f hf
  obtain ⟨_, hvalue⟩ := heach f hf
  obtain ⟨v?, hv, _⟩ := Except.bind_eq_ok_iff.1 hvalue
  dsimp only
  rw [hv]
  rfl

theorem fieldValues_nil {source : String} : fieldValues o form source [] = .ok [] := by
  cases hsections : form.hasSections with
  | true =>
    rw [fieldValues_of_sections hsections fun _ _ => sectionValue_nil]
    simp
  | false =>
    unfold fieldValues Variables.ownValues Variables.text?
    rw [hsections]
    simp

theorem keys_ownValues_sublist {vars : Variables} {fields : List FieldName}
    : ((vars.ownValues o fields).map (·.1)).Sublist (fields.map (·.name)) := by
  have hkeys := Value.keys_filterMap_sublist FieldName.name
    (fun f => (vars.text? (o.fold (o.start ++ f.name))).map (Variables.datum o f.members)) fields
  simp only [Option.map_map] at hkeys
  exact hkeys

theorem values_of_no_files (hfiles : o.variableFiles = .null)
    (hsecrets : o.secretDirectories = .null)
    : values o form around =
        Variables.updateEntries []
          <$> fieldValues o form SearchOptions.environmentSource
            (.ofEnvironment o around.environment) := by
  have hgather : gather o around =
      .ok { environment := .ofEnvironment o around.environment, files := [] } := by
    unfold gather fileVariables
    rw [hfiles]
    rfl
  have hnone : requireSecrets o around = .ok () := by
    unfold requireSecrets
    rw [hsecrets]
    rfl
  unfold values
  simp only [hgather, Except.ok_bind, fieldValues_nil, hnone, map_eq_pure_bind]
  rfl

end Sources

namespace Settings

variable {around : Surroundings} {form : FormOutline} {es given : List (String × Value)}
  {start : String} {separator : Option String}

theorem completeEntries_of_no_options (h : HasNoOptions es)
    : completeEntries around { start, separator } form es =
        (fun found => Variables.updateEntries (Variables.updateEntries [] found)
          (formEntries (form.fields.map (·.name)) es))
          <$> Sources.fieldValues { start, separator } form SearchOptions.environmentSource
            (.ofEnvironment { start, separator } around.environment) := by
  unfold completeEntries
  rw [SearchOptions.requireReceiver_of_no_options h]
  simp only [Except.ok_bind, SearchOptions.ofEntries_of_no_options h]
  rw [Sources.values_of_no_files rfl rfl, map_eq_pure_bind, map_eq_pure_bind, bind_assoc]
  rfl

def environmentValue (o : SearchOptions) (env : Environment) (f : FieldName) :
    Except Failure (Option Value) :=
  (Variables.ofEnvironment o env).sectionValue o SearchOptions.environmentSource f

theorem entriesOf_environmentValue {env : Environment} {f : FieldName} {v? : Option Value}
    (hnames : AreFieldNames (f.fields.map (·.name)))
    (h : environmentValue { start, separator } env f = .ok v?)
    : ((Variables.entriesOf v?).map (·.1)).Nodup
        ∧ InFieldCase (f.fields.map (·.name)) (Variables.entriesOf v?) := by
  cases v? with
  | none => exact ⟨List.nodup_nil, nofun⟩
  | some v =>
    cases v with
    | dict es =>
      obtain ⟨es, rfl⟩ := Sources.exists_of_sectionValue rfl rfl h
      exact ⟨nodup_keys_canonicalEntries, inFieldCase_canonicalEntries hnames⟩
    | _ => exact ⟨List.nodup_nil, nofun⟩

variable {name : String} {v : Value}

theorem mem_keys_of_completeEntries {usual : SearchOptions}
    (h : completeEntries around usual form es = .ok given)
    (hname : name ∈ (formEntries (form.fields.map (·.name)) es).map (·.1))
    : name ∈ given.map (·.1) := by
  obtain ⟨_, h⟩ := Except.bind_unit_eq_ok_iff.1 h
  obtain ⟨_, _, h⟩ := Except.bind_eq_ok_iff.1 h
  obtain ⟨found, _, h⟩ := Except.bind_eq_ok_iff.1 h
  rw [← Except.pure_eq_ok_iff.1 h, Variables.mem_keys_updateEntries]
  exact .inr hname

section Given

variable {usual : SearchOptions} (hnames : AreFieldNames (form.fields.map (·.name)))
  (hkeys : (es.map (·.1)).Nodup) (hcase : InFieldCase (form.fields.map (·.name)) es)

include hnames hkeys hcase

theorem exists_of_completeEntries (h : completeEntries around usual form es = .ok given)
    (hname : name ∈ form.fields.map (·.name)) (hvalue : Value.lookup? name es = some v)
    : ∃ w, Value.lookup? name given = some (Variables.update w v) := by
  obtain ⟨_, h⟩ := Except.bind_unit_eq_ok_iff.1 h
  obtain ⟨_, _, h⟩ := Except.bind_eq_ok_iff.1 h
  obtain ⟨found, _, h⟩ := Except.bind_eq_ok_iff.1 h
  rw [← lookup?_formEntries hnames hcase hname] at hvalue
  refine ⟨(Value.lookup? name found).getD .null, ?_⟩
  rw [← Except.pure_eq_ok_iff.1 h]
  exact Variables.lookup?_updateEntries (nodup_keys_formEntries hnames hkeys) hvalue

theorem lookup?_of_completeEntries (hsections : form.hasSections = true) (hfree : HasNoOptions es)
    (h : completeEntries around { start, separator } form es = .ok given) {f : FieldName}
    (hf : f ∈ form.fields) (hvalue : Value.lookup? f.name es = some v)
    : ∃ v?, environmentValue { start, separator } around.environment f = .ok v?
        ∧ Value.lookup? f.name given = some (Variables.update (v?.getD .null) v) := by
  rw [completeEntries_of_no_options hfree, map_eq_pure_bind] at h
  obtain ⟨found, hfound, h⟩ := Except.bind_eq_ok_iff.1 h
  obtain ⟨value?, hvalues⟩ := Sources.exists_of_fieldValues hsections hfound
  rw [Sources.fieldValues_of_sections hsections hvalues] at hfound
  cases hfound
  refine ⟨value? f, hvalues f hf, ?_⟩
  rw [← lookup?_formEntries hnames hcase (List.mem_map_of_mem hf)] at hvalue
  rw [← Except.pure_eq_ok_iff.1 h,
    Variables.lookup?_updateEntries (nodup_keys_formEntries hnames hkeys) hvalue,
    Variables.updateEntries_nil (hnames.nodup.sublist (Value.keys_filterMap_sublist ..)),
    Value.lookup?_filterMap _ _ hnames.nodup hf]

end Given

theorem exists_completeEntries (around : Surroundings) (form : FormOutline) (start : String)
    (separator : Option String) (hfree : HasNoOptions es)
    (h : form.hasSections = true →
      ∀ f ∈ form.fields, ∃ v?,
        environmentValue { start, separator } around.environment f = .ok v?)
    : ∃ given, completeEntries around { start, separator } form es = .ok given
        ∧ ∀ key ∈ given.map (·.1), key ∈ form.fields.map (·.name) ∨ key ∈ es.map (·.1) := by
  obtain ⟨found, hfound, hnames⟩ : ∃ found,
      Sources.fieldValues { start, separator } form SearchOptions.environmentSource
          (.ofEnvironment { start, separator } around.environment) = .ok found
        ∧ (found.map (·.1)).Sublist (form.fields.map (·.name)) := by
    cases hsections : form.hasSections with
    | false =>
      unfold Sources.fieldValues
      rw [hsections]
      exact ⟨_, rfl, Sources.keys_ownValues_sublist⟩
    | true =>
      choose! value? hvalues using h hsections
      exact ⟨_, Sources.fieldValues_of_sections hsections hvalues,
        Value.keys_filterMap_sublist ..⟩
  rw [completeEntries_of_no_options hfree, hfound]
  refine ⟨_, rfl, ?_⟩
  intro key hkey
  rw [Variables.mem_keys_updateEntries, Variables.mem_keys_updateEntries] at hkey
  obtain (hnil | hown) | hgiven := hkey
  . cases hnil
  . exact .inl (hnames.subset hown)
  . exact mem_keys_formEntries hgiven

end Settings

end RankFusion
