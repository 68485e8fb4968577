import RankFusion.Proofs.Settings.Document

/-!
This module contains settings that are saved and loaded back. In every environment nothing but the
saved settings comes back, and they do if their numbers are finite and the environment has nothing
for their sections but values of known fields.
-/

namespace RankFusion

structure Files.IsName (name : String) : Prop where
  single : name.splitOn "/" = [name]
  nonempty : name ≠ ""
  notCurrent : name ≠ "."
  notParent : name ≠ ".."
  noNull : '\x00' ∉ name.toList

theorem Files.place_cons {files : Files} {name text : String} (h : IsName name)
    : place ((name, text) :: files) name = .file text := by
  have hwalk : walk ((name, text) :: files) true [name] = .file text := by
    rw [walk, if_neg (not_or.2 ⟨h.nonempty, h.notCurrent⟩), if_neg h.notParent, if_pos rfl,
      List.lookup_cons_self]
    rfl
  unfold place
  rw [h.single]
  split
  . next heq => exact absurd (List.singleton_injective heq) h.nonempty
  . next heq => exact absurd (List.cons.inj heq).1 h.nonempty
  . exact hwalk

namespace Settings

def HasOnlyFor (f : FieldName) (others : List String) (env : Environment) : Prop :=
  ∃ v?, environmentValue search env f = .ok v?
    ∧ ∀ key ∈ (Variables.entriesOf v?).map (·.1), key ∈ f.fields.map (·.name) ∨ key ∈ others

def HasOnly (others : List String) (env : Environment) : Prop :=
  ∀ f ∈ outline.fields, HasOnlyFor f others env

structure InBounds (s : Settings) : Prop where
  reranker : s.reranker.InBounds
  query : s.query.InBounds
  milvus : s.milvus.InBounds
  monitoring : s.monitoring.InBounds

variable {R : Type} {s t : Settings} {around : Surroundings} {es given : List (String × Value)}

theorem inBounds_of_read (h : read around es = .ok s) : s.InBounds := by
  obtain ⟨given, d₁, d₂, d₃, d₄, _, hreranker, hquery, hmilvus, hmonitoring, _, rfl⟩ :=
    exists_of_read h
  refine takeSection_keeps hmonitoring ?_ fun _ _ _ ht hread => { ht with
    monitoring := MonitoringSettings.isSection.keeps MonitoringSettings.keeps_inBounds
      MonitoringSettings.inBounds_default hread }
  refine takeSection_keeps hmilvus ?_ fun _ _ _ ht hread => { ht with
    milvus := MilvusSettings.isSection.keeps MilvusSettings.keeps_inBounds
      MilvusSettings.inBounds_default hread }
  refine takeSection_keeps hquery ?_ fun _ _ _ ht hread => { ht with
    query := QuerySettings.isSection.keeps QuerySettings.keeps_inBounds
      QuerySettings.inBounds_default hread }
  refine takeSection_keeps hreranker ?_ fun _ _ _ ht hread => { ht with
    reranker := RerankerSettings.isSection.keeps RerankerSettings.keeps_inBounds
      RerankerSettings.inBounds_default hread }
  exact ⟨RerankerSettings.inBounds_default, QuerySettings.inBounds_default,
    MilvusSettings.inBounds_default, MonitoringSettings.inBounds_default⟩

section Section

variable {name : String} {fields : List (FormField R)} {usual x : R} {env : List (String × Value)}
  {set : Settings → R → Settings} {d d' : Draft}

theorem names_fieldNames : (fieldNames fields).map (·.name) = fields.map (·.name) := by
  unfold fieldNames
  rw [List.map_map]
  rfl

def sectionOutline (name : String) (fields : List (FormField R)) : FieldName :=
  { name, fields := fieldNames fields }

def IsGiven (env : Environment) (name : String) (fields : List (FormField R)) (x : R)
    (given : List (String × Value)) : Prop :=
  ∃ v?, environmentValue search env (sectionOutline name fields) = .ok v?
    ∧ Value.lookup? name given =
      some (.dict (Variables.updateEntries (Variables.entriesOf v?) (shownEntries fields x)))

section Taken

variable (hfields : Form.IsSection fields)

include hfields

section Completed

variable {env : Environment} {v? : Option Value} {shown : List (String × Value)}
  (hvalue : environmentValue search env (sectionOutline name fields) = .ok v?)
  (h : completeEntries around (sectionSearch name)
    { fields := fieldNames fields, hasSections := false }
    (Variables.updateEntries (Variables.entriesOf v?) (shownEntries fields x)) = .ok shown)

include hvalue h

theorem lookup?_of_completed
    : ∀ f ∈ fields, Value.lookup? f.name shown = some (f.value x).shown := by
  intro f hf
  have hnames : AreFieldNames ((fieldNames fields).map (·.name)) := names_fieldNames ▸ hfields.names
  have hown : ∀ key ∈ (shownEntries fields x).map (·.1),
      key ∈ (fieldNames fields).map (·.name) := by
    intro key hkey
    rw [names_fieldNames]
    exact keys_shownEntries_perm.mem_iff.1 hkey
  obtain ⟨hnodup, hcase⟩ := entriesOf_environmentValue hnames hvalue
  have hcase := hcase.updateEntries (inFieldCase_of_names hnames hown)
  have hshown : Value.lookup? f.name
      (Variables.updateEntries (Variables.entriesOf v?) (shownEntries fields x)) =
        some (f.value x).shown := by
    rw [Variables.lookup?_updateEntries (keys_shownEntries_perm.nodup_iff.2 hfields.names.nodup)
        (lookup?_shownEntries hfields.names.nodup hf),
      Variables.update_of_not_dict fun _ => Value.shown_ne_dict]
  obtain ⟨w, hw⟩ := exists_of_completeEntries hnames (Variables.nodup_keys_updateEntries hnodup)
    hcase h (names_fieldNames ▸ List.mem_map_of_mem hf) hshown
  rw [hw, Variables.update_of_not_dict fun _ => Value.shown_ne_dict]

theorem hasOnlyFor_of_completed (hknown : ∀ key ∈ shown.map (·.1), key ∈ fields.map (·.name))
    : HasOnlyFor (sectionOutline name fields) SearchOptions.names env := by
  have hnames : AreFieldNames ((fieldNames fields).map (·.name)) := names_fieldNames ▸ hfields.names
  obtain ⟨_, hcase⟩ := entriesOf_environmentValue hnames hvalue
  refine ⟨v?, hvalue, ?_⟩
  intro key hkey
  by_cases hoption : key ∈ SearchOptions.names
  . exact .inr hoption
  . refine .inl ?_
    by_cases hlower : lowerText key ∈ (fieldNames fields).map (·.name)
    . rw [← hcase key hkey hlower]
      exact hlower
    . have hcompleted := mem_keys_of_completeEntries h (mem_keys_formEntries_of_unknown
        (Variables.mem_keys_updateEntries.2 (.inl hkey)) hoption hlower)
      exact names_fieldNames ▸ hknown key hcompleted

end Completed

variable {env : Environment} (hgiven : IsGiven env name fields x given)
  (hrestores : Form.Restores fields usual x)

include hgiven hrestores

theorem settings_of_takeSection (h : takeSection around name fields usual set given d = .ok d')
    (hissues : d'.issues = [])
    : d.issues = []
        ∧ d'.settings = set d.settings x
        ∧ (∀ f ∈ fields, (f.value x).shown = f.value x)
        ∧ HasOnlyFor (sectionOutline name fields) SearchOptions.names env := by
  obtain ⟨v?, hvalue, hlookup⟩ := hgiven
  obtain ⟨y, hread, hd, hsettings⟩ := exists_of_takeSection hlookup h hissues
  obtain ⟨shown, hcomplete, hvalid⟩ := readSection_eq_ok_iff.1 hread
  obtain ⟨rfl, hshown, hknown⟩ := Form.eq_of_read_shown hfields hrestores
    (lookup?_of_completed hfields hvalue hcomplete) hvalid
  exact ⟨hd, hsettings, hshown, hasOnlyFor_of_completed hfields hvalue hcomplete hknown⟩

theorem takeSection_of_shown (hquiet : HasOnlyFor (sectionOutline name fields) [] env)
    (hshown : ∀ f ∈ fields, (f.value x).shown = f.value x)
    : takeSection around name fields usual set given d =
        .ok { d with settings := set d.settings x } := by
  obtain ⟨v?, hvalue, hlookup⟩ := hgiven
  obtain ⟨w?, hw, hquiet⟩ := hquiet
  cases hvalue.symm.trans hw
  have hown : ∀ key ∈ (Variables.updateEntries (Variables.entriesOf v?)
      (shownEntries fields x)).map (·.1), key ∈ fields.map (·.name) := by
    intro key hkey
    obtain hkey | hkey := Variables.mem_keys_updateEntries.1 hkey
    . obtain hname | hnil := hquiet key hkey
      . exact names_fieldNames ▸ hname
      . cases hnil
    . exact keys_shownEntries_perm.mem_iff.1 hkey
  obtain ⟨shown, hcomplete, hkeys⟩ := exists_completeEntries around
    { fields := fieldNames fields, hasSections := false } (sectionSearch name).start none
    (hfields.names.hasNoOptions hown) nofun
  refine takeSection_of_read hlookup (readSection_eq_ok_iff.2 ⟨shown, hcomplete, ?_⟩)
  refine Form.read_shown hfields hrestores
    (lookup?_of_completed hfields hvalue hcomplete) hshown ?_
  intro key hkey
  obtain hname | hkey := hkeys key hkey
  . exact names_fieldNames ▸ hname
  . exact hown key hkey

end Taken

end Section

/--
Whether what is given for all sections is what a document shows of them.
-/
structure AreGiven (env : Environment) (s : Settings) (given : List (String × Value)) : Prop where
  reranker : IsGiven env "reranker" RerankerSettings.fields s.reranker given
  query : IsGiven env "query" QuerySettings.fields s.query given
  milvus : IsGiven env "milvus" MilvusSettings.fields s.milvus given
  monitoring : IsGiven env "monitoring" MonitoringSettings.fields s.monitoring given

section Completed

variable (h : completeEntries around search outline s.content = .ok given)

include h

theorem isGiven_of_completeEntries {name : String} {fields : List (FormField R)} {x : R}
    (hfields : Form.IsSection fields) (hname : sectionOutline name fields ∈ outline.fields)
    (hdocument : (name, (Form.entries fields x).map fun f => (f.1, .ofValue f.2)) ∈ s.document)
    : IsGiven around.environment name fields x given := by
  have hkeys := keys_content_perm (s := s).nodup_iff.2 areFieldNames_sections.nodup
  have hcase := inFieldCase_of_names areFieldNames_sections (mem_sectionNames_of_content (s := s))
  obtain ⟨v?, henv, hlookup⟩ := lookup?_of_completeEntries areFieldNames_sections hkeys hcase rfl
    (areFieldNames_sections.hasNoOptions mem_sectionNames_of_content) h hname
    (lookup?_content hdocument)
  have hnodup := keys_shownEntries_perm (x := x).nodup_iff.2 hfields.names.nodup
  exact ⟨v?, henv, hlookup.trans (congrArg some (Variables.update_dict hnodup))⟩

theorem areGiven_of_completeEntries : AreGiven around.environment s given where
  reranker := isGiven_of_completeEntries h RerankerSettings.isSection
    (by simp [outline, sectionOutline]) (by simp [document, sections])
  query := isGiven_of_completeEntries h QuerySettings.isSection
    (by simp [outline, sectionOutline]) (by simp [document, sections])
  milvus := isGiven_of_completeEntries h MilvusSettings.isSection
    (by simp [outline, sectionOutline]) (by simp [document, sections])
  monitoring := isGiven_of_completeEntries h MonitoringSettings.isSection
    (by simp [outline, sectionOutline]) (by simp [document, sections])

end Completed

theorem hasOnly_iff {others : List String} {env : Environment}
    : HasOnly others env
        ↔
      HasOnlyFor (sectionOutline "reranker" RerankerSettings.fields) others env
        ∧ HasOnlyFor (sectionOutline "query" QuerySettings.fields) others env
        ∧ HasOnlyFor (sectionOutline "milvus" MilvusSettings.fields) others env
        ∧ HasOnlyFor (sectionOutline "monitoring" MonitoringSettings.fields) others env := by
  unfold HasOnly outline
  simp only [List.forall_mem_cons]
  simp [sectionOutline]

theorem eq_of_read_content (hbounds : s.InBounds) (h : read around s.content = .ok t)
    : t = s ∧ s.IsFinite ∧ HasOnly SearchOptions.names around.environment := by
  obtain ⟨given, d₁, d₂, d₃, d₄, hgiven, h₁, h₂, h₃, h₄, hissues, rfl⟩ := exists_of_read h
  have hsections := areGiven_of_completeEntries hgiven
  obtain ⟨hissues, hs₄, hshown₄, henv₄⟩ := settings_of_takeSection MonitoringSettings.isSection
    hsections.monitoring (MonitoringSettings.restores hbounds.monitoring) h₄ hissues
  obtain ⟨hissues, hs₃, hshown₃, henv₃⟩ := settings_of_takeSection MilvusSettings.isSection
    hsections.milvus (MilvusSettings.restores hbounds.milvus) h₃ hissues
  obtain ⟨hissues, hs₂, hshown₂, henv₂⟩ := settings_of_takeSection QuerySettings.isSection
    hsections.query (QuerySettings.restores hbounds.query) h₂ hissues
  obtain ⟨_, hs₁, hshown₁, henv₁⟩ := settings_of_takeSection RerankerSettings.isSection
    hsections.reranker (RerankerSettings.fills_entries hbounds.reranker) h₁ hissues
  refine ⟨?_, isFinite_iff.2 ⟨hshown₁, hshown₂, hshown₃, hshown₄⟩,
    hasOnly_iff.2 ⟨henv₁, henv₂, henv₃, henv₄⟩⟩
  rw [hs₄, hs₃, hs₂, hs₁]

theorem read_content (hbounds : s.InBounds) (hfinite : s.IsFinite)
    (hquiet : HasOnly [] around.environment)
    : read around s.content = .ok s := by
  obtain ⟨given, hgiven, hkeys⟩ := exists_completeEntries around outline search.start
    search.separator (areFieldNames_sections.hasNoOptions (mem_sectionNames_of_content (s := s)))
    fun _ f hf => (hquiet f hf).imp fun _ h => h.1
  have hnames : ∀ key ∈ given.map (·.1), key ∈ sectionNames := by
    intro key hkey
    obtain hname | hname := hkeys key hkey
    . exact hname
    . exact mem_sectionNames_of_content key hname
  have hunknown : (given.filter fun e => e.1 ∉ sectionNames) = [] := by
    rw [List.filter_eq_nil_iff]
    intro e he
    simpa using hnames e.1 (List.mem_map_of_mem he)
  have hformed : (given.all fun e => isWellFormed e.1) = true := by
    rw [List.all_eq_true]
    intro e he
    exact isWellFormed_sections e.1 (hnames e.1 (List.mem_map_of_mem he))
  have hcomplete : completeEntries around search outline s.content = .ok given := hgiven
  have hsections := areGiven_of_completeEntries hcomplete
  obtain ⟨h₁, h₂, h₃, h₄⟩ := isFinite_iff.1 hfinite
  obtain ⟨henv₁, henv₂, henv₃, henv₄⟩ := hasOnly_iff.1 hquiet
  unfold read
  rw [hcomplete]
  simp only [Except.ok_bind,
    takeSection_of_shown RerankerSettings.isSection hsections.reranker
      (RerankerSettings.fills_entries hbounds.reranker) henv₁ h₁,
    takeSection_of_shown QuerySettings.isSection hsections.query
      (QuerySettings.restores hbounds.query) henv₂ h₂,
    takeSection_of_shown MilvusSettings.isSection hsections.milvus
      (MilvusSettings.restores hbounds.milvus) henv₃ h₃,
    takeSection_of_shown MonitoringSettings.isSection hsections.monitoring
      (MonitoringSettings.restores hbounds.monitoring) henv₄ h₄,
    hunknown, hformed]
  rfl

section Saved

variable {files : Files} {name : String}

theorem content_ne_nil : s.content ≠ [] := by
  intro h
  have hkeys := keys_content_perm (s := s)
  rw [h] at hkeys
  exact absurd hkeys.length_eq (by decide)

theorem fileEntries_toYaml {path : Value} (hyaml : Yaml.read s.toYaml = .ok (.dict s.content))
    : fileEntries path s.toYaml = .ok s.content := by
  have htruthy : (Value.dict s.content).isTruthy = true := by
    simpa [Value.isTruthy] using content_ne_nil
  unfold fileEntries
  rw [hyaml]
  dsimp only
  rw [htruthy]
  rfl

theorem load_of_save (hyaml : Yaml.read s.toYaml = .ok (.dict s.content))
    (hname : Files.IsName name) (hfiles : around.files = s.save files name)
    : load around (.text name) = read around s.content := by
  have hplace : around.files.place name = .file s.toYaml := hfiles ▸ Files.place_cons hname
  have htruthy : (Value.text name).isTruthy = true := by
    simpa [Value.isTruthy] using hname.nonempty
  have hpresent : around.files.isPresent (.text name) = .ok true := by
    unfold Files.isPresent Files.path?
    dsimp only
    rw [hplace]
  have htext : around.files.read (.text name) = .ok s.toYaml := by
    unfold Files.read Files.path?
    dsimp only
    rw [hplace, if_neg (by simpa using hname.noNull)]
  unfold load ofFile
  rw [if_pos htruthy, hpresent, htext]
  simp only [Except.ok_bind, fileEntries_toYaml hyaml]
  rw [if_pos trivial]

/--
Settings that are saved under a name and loaded from there are the same settings or none, whatever
is in the environment. They are loaded unless one of their numbers is infinite, for which the file
has no value, or the environment has something for a section that is no field of it.
-/
theorem load_saved {made : Surroundings} {es : List (String × Value)} (hread : read made es = .ok s)
    (hyaml : Yaml.read s.toYaml = .ok (.dict s.content)) (hname : Files.IsName name)
    (hfiles : around.files = s.save files name)
    : (∀ t, load around (.text name) = .ok t →
          t = s ∧ s.IsFinite ∧ HasOnly SearchOptions.names around.environment)
        ∧ (s.IsFinite → HasOnly [] around.environment → load around (.text name) = .ok s) := by
  rw [load_of_save hyaml hname hfiles]
  exact ⟨fun t h => eq_of_read_content (inBounds_of_read hread) h,
    read_content (inBounds_of_read hread)⟩

end Saved

section Sample

theorem readsBack_usual : readsBack {} = true := by decide +kernel

def chosen : Settings where
  reranker := { method := .linear, linearWeight := Decimal.read false 5 (-1) }
  query := { concurrent := false }
  milvus := { uri := "http://milvus:19530", maxWorkers := 8 }
  monitoring := { historySize := 10 }

theorem isFinite_chosen : chosen.IsFinite := by
  rw [isFinite_iff]
  unfold RerankerSettings.fields QuerySettings.fields MilvusSettings.fields
    MonitoringSettings.fields
  simp only [List.forall_mem_cons]
  exact ⟨⟨rfl, rfl, rfl, rfl, rfl, rfl, nofun⟩, ⟨rfl, rfl, rfl, nofun⟩,
    ⟨rfl, rfl, rfl, rfl, rfl, rfl, rfl, rfl, rfl, rfl, nofun⟩, ⟨rfl, rfl, rfl, nofun⟩⟩

theorem inBounds_chosen : chosen.InBounds where
  reranker := { RerankerSettings.inBounds_default with linearWeight := ⟨rfl, rfl⟩ }
  query := { QuerySettings.inBounds_default with }
  milvus := { MilvusSettings.inBounds_default with maxWorkers := by decide }
  monitoring := { MonitoringSettings.inBounds_default with historySize := by decide }

theorem splitOn_single : "s".splitOn "/" = ["s"] := by
  -- Splitting is not structural, so each of its two steps is unfolded by its equation.
  unfold String.splitOn
  rw [if_neg (by decide)]
  unfold String.splitOnAux
  rw [if_neg (by decide), if_neg (by decide)]
  unfold String.splitOnAux
  rw [if_pos (by decide)]
  decide

theorem isName_single : Files.IsName "s" :=
  ⟨splitOn_single, by decide, by decide, by decide, by decide⟩

/-- Settings are loaded back, although the environment has another timeout. -/
theorem load_saved_chosen
    : let around : Surroundings :=
        { environment := [("HYBRID_QUERY__TIMEOUT", "5")], files := chosen.save [] "s" }
      HasOnly [] around.environment ∧ load around (.text "s") = .ok chosen := by
  intro around
  have hquiet : HasOnly [] around.environment := by
    rw [hasOnly_iff]
    exact ⟨⟨_, rfl, by decide⟩, ⟨_, rfl, by decide⟩, ⟨_, rfl, by decide⟩, ⟨_, rfl, by decide⟩⟩
  have hempty : HasOnly [] [] := by
    rw [hasOnly_iff]
    exact ⟨⟨_, rfl, by decide⟩, ⟨_, rfl, by decide⟩, ⟨_, rfl, by decide⟩, ⟨_, rfl, by decide⟩⟩
  have hread : read {} chosen.content = .ok chosen :=
    read_content inBounds_chosen isFinite_chosen hempty
  have hreadsBack : chosen.readsBack = true := by decide +kernel
  exact ⟨hquiet, (load_saved hread (read_of_readsBack hreadsBack) isName_single rfl).2
    isFinite_chosen hquiet⟩

def timed (timeout : Binary) : Settings where
  query := { timeout }

/--
An infinite timeout is accepted, but settings with it are not loaded back from a file. The usual
settings are not loaded back either, where a variable has an unknown name behind that of a section.
-/
theorem not_loaded_of_saved
    : let s := timed (.infinity false)
      let stray : Surroundings :=
        { environment := [("HYBRID_RERANKER__BOGUS", "1")], files := save {} [] "s" }
      (read {} [("query", .dict [("timeout", .real (.infinity false))])] = .ok s
          ∧ Yaml.read s.toYaml = .ok (.dict s.content)
          ∧ ∀ t, load { files := s.save [] "s" } (.text "s") ≠ .ok t)
        ∧ read {} [] = .ok {}
        ∧ Yaml.read (toYaml {}) = .ok (.dict (content {}))
        ∧ ∀ t, load stray (.text "s") ≠ .ok t := by
  intro s stray
  have htimed : read {} [("query", .dict [("timeout", .real (.infinity false))])] = .ok s := rfl
  have husual : read {} [] = .ok {} := rfl
  have hyaml : Yaml.read s.toYaml = .ok (.dict s.content) :=
    read_of_readsBack (by decide +kernel)
  have hyaml' : Yaml.read (toYaml {}) = .ok (.dict (content {})) :=
    read_of_readsBack readsBack_usual
  refine ⟨⟨htimed, hyaml, ?infinite⟩, husual, hyaml', ?stray⟩
  case infinite =>
    intro t h
    rw [load_of_save hyaml isName_single rfl] at h
    obtain ⟨_, hfinite, _⟩ := eq_of_read_content (inBounds_of_read htimed) h
    have hquery : ("query", Form.entries QuerySettings.fields s.query) ∈ s.sections := by
      simp [sections]
    have htimeout : ("timeout", .real (.infinity false))
        ∈ Form.entries QuerySettings.fields s.query :=
      List.mem_cons_of_mem _ List.mem_cons_self
    exact absurd (hfinite _ hquery _ htimeout _ rfl) nofun
  case stray =>
    intro t h
    rw [load_of_save hyaml' isName_single rfl] at h
    obtain ⟨_, _, honly⟩ := eq_of_read_content (inBounds_of_read husual) h
    obtain ⟨v?, hvalue, hknown⟩ := (hasOnly_iff.1 honly).1
    have hbogus : environmentValue search stray.environment
        (sectionOutline "reranker" RerankerSettings.fields) =
          .ok (some (.dict [("bogus", .text "1")])) := rfl
    cases hbogus.symm.trans hvalue
    exact absurd (hknown "bogus" (by decide)) (by decide)

end Sample

end Settings

end RankFusion
