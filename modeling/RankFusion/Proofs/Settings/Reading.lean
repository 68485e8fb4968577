import RankFusion.Proofs.Except
import RankFusion.Proofs.Validation.Form
import RankFusion.Settings.Basic

/-!
This module contains the reading of settings, section by section. A section of which no issue is
left has been read by its form and put into the settings.
-/

namespace RankFusion

namespace Settings

variable {s : Settings} {around : Surroundings} {es given : List (String × Value)}

section Section

variable {R : Type} {name : String} {fields : List (FormField R)} {usual x : R}
  {set : Settings → R → Settings} {d d' : Draft}

theorem readSection_eq_ok_iff {c : Checked R}
    : readSection around name fields usual es = .ok c
        ↔
      ∃ given, completeEntries around (sectionSearch name)
          { fields := fieldNames fields, hasSections := false } es = .ok given
        ∧ Form.read fields usual given = c := by
  unfold readSection
  dsimp only
  rw [Except.bind_eq_ok_iff]
  simp only [Except.pure_eq_ok_iff]

theorem reported_of_partOfSettings {c : Checked R}
    (h : partOfSettings (readSection around name fields usual es) = .ok c)
    : c.Reported := by
  unfold partOfSettings at h
  split at h
  . next hread =>
    cases h
    obtain ⟨_, _, rfl⟩ := readSection_eq_ok_iff.1 hread
    exact Form.reported_read
  . split at h
    . cases h
      nofun
    . cases h

theorem exists_of_partOfSettings {part : Except Failure (Checked R)} {path : PathPart}
    {c : Checked R} (h : partOfSettings part = .ok c) (hc : c.under path = .valid x)
    : part = .ok (.valid x) := by
  rw [Checked.under_eq_valid_iff] at hc
  subst hc
  unfold partOfSettings at h
  split at h
  . cases h
    rfl
  . split at h
    . cases h
    . cases h

theorem exists_of_takeSection (hlookup : Value.lookup? name given = some (.dict es))
    (h : takeSection around name fields usual set given d = .ok d') (hissues : d'.issues = [])
    : ∃ y, readSection around name fields usual es = .ok (.valid y)
        ∧ d.issues = []
        ∧ d'.settings = set d.settings y := by
  unfold takeSection at h
  rw [hlookup] at h
  dsimp only at h
  obtain ⟨c, hpart, h⟩ := Except.bind_eq_ok_iff.1 h
  split at h
  . next y hy =>
    cases Except.pure_eq_ok_iff.1 h
    exact ⟨y, exists_of_partOfSettings hpart hy, hissues, rfl⟩
  . next is his =>
    cases Except.pure_eq_ok_iff.1 h
    rw [(List.append_eq_nil_iff.1 hissues).2] at his
    exact absurd his ((reported_of_partOfSettings hpart).under _)

theorem takeSection_of_read (hlookup : Value.lookup? name given = some (.dict es))
    (h : readSection around name fields usual es = .ok (.valid x))
    : takeSection around name fields usual set given d =
        .ok { d with settings := set d.settings x } := by
  unfold takeSection
  rw [hlookup]
  dsimp only
  rw [h]
  rfl

theorem takeSection_keeps {P : Settings → Prop}
    (h : takeSection around name fields usual set given d = .ok d') (hd : P d.settings)
    (hset : ∀ t x es', P t → Form.read fields usual es' = .valid x → P (set t x))
    : P d'.settings := by
  unfold takeSection at h
  split at h
  . obtain ⟨c, hread, h⟩ := Except.bind_eq_ok_iff.1 h
    obtain ⟨es', _, hc⟩ := readSection_eq_ok_iff.1 hread
    split at h
    . cases Except.pure_eq_ok_iff.1 h
      exact hset _ _ es' hd hc
    . exact absurd h Except.throw_ne_ok
  . obtain ⟨c, hpart, h⟩ := Except.bind_eq_ok_iff.1 h
    split at h
    . next x hx =>
      obtain ⟨es', _, hread⟩ := readSection_eq_ok_iff.1 (exists_of_partOfSettings hpart hx)
      cases Except.pure_eq_ok_iff.1 h
      exact hset _ _ es' hd hread
    . cases Except.pure_eq_ok_iff.1 h
      exact hd
  . exact absurd h Except.throw_ne_ok
  . cases Except.pure_eq_ok_iff.1 h
    exact hd

end Section

theorem exists_of_read (h : read around es = .ok s)
    : ∃ given d₁ d₂ d₃ d₄,
        completeEntries around search outline es = .ok given
        ∧ takeSection around "reranker" RerankerSettings.fields {}
          (fun s x => { s with reranker := x }) given {} = .ok d₁
        ∧ takeSection around "query" QuerySettings.fields {}
          (fun s x => { s with query := x }) given d₁ = .ok d₂
        ∧ takeSection around "milvus" MilvusSettings.fields {}
          (fun s x => { s with milvus := x }) given d₂ = .ok d₃
        ∧ takeSection around "monitoring" MonitoringSettings.fields {}
          (fun s x => { s with monitoring := x }) given d₃ = .ok d₄
        ∧ d₄.issues = []
        ∧ d₄.settings = s := by
  obtain ⟨given, hgiven, h⟩ := Except.bind_eq_ok_iff.1 h
  obtain ⟨d₁, hreranker, h⟩ := Except.bind_eq_ok_iff.1 h
  obtain ⟨d₂, hquery, h⟩ := Except.bind_eq_ok_iff.1 h
  obtain ⟨d₃, hmilvus, h⟩ := Except.bind_eq_ok_iff.1 h
  obtain ⟨d₄, hmonitoring, h⟩ := Except.bind_eq_ok_iff.1 h
  refine ⟨given, d₁, d₂, d₃, d₄, hgiven, hreranker, hquery, hmilvus, hmonitoring, ?_⟩
  clear hgiven hreranker hquery hmilvus hmonitoring
  dsimp only at h
  split at h
  . cases h
  . split at h
    . next hissues => exact ⟨(List.append_eq_nil_iff.1 hissues).1, Except.pure_eq_ok_iff.1 h⟩
    . cases h

end Settings

end RankFusion
