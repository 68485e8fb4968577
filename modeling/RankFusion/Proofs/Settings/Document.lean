import RankFusion.Proofs.Settings.Sections
import RankFusion.Settings.File

/-!
This module contains the documents that show settings. Every section is found in the data of such a
document under its name, and every field of it, with the value of the field unless that is infinite.
-/

namespace RankFusion

namespace Yaml

variable {α : Type}

theorem insertByName_perm {e : String × α} {es : List (String × α)}
    : (insertByName e es).Perm (e :: es) := by
  induction es with
  | nil => exact .refl _
  | cons d ds ih =>
    rw [insertByName]
    split
    . exact .refl _
    . exact (ih.cons d).trans (.swap ..)

theorem sorted_perm {es : List (String × α)} : (sorted es).Perm es := by
  induction es with
  | nil => exact .refl _
  | cons e es ih => exact insertByName_perm.trans (ih.cons e)

def readChars (cs : List Char) : Except ReadFault Value :=
  let cs := dropOrderMark (normalizeBreaks cs)
  let tokens? := if cs.all isAllowed then Lexer.run (cs.length + 2) { cursor := { rest := cs } }
    else none
  match tokens? with
  | none => .error .malformed
  | some [] => .ok .null
  | some ts => do
    let (root, s) ← readDocument ts
    if s.tokens.all (· == .documentEnd) then
      let r ← Reading.ofDocument ⟨s.nodes, root⟩
      return (r.valuesTo levelLimit).getD root .null
    else throw s.fault

theorem read_ofList (cs : List Char) : read (String.ofList cs) = readChars cs := by
  unfold read document? tokens? readChars
  rw [String.toList_ofList]
  dsimp only
  generalize (if (dropOrderMark (normalizeBreaks cs)).all isAllowed then _ else _) = tokens?
  match tokens? with
  | none => rfl
  | some [] => rfl
  | some (t :: ts) =>
    dsimp only
    cases readDocument (t :: ts) with
    | error e => rfl
    | ok d =>
      dsimp only [Except.ok_bind]
      split
      . rfl
      . rfl

section Agrees

def Leaf.agrees : Leaf → Value → Bool
  | null, .null => true
  | bool b, .bool c => b == c
  | int n, .int m => n == m
  | real x, .real y => decide (x = y)
  | text s, .text t => s == t
  | _, _ => false

def entriesAgree (agrees : α → Value → Bool) :
    List (String × α) → List (String × Value) → Bool
  | [], [] => true
  | x :: xs, e :: es => x.1 == e.1 && agrees x.2 e.2 && entriesAgree agrees xs es
  | _, _ => false

def dictAgrees (agrees : α → Value → Bool) (xs : List (String × α)) : Value → Bool
  | .dict es => entriesAgree agrees xs es
  | _ => false

theorem Leaf.eq_of_agrees {leaf : Leaf} {v : Value} (h : leaf.agrees v = true)
    : v = leaf.toValue := by
  unfold agrees at h
  split at h
  . rfl
  . rw [beq_iff_eq.1 h, toValue]
  . rw [beq_iff_eq.1 h, toValue]
  . rw [of_decide_eq_true h, toValue]
  . rw [beq_iff_eq.1 h, toValue]
  . cases h

variable {agrees : α → Value → Bool} (toValue : α → Value)

theorem eq_of_entriesAgree (hagrees : ∀ x v, agrees x v = true → v = toValue x)
    {xs : List (String × α)} {es : List (String × Value)} (h : entriesAgree agrees xs es = true)
    : es = xs.map fun x => (x.1, toValue x.2) := by
  induction xs generalizing es with
  | nil =>
    cases es with
    | nil => rfl
    | cons e es => cases h
  | cons x xs ih =>
    cases es with
    | nil => cases h
    | cons e es =>
      rw [entriesAgree, Bool.and_eq_true, Bool.and_eq_true] at h
      rw [List.map_cons, ← ih h.2, ← hagrees _ _ h.1.2, beq_iff_eq.1 h.1.1]

theorem eq_of_dictAgrees (hagrees : ∀ x v, agrees x v = true → v = toValue x)
    {xs : List (String × α)} {v : Value} (h : dictAgrees agrees xs v = true)
    : v = .dict (xs.map fun x => (x.1, toValue x.2)) := by
  unfold dictAgrees at h
  split at h
  . exact congrArg Value.dict (eq_of_entriesAgree toValue hagrees h)
  . cases h

end Agrees

end Yaml

namespace Settings

def leafEntries (es : List (String × Yaml.Leaf)) : List (String × Value) :=
  (Yaml.sorted es).map fun f => (f.1, f.2.toValue)

def content (s : Settings) : List (String × Value) :=
  (Yaml.sorted s.document).map fun e => (e.1, .dict (leafEntries e.2))

def readsBack (s : Settings) : Bool :=
  match Yaml.readChars ((Yaml.sorted s.document).flatMap Yaml.writeSection) with
  | .ok v =>
    Yaml.dictAgrees (fun es => Yaml.dictAgrees Yaml.Leaf.agrees (Yaml.sorted es))
      (Yaml.sorted s.document) v
  | .error _ => false

def shownEntries {R : Type} (fields : List (FormField R)) (x : R) : List (String × Value) :=
  leafEntries ((Form.entries fields x).map fun f => (f.1, .ofValue f.2))

def IsFinite (s : Settings) : Prop :=
  ∀ e ∈ s.sections, ∀ f ∈ e.2, ∀ x, f.2 = .real x → x.isFinite = true

theorem read_of_readsBack {s : Settings} (h : s.readsBack = true)
    : Yaml.read s.toYaml = .ok (.dict s.content) := by
  unfold toYaml Yaml.write
  rw [Yaml.read_ofList]
  unfold readsBack at h
  split at h
  . next v hv =>
    rw [hv]
    refine congrArg Except.ok (Yaml.eq_of_dictAgrees (.dict ∘ leafEntries) ?_ h)
    intro es w hw
    exact Yaml.eq_of_dictAgrees Yaml.Leaf.toValue (fun _ _ => Yaml.Leaf.eq_of_agrees) hw
  . cases h

variable {R : Type} {s : Settings} {fields : List (FormField R)} {x : R}

theorem keys_leafEntries_perm {es : List (String × Yaml.Leaf)}
    : ((leafEntries es).map (·.1)).Perm (es.map (·.1)) := by
  unfold leafEntries
  rw [List.map_map]
  exact Yaml.sorted_perm.map _

theorem keys_shownEntries_perm
    : ((shownEntries fields x).map (·.1)).Perm (fields.map (·.name)) := by
  refine keys_leafEntries_perm.trans ?_
  unfold Form.entries
  rw [List.map_map, List.map_map]
  exact .refl _

theorem lookup?_shownEntries (hkeys : (fields.map (·.name)).Nodup) {f : FormField R}
    (hf : f ∈ fields)
    : Value.lookup? f.name (shownEntries fields x) = some (f.value x).shown := by
  rw [Value.lookup?_eq_some_iff (keys_shownEntries_perm.nodup_iff.2 hkeys)]
  unfold shownEntries leafEntries Form.entries
  refine List.mem_map.2 ⟨(f.name, .ofValue (f.value x)), ?_, rfl⟩
  rw [Yaml.sorted_perm.mem_iff, List.map_map]
  exact List.mem_map.2 ⟨f, hf, rfl⟩

theorem isFinite_entries_iff (hfields : Form.IsSection fields)
    : (∀ f ∈ Form.entries fields x, ∀ r, f.2 = .real r → r.isFinite = true)
        ↔
      ∀ f ∈ fields, (f.value x).shown = f.value x := by
  unfold Form.entries
  rw [List.forall_mem_map]
  apply forall₂_congr
  intro f hf
  obtain ⟨leaf, hleaf⟩ := (hfields.strict f hf).shows x
  exact (Value.shown_eq_iff hleaf).symm

theorem areFieldNames_sections : AreFieldNames sectionNames :=
  ⟨by decide, by decide, by decide, by decide⟩

theorem isWellFormed_sections : ∀ name ∈ sectionNames, isWellFormed name = true := by decide

theorem keys_content_perm : (s.content.map (·.1)).Perm sectionNames := by
  unfold content
  rw [List.map_map]
  exact Yaml.sorted_perm.map _

theorem lookup?_content {e : String × List (String × Yaml.Leaf)} (he : e ∈ s.document)
    : Value.lookup? e.1 s.content = some (.dict (leafEntries e.2)) := by
  rw [Value.lookup?_eq_some_iff (keys_content_perm.nodup_iff.2 areFieldNames_sections.nodup)]
  exact List.mem_map.2 ⟨e, Yaml.sorted_perm.mem_iff.2 he, rfl⟩

theorem mem_sectionNames_of_content : ∀ key ∈ s.content.map (·.1), key ∈ sectionNames :=
  fun _ hkey => keys_content_perm.mem_iff.1 hkey

theorem isFinite_iff
    : s.IsFinite
        ↔
      (∀ f ∈ RerankerSettings.fields, (f.value s.reranker).shown = f.value s.reranker)
        ∧ (∀ f ∈ QuerySettings.fields, (f.value s.query).shown = f.value s.query)
        ∧ (∀ f ∈ MilvusSettings.fields, (f.value s.milvus).shown = f.value s.milvus)
        ∧ ∀ f ∈ MonitoringSettings.fields, (f.value s.monitoring).shown = f.value s.monitoring := by
  unfold IsFinite sections
  simp only [List.forall_mem_cons]
  rw [isFinite_entries_iff RerankerSettings.isSection, isFinite_entries_iff QuerySettings.isSection,
    isFinite_entries_iff MilvusSettings.isSection,
    isFinite_entries_iff MonitoringSettings.isSection]
  simp

end Settings

end RankFusion
