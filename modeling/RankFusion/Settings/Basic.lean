import RankFusion.Settings.Section
import RankFusion.Settings.Source

/-!
This module contains the settings and how they are read. A value given for a section comes before
the environment, and the environment before the usual value.
-/

namespace RankFusion

structure Settings where
  reranker : RerankerSettings := {}
  query : QuerySettings := {}
  milvus : MilvusSettings := {}
  monitoring : MonitoringSettings := {}

namespace Settings

def fieldNames {R : Type} (fields : List (FormField R)) : List FieldName :=
  fields.map fun f => { name := f.name, members := f.members }

def sectionSearch (name : String) : SearchOptions := { start := "HYBRID_" ++ name.toUpper ++ "_" }

def completeEntries (s : Surroundings) (usual : SearchOptions) (form : FormOutline)
    (es : List (String × Value)) : Except Failure (List (String × Value)) := do
  SearchOptions.requireReceiver es
  let names := form.fields.map (·.name)
  let o ← SearchOptions.ofEntries usual (names.headD "") es
  return Variables.updateEntries (← Sources.values o form s) (formEntries names es)

def readSection {R : Type} (s : Surroundings) (name : String) (fields : List (FormField R))
    (usual : R) (es : List (String × Value)) : Except Failure (Checked R) := do
  let form := { fields := fieldNames fields, hasSections := false }
  return Form.read fields usual (← completeEntries s (sectionSearch name) form es)

/--
A part of some settings. A failure of a value is an issue with it, other failures stay.
-/
def partOfSettings {R : Type} (part : Except Failure (Checked R)) : Except Failure (Checked R) :=
  match part with
  | .ok x => .ok x
  | .error f =>
    if f.kind.isA .value then .ok (.fail (.rule (.source f.message))) else .error f

structure Draft where
  settings : Settings := {}
  issues : List Issue := []

/--
Takes up a section. One that nothing is given for is built by itself, and its issues are final.
-/
def takeSection {R : Type} (s : Surroundings) (name : String) (fields : List (FormField R))
    (usual : R) (set : Settings → R → Settings) (given : List (String × Value)) (d : Draft) :
    Except Failure Draft := do
  match Value.lookup? name given with
  | none =>
    match ← readSection s name fields usual [] with
    | .valid x => return { d with settings := set d.settings x }
    | .invalid is => throw (.invalid is)
  | some (.dict es) =>
    match (← partOfSettings (readSection s name fields usual es)).under (.name name) with
    | .valid x => return { d with settings := set d.settings x }
    | .invalid is => return { d with issues := d.issues ++ is }
  | some (.other "dict") => throw (.operand .keywordKind)
  | some _ => return { d with issues := d.issues ++ [⟨[.name name], .modelType⟩] }

def outline : FormOutline where
  fields := [
    { name := "reranker", fields := fieldNames RerankerSettings.fields },
    { name := "query", fields := fieldNames QuerySettings.fields },
    { name := "milvus", fields := fieldNames MilvusSettings.fields },
    { name := "monitoring", fields := fieldNames MonitoringSettings.fields }]
  hasSections := true

def sectionNames : List String := outline.fields.map (·.name)

def search : SearchOptions := { start := "HYBRID_", separator := some "__" }

/--
The settings with the given entries, which are completed from their surroundings. If the name of an
entry is no text, nothing else is reported.
-/
def read (around : Surroundings) (es : List (String × Value)) : Except Failure Settings := do
  let given ← completeEntries around search outline es
  let d ← takeSection around "reranker" RerankerSettings.fields {}
    (fun s x => { s with reranker := x }) given {}
  let d ← takeSection around "query" QuerySettings.fields {}
    (fun s x => { s with query := x }) given d
  let d ← takeSection around "milvus" MilvusSettings.fields {}
    (fun s x => { s with milvus := x }) given d
  let d ← takeSection around "monitoring" MonitoringSettings.fields {}
    (fun s x => { s with monitoring := x }) given d
  let unknown := (given.filter fun e => e.1 ∉ sectionNames).map fun e =>
    (⟨[.name e.1], .extraForbidden⟩ : Issue)
  if !given.all (fun e => isWellFormed e.1) then throw (.invalid [⟨[], .stringUnicode⟩])
  match d.issues ++ unknown with
  | [] => return d.settings
  | is => throw (.invalid is)

def sections (s : Settings) : List (String × List (String × Value)) :=
  [("reranker", Form.entries RerankerSettings.fields s.reranker),
   ("query", Form.entries QuerySettings.fields s.query),
   ("milvus", Form.entries MilvusSettings.fields s.milvus),
   ("monitoring", Form.entries MonitoringSettings.fields s.monitoring)]

def entries (s : Settings) : List (String × Value) := s.sections.map fun e => (e.1, .dict e.2)

def equal (s t : Settings) : Bool := (Value.dict s.entries).equal (.dict t.entries)

end Settings

end RankFusion
