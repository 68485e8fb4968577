import RankFusion.Settings.Environment
import RankFusion.Settings.Files

/-!
This module contains the sources of settings besides the given entries: the environment, and files
of variables that an option names. The environment comes before the files.
-/

namespace RankFusion

structure Surroundings where
  environment : Environment := []
  files : Files := []

structure FormOutline where
  fields : List FieldName
  /-- Whether the fields are sections, which may be given as a whole or value by value. -/
  hasSections : Bool

structure Sources where
  environment : Variables
  files : Variables

namespace Sources

def fileSource : String := "DotEnvSettingsSource"

def paths : Value → Except Failure (List String)
  | .null => .ok []
  | .text path => .ok [path]
  | v => do
    (← v.items).mapM fun item =>
      match item with
      | .text path => .ok path
      | item => .error (.file (.notPath item.kindName))

/--
The variables in the files that an option names. A path that leads to no file is left out.
-/
def fileVariables (o : SearchOptions) (s : Surroundings) : Except Failure Variables := do
  let found := (← paths o.variableFiles).filterMap fun path =>
    match s.files.cleanPlace path with
    | .file text => some (VariableFile.read s.environment text)
    | _ => none
  return Variables.ofSource o found.flatten

def gather (o : SearchOptions) (s : Surroundings) : Except Failure Sources := do
  return { environment := .ofEnvironment o s.environment, files := ← fileVariables o s }

/--
Requires the directories of secrets that an option names to be none of the files. Nothing is found
in other directories.
-/
def requireSecrets (o : SearchOptions) (s : Surroundings) : Except Failure Unit := do
  let isFile (path : String) : Bool := s.files.cleanPlace path matches .file _
  if (← paths o.secretDirectories).any isFile then throw (.settings .secretsFile)

def fieldValues (o : SearchOptions) (form : FormOutline) (source : String) (vars : Variables) :
    Except Failure (List (String × Value)) :=
  if form.hasSections then do
    let found ← form.fields.mapM fun f => do
      return (← vars.sectionValue o source f).map fun v => (f.name, v)
    return found.filterMap id
  else .ok (vars.ownValues o form.fields)

def concerns (o : SearchOptions) (form : FormOutline) (name : String) (f : FieldName) : Bool :=
  let whole := o.fold (o.start ++ f.name)
  name == whole || (form.hasSections && (Variables.remainder? whole name).isSome)

/--
The variables of a file that have to do with no field. They are values of their own, apart from
those under the name of a field.
-/
def strangers (o : SearchOptions) (form : FormOutline) (found : List (String × Value))
    (vars : Variables) : List (String × Value) :=
  vars.filterMap fun v =>
    let isField := !o.start.isEmpty && form.fields.any fun f => f.name == v.1
    let isKnown := (Value.lookup? v.1 found).isSome || isField
    match v.2 with
    | some text =>
      if text.isEmpty || isKnown || form.fields.any (concerns o form v.1) then none
      else some (v.1, .text text)
    | none => none

def values (o : SearchOptions) (form : FormOutline) (s : Surroundings) :
    Except Failure (List (String × Value)) := do
  let sources ← gather o s
  let fromEnvironment ← fieldValues o form SearchOptions.environmentSource sources.environment
  let fromFiles ← fieldValues o form fileSource sources.files
  requireSecrets o s
  return Variables.updateEntries (fromFiles ++ strangers o form fromFiles sources.files)
    fromEnvironment

end Sources

end RankFusion
