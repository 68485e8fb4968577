import RankFusion.Settings.Basic
import RankFusion.Yaml.Content
import RankFusion.Yaml.Printer

/-!
This module contains settings in files: how they are saved and how they are loaded.
-/

namespace RankFusion.Settings

def document (s : Settings) : List (String × List (String × Yaml.Leaf)) :=
  s.sections.map fun e => (e.1, e.2.map fun f => (f.1, .ofValue f.2))

def toYaml (s : Settings) : String := Yaml.write s.document

/--
The entries in the text of a file. A document without a value has none.
-/
def fileEntries (path : Value) (text : String) : Except Failure (List (String × Value)) :=
  match Yaml.read text with
  | .error .malformed => .error (.settings (.malformedFile path.plain))
  | .error (.invalid f) => .error f
  | .ok v =>
    if !v.isTruthy then .ok []
    else
      match v with
      | .dict es => .ok es
      | .other "dict" => .error (.operand .keywordKind)
      | v => .error (.settings (.notMapping path.plain v.kindName))

/--
The settings in a file, which has to exist. They are completed from their surroundings.
-/
def ofFile (s : Surroundings) (path : Value) : Except Failure Settings := do
  read s (← fileEntries path (← s.files.read path))

def load (s : Surroundings) (path : Value) : Except Failure Settings := do
  if path.isTruthy then
    if ← s.files.isPresent path then return ← ofFile s path
  read s []

def save (s : Settings) (files : Files) (name : String) : Files := (name, s.toYaml) :: files

end RankFusion.Settings
