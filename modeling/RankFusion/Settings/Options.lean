import RankFusion.Text.Case
import RankFusion.Validation.Form

/-!
This module contains the options of a search for settings. They stand among the entries of a
section, or of all settings, under names of their own.
-/

namespace RankFusion

structure SearchOptions where
  /-- What the names of all variables begin with. -/
  start : String
  /-- Whether names have to agree in case. -/
  caseSensitive : Bool := false
  /-- Whether empty variables do not count. -/
  ignoresEmpty : Bool := false
  /-- What stands between a section and its field. Fields are not looked for if it is absent. -/
  separator : Option String := none
  /-- The largest number of parts behind the name of a section. -/
  mostParts : Option Nat := none
  /-- The text that stands for the absent value. -/
  absentText : Option String := none
  /-- Whether the members of an enumeration go by their names in capitals as well. -/
  takesMemberNames : Bool := false
  /-- The paths of files with more variables. -/
  variableFiles : Value := .null
  /-- The paths of directories with a file for every variable. -/
  secretDirectories : Value := .null

namespace SearchOptions

def names : List String := [
  "_case_sensitive", "_nested_model_default_partial_update", "_env_prefix", "_env_prefix_target",
  "_env_file", "_env_file_encoding", "_env_ignore_empty", "_env_nested_delimiter",
  "_env_nested_max_split", "_env_parse_none_str", "_env_parse_enums", "_cli_prog_name",
  "_cli_parse_args", "_cli_settings_source", "_cli_parse_none_str", "_cli_hide_none_type",
  "_cli_avoid_json", "_cli_enforce_required", "_cli_use_class_docs_for_groups",
  "_cli_exit_on_error", "_cli_prefix", "_cli_flag_prefix_char", "_cli_implicit_flags",
  "_cli_ignore_unknown_args", "_cli_kebab_case", "_cli_shortcuts", "_secrets_dir",
  "_build_sources"]

def settingsReceiver : String := "__pydantic_self__"

def option? (name : String) (es : List (String × Value)) : Option Value :=
  match Value.lookup? name es with
  | some .null | none => none
  | some v => some v

def flag (name : String) (es : List (String × Value)) : Bool :=
  (option? name es).any Value.isTruthy

def textOf? : Value → Option String
  | .text s => if s = "" then none else some s
  | _ => none

/--
The largest number of parts that an option allows. Zero and less allow any number.
-/
def partLimit (v : Value) : Except Failure (Option Nat) :=
  if !v.isTruthy then .ok none
  else
    match v with
    | .int n => .ok (if 0 < n then some n.toNat else none)
    | .bool _ => .ok (some 1)
    | .real _ => .ok none
    | v => .error (.operand (.noArithmetic "-" v.kindName "int"))

def environmentSource : String := "EnvSettingsSource"

/--
What names begin with. It is a text.
-/
def startOf (firstField : String) (v : Value) : Except Failure String :=
  match v with
  | .text s => .ok s
  | v =>
    match v.length with
    | .error f => .error f
    | .ok _ => .error (.settings (.unreadableField firstField environmentSource))

/--
Whether the names of fields have the usual start. An option may restrict it to other names.
-/
def startsFields (es : List (String × Value)) : Bool :=
  match option? "_env_prefix_target" es with
  | some (.text target) => target == "variable" || target == "all"
  | some _ => false
  | none => true

/--
The options among some entries. Those that are absent have the given values.
-/
def ofEntries (usual : SearchOptions) (firstField : String) (es : List (String × Value)) :
    Except Failure SearchOptions := do
  let mostParts ← match option? "_env_nested_max_split" es with
    | some v => partLimit v
    | none => pure usual.mostParts
  let start ← match option? "_env_prefix" es with
    | some v => startOf firstField v
    | none => pure usual.start
  return {
    start := if startsFields es then start else ""
    caseSensitive := flag "_case_sensitive" es
    ignoresEmpty := flag "_env_ignore_empty" es
    separator := match option? "_env_nested_delimiter" es with
      | some v => textOf? v
      | none => usual.separator
    mostParts
    absentText := match option? "_env_parse_none_str" es with
      | some (.text s) => some s
      | _ => none
    takesMemberNames := flag "_env_parse_enums" es
    variableFiles := Value.lookup "_env_file" es
    secretDirectories := Value.lookup "_secrets_dir" es }

def requireReceiver (es : List (String × Value)) : Except Failure Unit :=
  if (Value.lookup? settingsReceiver es).isSome then
    .error (.operand (.repeatedArgument "BaseSettings.__init__" settingsReceiver))
  else .ok ()

def fold (o : SearchOptions) (name : String) : String :=
  if o.caseSensitive then name else lowerText name

end SearchOptions

/--
The entries for the fields of a form and all others, without options. The name of a field may be in
letters of either case; if several entries are for one field, the first counts.
-/
def formEntries (fields : List String) (es : List (String × Value)) : List (String × Value) :=
  let es := es.filter fun e => e.1 ∉ SearchOptions.names
  let own := fields.filterMap fun f =>
    (es.find? fun e => lowerText e.1 == f).map fun e => (f, e.2)
  own ++ es.filter fun e => lowerText e.1 ∉ fields

end RankFusion
