import RankFusion.Json.Reader
import RankFusion.Settings.Options
import RankFusion.Settings.VariableFile

/-!
This module contains variables as a source of settings. Names are compared without regard to case,
unless an option says otherwise. A whole section may be given as a JSON object, a single value of it
behind a separator, and a section that is built by itself also looks for its values behind its own
start.
-/

namespace RankFusion

abbrev Environment := List (String × String)

/--
The variables that a search sees, in order. They may be without a text.
-/
abbrev Variables := List (String × Option String)

/--
A field as a source knows it: its name, its values if it is an enumeration, and its own fields if it
is a section.
-/
structure FieldName where
  name : String
  members : List String := []
  fields : List FieldName := []

namespace Variables

/--
The variables of a source as a search sees them. Of names that it does not tell apart, the last
counts in the place of the first.
-/
def ofSource (o : SearchOptions) (source : Variables) : Variables :=
  (source.filter fun v => !(o.ignoresEmpty && v.2 == some "")).foldl
    (fun found v => VariableFile.define (o.fold v.1) v.2 found) []

def ofEnvironment (o : SearchOptions) (env : Environment) : Variables :=
  ofSource o (env.map fun v => (v.1, some v.2))

def text? (vars : Variables) (name : String) : Option String := (vars.lookup name).join

def remainder? (start s : String) : Option String :=
  (Json.after? start.toList s.toList).map String.ofList

def breakAt? (separator : List Char) : List Char → Option (List Char × List Char)
  | [] => none
  | c :: cs =>
    match Json.after? separator (c :: cs) with
    | some rest => some ([], rest)
    | none => (breakAt? separator cs).map fun (before, rest) => (c :: before, rest)

/--
The parts of a text between separators, of which only as many as the count count.
-/
def splitParts (separator : List Char) : (count : Nat) → List Char → List (List Char)
  | 0, cs => [cs]
  | n + 1, cs =>
    match breakAt? separator cs with
    | some (before, rest) => before :: splitParts separator n rest
    | none => [cs]

def path (separator : String) (mostParts : Option Nat) (name : String) : List String :=
  let cs := name.toList
  let separators := match mostParts with
    | some n => n - 1
    | none => cs.length
  (splitParts separator.toList separators cs).map String.ofList

/--
A mapping with a value at the end of a path. What stands in the way of a path stays. The absent
value replaces an empty mapping only.
-/
def insertPath (value : Value) : List String → List (String × Value) → List (String × Value)
  | [], es => es
  | [key], es =>
    match value, Value.lookup? key es with
    | .null, some (.dict []) => Value.insert key value es
    | .null, some _ => es
    | _, _ => Value.insert key value es
  | key :: path, es =>
    match Value.lookup? key es with
    | some (.dict inner) => Value.insert key (.dict (insertPath value path inner)) es
    | some _ => es
    | none => Value.insert key (.dict (insertPath value path [])) es

/--
The datum that a text gives. A member of an enumeration may go by its name in capitals.
-/
def datum (o : SearchOptions) (members : List String) (text : String) : Value :=
  match members.find? fun m => o.takesMemberNames && m.toUpper == text with
  | some m => .text m
  | none => if o.absentText = some text then .null else .text text

/--
What a variable puts at the end of a path. One without a text puts the absent value there, whatever
stands there already.
-/
def insertText (o : SearchOptions) (members : List String) (text : Option String)
    (path : List String) (es : List (String × Value)) : List (String × Value) :=
  match text with
  | some text => insertPath (datum o members text) path es
  | none => insertPath .null path (insertPath (.dict []) path es)

def nestedValues (o : SearchOptions) (vars : Variables) (sectionName : String)
    (fields : List FieldName) : List (String × Value) :=
  match o.separator with
  | none => []
  | some separator =>
    vars.foldl (fun es v =>
      match remainder? (o.fold (o.start ++ sectionName) ++ separator) v.1 with
      | some rest =>
        let path := path separator o.mostParts rest
        let members := (fields.find? fun f => path == [o.fold f.name]).map (·.members)
        insertText o (members.getD []) v.2 path es
      | none => es) []

mutual

/--
A datum with the entries of another put into it. Mappings are joined, all else is replaced.
-/
def update (old new : Value) : Value :=
  match old, new with
  | .dict es, .dict fs => .dict (updateEntries es fs)
  | _, v => v

def updateEntries (es : List (String × Value)) : List (String × Value) → List (String × Value)
  | [] => es
  | (key, v) :: fs =>
    updateEntries (Value.insert key (update ((Value.lookup? key es).getD .null) v) es) fs

end

def canonicalEntries (fields : List FieldName) (es : List (String × Value)) :
    List (String × Value) :=
  es.foldl (fun acc e =>
    let name := ((fields.find? fun f => f.name == lowerText e.1).map (·.name)).getD e.1
    Value.insert name e.2 acc) []

def canonicalValue (o : SearchOptions) (fields : List FieldName) : Value → Value
  | .dict es => .dict (if o.caseSensitive then es else canonicalEntries fields es)
  | v => v

/--
The value of a section, apart from the values that it looks for when built by itself. It is missing
if nothing is given.
-/
def sectionValue (o : SearchOptions) (source : String) (vars : Variables) (f : FieldName) :
    Except Failure (Option Value) :=
  let nested := nestedValues o vars f.name f.fields
  match vars.text? (o.fold (o.start ++ f.name)) with
  | none => .ok (if nested.isEmpty then none else some (canonicalValue o f.fields (.dict nested)))
  | some text =>
    if o.absentText = some text then .ok (some .null)
    else
      match Json.read? text with
      | none => .error (.settings (.malformedSection f.name source))
      | some .null => .ok none
      | some (.dict es) => .ok (some (canonicalValue o f.fields (update (.dict es) (.dict nested))))
      | some v => .ok (some v)

def ownValues (o : SearchOptions) (vars : Variables) (fields : List FieldName) :
    List (String × Value) :=
  fields.filterMap fun f =>
    (vars.text? (o.fold (o.start ++ f.name))).map fun text => (f.name, datum o f.members text)

end Variables

end RankFusion
