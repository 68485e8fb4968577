import RankFusion.Validation.Reader

/-!
This module contains forms: structures that are filled in from data, field by field, and stay
checked when a field is assigned.
-/

namespace RankFusion

structure FormField (R : Type) where
  name : String
  required : Bool := false
  /-- The values that the field can have, if it is an enumeration. -/
  members : List String := []
  fill : R → Value → Checked R
  value : R → Value

namespace FormField

variable {R α : Type}

def ofReader (name : String) (r : Reader α) (set : R → α → R) (value : R → Value) :
    FormField R where
  name := name
  fill := fun x v => (r v).map (set x)
  value := value

end FormField

structure Filling (R : Type) where
  state : R
  issues : List Issue := []

namespace Form

variable {R : Type}

def fillField (es : List (String × Value)) (x : Filling R) (f : FormField R) : Filling R :=
  match Value.lookup? f.name es with
  | some v =>
    match (f.fill x.state v).under (.name f.name) with
    | .valid state => { x with state }
    | .invalid is => { x with issues := x.issues ++ is }
  | none =>
    if f.required then { x with issues := x.issues ++ [⟨[.name f.name], .missing⟩] } else x

def unknownEntries (fields : List (FormField R)) (es : List (String × Value)) : List Issue :=
  (es.filter fun e => fields.all fun f => f.name != e.1).map fun e =>
    ⟨[.name e.1], .extraForbidden⟩

/--
Fills in a form. All issues are reported, in the order of the fields and then of the unknown
entries. If the name of an entry is no text, nothing else is.
-/
def read (fields : List (FormField R)) (blank : R) (es : List (String × Value)) : Checked R :=
  if !es.all (fun e => isWellFormed e.1) then .fail .stringUnicode
  else
    let x := fields.foldl (fillField es) { state := blank }
    match x.issues ++ unknownEntries fields es with
    | [] => .valid x.state
    | is => .invalid is

def assign (fields : List (FormField R)) (x : R) (name : String) (v : Value) : Checked R :=
  match fields.find? fun f => f.name == name with
  | some f => (f.fill x v).under (.name name)
  | none => .invalid [⟨[.name name], .noSuchAttribute⟩]

def entries (fields : List (FormField R)) (x : R) : List (String × Value) :=
  fields.map fun f => (f.name, f.value x)

end Form

end RankFusion
