import RankFusion.Number.Numeral
import RankFusion.Number.Text
import RankFusion.Text.Quoted

/-!
This module contains the data that reach the library from outside: the cells of result batches, the
arguments of builder calls, the fields of requests and settings, and the answers of an engine.
-/

namespace RankFusion

/--
A datum. Mappings keep the order in which their keys were first written.
-/
inductive Value where
  | null
  | bool (b : Bool)
  | int (n : Int)
  | real (x : Binary)
  | text (s : String)
  | bytes (bs : List UInt8)
  | list (vs : List Value)
  | dict (entries : List (String × Value))
  /-- A datum of a kind that nothing in the library takes, which is not empty. -/
  | other (kind : String)

namespace Value

instance : Inhabited Value := ⟨null⟩

def isNull : Value → Bool
  | null => true
  | _ => false

def isNaN : Value → Bool
  | real x => x.isNaN
  | _ => false

def isBytes : Value → Bool
  | bytes _ => true
  | _ => false

def kindName : Value → String
  | null => "NoneType"
  | bool _ => "bool"
  | int _ => "int"
  | real _ => "float"
  | text _ => "str"
  | bytes _ => "bytes"
  | list _ => "list"
  | dict _ => "dict"
  | other kind => kind

/--
Whether a datum counts as true: all but the absent one, the zeros and the empty ones do.
-/
def isTruthy : Value → Bool
  | null => false
  | bool b => b
  | int n => n != 0
  | real x => !x.eq .zero
  | text s => s != ""
  | bytes bs => !bs.isEmpty
  | list vs => !vs.isEmpty
  | dict es => !es.isEmpty
  | other _ => true

mutual

def render : Value → String
  | null => "None"
  | bool b => if b then "True" else "False"
  | int n => toString n
  | real x => x.text
  | text s => quoted s
  | bytes bs => quotedBytes bs
  | list vs => "[" ++ ", ".intercalate (renderList vs) ++ "]"
  | dict es => "\x7b" ++ ", ".intercalate (renderEntries es) ++ "\x7d"
  | other kind => kind

def renderList : List Value → List String
  | [] => []
  | v :: vs => v.render :: renderList vs

def renderEntries : List (String × Value) → List String
  | [] => []
  | (k, v) :: es => (quoted k ++ ": " ++ v.render) :: renderEntries es

end

def plain : Value → String
  | text s => s
  | v => v.render

mutual

/--
Whether a text can show a datum: there is no integer in it with more digits than the limit.
-/
def isPrintable : Value → Bool
  | int n => Numeral.isWithinLimit n
  | list vs => itemsPrintable vs
  | dict es => entriesPrintable es
  | _ => true

def itemsPrintable : List Value → Bool
  | [] => true
  | v :: vs => v.isPrintable && itemsPrintable vs

def entriesPrintable : List (String × Value) → Bool
  | [] => true
  | (_, v) :: es => v.isPrintable && entriesPrintable es

end

def lookup? (key : String) (entries : List (String × Value)) : Option Value :=
  (entries.find? fun e => e.1 == key).map (·.2)

def lookup (key : String) (entries : List (String × Value)) : Value :=
  (lookup? key entries).getD null

def insert (key : String) (value : Value) : List (String × Value) → List (String × Value)
  | [] => [(key, value)]
  | e :: es => if e.1 == key then (key, value) :: es else e :: insert key value es

/--
The number a datum stands for. Truth values count as one and zero.
-/
def number? : Value → Option Binary
  | bool b => some (if b then .one else .zero)
  | int n => some (if n = 0 then .zero else .finite (.ofInt n))
  | real x => some x
  | _ => none

mutual

/--
Equality of data: numbers by value, whatever their kind; lists and mappings by their parts. NaN
equals nothing, but as a part of a list or mapping it is the same as NaN in another.
-/
def equal : Value → Value → Bool
  | null, null => true
  | text s, text t => s == t
  | bytes s, bytes t => s == t
  | list vs, list ws => equalList vs ws
  | dict es, dict fs => es.length == fs.length && equalEntries es fs
  | v, w =>
    match v.number?, w.number? with
    | some x, some y => x.eq y
    | _, _ => false

def equalList : List Value → List Value → Bool
  | [], [] => true
  | v :: vs, w :: ws => (v.equal w || (v.isNaN && w.isNaN)) && equalList vs ws
  | _, _ => false

def equalEntries : List (String × Value) → List (String × Value) → Bool
  | [], _ => true
  | (k, v) :: es, fs =>
    (match lookup? k fs with
     | some w => v.equal w || (v.isNaN && w.isNaN)
     | none => false) && equalEntries es fs

end

/--
Whether two data are the same key: they are equal, or both are NaN.
-/
def sameKey (v w : Value) : Bool := v.equal w || (v.isNaN && w.isNaN)

/--
The kind that keeps a datum from being a key. Lists and mappings are no keys.
-/
def notKey? : Value → Option String
  | list _ => some "list"
  | dict _ => some "dict"
  | _ => none

end Value

end RankFusion
