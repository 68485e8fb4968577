import RankFusion.Column.Basic

/-!
This module contains the conversion of data to the cells of a typed column, and the type of a column
whose data come without one.
-/

namespace RankFusion

def Width.holds (width : Width) (signed : Bool) (n : Int) : Bool :=
  if signed then -(1 <<< (width.bits - 1) : Nat) ≤ n && n < (1 <<< (width.bits - 1) : Nat)
  else 0 ≤ n && n < (1 <<< width.bits : Nat)

/--
The largest integer up to which a precision holds every integer.
-/
def Precision.exactLimit (precision : Precision) : Int := (1 <<< precision.format.precision : Nat)

namespace ColumnType

/--
An integer cell. A fractional number loses its fraction.
-/
def convertInteger (signed : Bool) (width : Width) : Value → Except Failure Value
  | .bool _ => .error (.data .wrongKind)
  | .int n =>
    if width.holds signed n then .ok (.int n)
    else if Width.w64.holds signed n then .error (.data .invalid)
    else .error (.data .outOfRange)
  | .real x =>
    match x.truncate? with
    | some n => if width.holds signed n then .ok (.int n) else .error (.data .invalid)
    | none => .error (.data .invalid)
  | _ => .error (.data .invalid)

/--
A cell that counts the days or the parts of a second since a moment. Only numbers are counts.
-/
def convertCount (width : Width) : Value → Except Failure Value
  | .real x =>
    match x.truncate? with
    | some n => convertInteger true width (.int n)
    | none => .error (.data (if x.isNaN then .nanInteger else .outOfRange))
  | .int n => convertInteger true width (.int n)
  | _ => .error (.data .wrongKind)

/--
A floating-point cell. An integer has to be in the range where every integer is exact.
-/
def convertReal (precision : Precision) : Value → Except Failure Value
  | .bool b => .ok (.real (if b then .one else .zero))
  | .int n =>
    if -precision.exactLimit ≤ n ∧ n ≤ precision.exactLimit then
      .ok (.real (precision.format.ofInt n))
    else .error (.data .invalid)
  | .real x => .ok (.real (precision.format.convert x))
  | _ => .error (.data .invalid)

/--
A text cell. A byte string is decoded.
-/
def convertText : Value → Except Failure Value
  | .text s => .ok (.text s)
  | .bytes bs =>
    match String.fromUTF8? ⟨bs.toArray⟩ with
    | some s => .ok (.text s)
    | none => .error (.data .invalid)
  | _ => .error (.data .wrongKind)

/--
A byte string cell. A text is encoded.
-/
def convertBytes : Value → Except Failure Value
  | .bytes bs => .ok (.bytes bs)
  | .text s => .ok (.bytes s.toUTF8.toList)
  | _ => .error (.data .wrongKind)

mutual

/--
A datum as a cell of a column. Every column may lack a cell. Texts and byte strings are sequences.
-/
def convert : ColumnType → Value → Except Failure Value
  | _, .null => .ok .null
  | null, _ => .error (.data .invalid)
  | bool, .bool b => .ok (.bool b)
  | bool, _ => .error (.data .invalid)
  | integer signed width, v => convertInteger signed width v
  | real precision, v => convertReal precision v
  | string, v => convertText v
  | largeString, v => convertText v
  | binary, v => convertBytes v
  | date, v => convertCount .w32 v
  | timestamp, v => convertCount .w64 v
  | list item, v =>
    match v with
    | .list vs => (vs.mapM (convert item)).map .list
    | .text _ | .bytes _ => (v.sequence.mapM (convert item)).map .list
    | _ => .error (.data .wrongKind)
  | struct fields, .dict es => (convertFields fields es).map .dict
  | struct _, _ => .error (.data .invalid)

/--
The entries of a mapping as the parts of a structured cell. Missing ones are absent.
-/
def convertFields : StructFields → List (String × Value) → Except Failure (List (String × Value))
  | .nil, _ => .ok []
  | .cons name type rest, es => do
    let v ← convert type (Value.lookup name es)
    return (name, v) :: (← convertFields rest es)

end

end ColumnType

/--
What is known of the data of a column: how many of each kind there are, and what is known of the
items of lists and of the parts of mappings.
-/
inductive Evidence where
  | mk (total absent bools ints reals texts byteStrings lists dicts : Nat)
    (items : Option Evidence) (parts : List (String × Evidence))

namespace Evidence

def empty : Evidence := mk 0 0 0 0 0 0 0 0 0 none []

instance : Inhabited Evidence := ⟨empty⟩

/--
The evidence on a part with another datum added by `f`. A new part comes last.
-/
def updatePart (name : String) (f : Evidence → Evidence) :
    List (String × Evidence) → List (String × Evidence)
  | [] => [(name, f empty)]
  | e :: es => if e.1 == name then (name, f e.2) :: es else e :: updatePart name f es

/--
Whether data after this one no longer count. Only integers, lists, mappings and the absent datum
leave the kind of a column open.
-/
def settles : Value → Bool
  | .bool _ | .real _ | .text _ | .bytes _ => true
  | _ => false

mutual

def observe : Evidence → Value → Evidence
  | mk t a b i r x y l d items parts, v =>
    match v with
    | .null => mk (t + 1) (a + 1) b i r x y l d items parts
    | .bool _ => mk (t + 1) a (b + 1) i r x y l d items parts
    | .int _ => mk (t + 1) a b (i + 1) r x y l d items parts
    | .real _ => mk (t + 1) a b i (r + 1) x y l d items parts
    | .text _ => mk (t + 1) a b i r (x + 1) y l d items parts
    | .bytes _ => mk (t + 1) a b i r x (y + 1) l d items parts
    | .list vs => mk (t + 1) a b i r x y (l + 1) d (some (observeItems (items.getD empty) vs)) parts
    | .dict es => mk (t + 1) a b i r x y l (d + 1) items (observeParts parts es)
    | .other _ => mk (t + 1) a b i r x y l d items parts

def observeItems : Evidence → List Value → Evidence
  | e, [] => e
  | e, v :: vs => if settles v then observe e v else observeItems (observe e v) vs

def observeParts : List (String × Evidence) → List (String × Value) → List (String × Evidence)
  | parts, [] => parts
  | parts, (name, v) :: es => observeParts (updatePart name (fun e => observe e v) parts) es

end

mutual

/--
The type that evidence speaks for. Lists and mappings do not mix with anything but the absent datum;
of several other kinds the first one of reals, integers, truth values, byte strings and texts wins.
-/
def type : Evidence → Except Failure ColumnType
  | mk t a b i r x y l d items parts =>
    if l > 0 then
      if l + a ≠ t then .error (.data .invalid)
      else
        match items with
        | some e => (type e).map .list
        | none => .ok (.list .null)
    else if d > 0 then
      if d + a ≠ t then .error (.data .invalid)
      else (typeParts parts).map .struct
    else if r > 0 then .ok (.real .double)
    else if i > 0 then .ok (.integer true .w64)
    else if b > 0 then .ok .bool
    else if y > 0 then .ok .binary
    else if x > 0 then .ok .string
    else .ok .null

def typeParts : List (String × Evidence) → Except Failure StructFields
  | [] => .ok .nil
  | (name, e) :: es => do
    let t ← type e
    return .cons name t (← typeParts es)

end

end Evidence

namespace ColumnType

/--
The type of a column with the given data. Texts become byte strings if any of the data is one.
-/
def infer (vs : List Value) : Except Failure ColumnType := do
  let type ← (Evidence.observeItems .empty vs).type
  return if type = .string ∧ vs.any Value.isBytes then .binary else type

end ColumnType

namespace Cells

def ofValues (declared? : Option ColumnType) (vs : List Value) : Except Failure Cells := do
  let type ← match declared? with
    | some type => pure type
    | none => ColumnType.infer vs
  return ⟨type, ← vs.mapM type.convert⟩

end Cells

end RankFusion
