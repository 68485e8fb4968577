import RankFusion.Number.Scalar
import RankFusion.Validation.Basic
import RankFusion.Validation.Numeral

/-!
This module contains the readers of typed values from data. Numbers and truth values are also taken
from text, where it shows one, and from each other, where nothing is lost. Bytes count as the text
that they encode.
-/

namespace RankFusion

abbrev Reader (α : Type) := Value → Checked α

/--
The bounds of a number. A bound that is absent is not checked.
-/
structure Bounds where
  atMost : Option Binary := none
  below : Option Binary := none
  atLeast : Option Binary := none
  above : Option Binary := none

namespace Bounds

/--
The bound that a number breaks. NaN breaks the lower bounds only.
-/
def broken? (b : Bounds) (x : Binary) : Option IssueKind :=
  if b.atMost.any fun m => m.lt x then some .lessThanEqual
  else if b.below.any fun m => m.le x then some .lessThan
  else if b.atLeast.any fun m => !m.le x then some .greaterThanEqual
  else if b.above.any fun m => !m.lt x then some .greaterThan
  else none

def positive : Bounds := { above := some .zero }

def nonNegative : Bounds := { atLeast := some .zero }

def unit : Bounds := { atMost := some .one, atLeast := some .zero }

end Bounds

namespace Reader

variable {α : Type}

/--
A datum with bytes replaced by the text that they encode. Bytes that encode none stay.
-/
def decoded : Value → Value
  | .bytes bs =>
    match String.fromUTF8? ⟨bs.toArray⟩ with
    | some s => .text s
    | none => .bytes bs
  | v => v

def text : Reader String := fun v =>
  match decoded v with
  | .text s => .valid s
  | .bytes _ => .fail .stringUnicode
  | _ => .fail .stringType

def wellFormed (s : String) (x : Checked α) : Checked α :=
  if isWellFormed s then x else .fail .stringUnicode

def real : Reader Binary := fun v =>
  match decoded v with
  | .text s =>
    wellFormed s <|
      match Numeral.plainReal? s with
      | some x => .valid x
      | none => .fail .floatParsing
  | .bytes _ => .fail .floatParsing
  | v =>
    match Scalar.ofValue? v with
    | some s =>
      match s.toReal with
      | .ok x => .valid x
      | .error _ => .fail .floatType
    | none => .fail .floatType

def wholeReal (x : Binary) : Checked Int :=
  if !x.isFinite then .fail .finiteNumber
  else if !x.isInteger then .fail .intFromFloat
  else
    match x.truncate? with
    | some n =>
      .require (decide (-0x8000000000000000 < n ∧ n < 0x8000000000000000)) .intParsingSize n
    | none => .fail .finiteNumber

def integer : Reader Int := fun v =>
  match decoded v with
  | .bool b => .valid (Scalar.bool b).whole
  | .int n => .valid n
  | .real x => wholeReal x
  | .text s =>
    wellFormed s <|
      match Numeral.plainInteger s with
      | .integer n => .valid n
      | .tooLong => .fail .intParsingSize
      | .malformed => .fail .intParsing
  | .bytes _ => .fail .intParsing
  | _ => .fail .intType

def truthOfInt (n : Int) : Checked Bool :=
  if n = 0 then .valid false else if n = 1 then .valid true else .fail .boolParsing

def falseWords : List String := ["0", "off", "f", "false", "n", "no"]

def trueWords : List String := ["1", "on", "t", "true", "y", "yes"]

def truthOfWord (s : String) : Checked Bool :=
  let word := String.ofList (Numeral.lower s.toList)
  if word ∈ falseWords then .valid false
  else if word ∈ trueWords then .valid true
  else .fail .boolParsing

def truth : Reader Bool := fun v =>
  match decoded v with
  | .bool b => .valid b
  | .int n => if Value.isWord n then truthOfInt n else .fail .boolType
  | .real x =>
    match wholeReal x with
    | .valid n => truthOfInt n
    | .invalid _ => .fail .boolType
  | .text s => wellFormed s (truthOfWord s)
  | .bytes _ => .fail .boolParsing
  | _ => .fail .boolType

def member (ofName? : String → Option α) : Reader α := fun v =>
  match decoded v with
  | .text s =>
    match ofName? s with
    | some x => .valid x
    | none => .fail .member
  | _ => .fail .member

def optional (r : Reader α) : Reader (Option α)
  | .null => .valid none
  | v => (r v).map some

def boundedReal (b : Bounds) : Reader Binary := fun v =>
  (real v).bind fun x =>
    match b.broken? x with
    | some kind => .fail kind
    | none => .valid x

def boundedInteger (b : Bounds) : Reader Int := fun v =>
  (integer v).bind fun n =>
    match b.broken? (Scalar.int n).exact with
    | some kind => .fail kind
    | none => .valid n

def items (r : Reader α) (position : Nat) : List Value → Checked (List α)
  | [] => .valid []
  | v :: vs => .both (· :: ·) ((r v).under (.position position)) (items r (position + 1) vs)

def list (r : Reader α) : Reader (List α)
  | .list vs => items r 0 vs
  | _ => .fail .listType

def listAtLeast (least : Nat) (r : Reader α) : Reader (List α) := fun v =>
  (list r v).bind fun xs => .require (decide (least ≤ xs.length)) .tooShort xs

/--
Reads a list of an exact length. One that is too long is not read further.
-/
def listOfLength (length : Nat) (r : Reader α) : Reader (List α) := fun v =>
  match v with
  | .list vs =>
    if vs.length > length then .fail .tooLong
    else (items r 0 vs).bind fun xs => .require (decide (length ≤ xs.length)) .tooShort xs
  | _ => .fail .listType

def entries (r : Reader α) : List (String × Value) → Checked (List (String × α))
  | [] => .valid []
  | (name, v) :: es =>
    .both (fun x xs => (name, x) :: xs) ((r v).under (.name name)) (entries r es)

def dict (r : Reader α) : Reader (List (String × α))
  | .dict es => entries r es
  | _ => .fail .dictType

end Reader

end RankFusion
