import RankFusion.Error
import RankFusion.Number.Numeral

/-!
This module contains the operations that take data of any kind and fail on those of the wrong one:
comparison, conversion to a number, length and iteration.
-/

namespace RankFusion

inductive Comparison where
  | lt
  | le
  | gt
  | ge
  deriving DecidableEq, Repr

namespace Comparison

def sign : Comparison → String
  | lt => "<"
  | le => "<="
  | gt => ">"
  | ge => ">="

/--
Whether a relation holds between two numbers. None holds if one of them is NaN.
-/
def onReal : Comparison → Binary → Binary → Bool
  | lt, x, y => x.lt y
  | le, x, y => x.le y
  | gt, x, y => y.lt x
  | ge, x, y => y.le x

def onOrdering : Comparison → Ordering → Bool
  | lt, o => o == .lt
  | le, o => o != .gt
  | gt, o => o == .gt
  | ge, o => o != .lt

end Comparison

namespace Value

def orderBytes : List UInt8 → List UInt8 → Ordering
  | [], [] => .eq
  | [], _ :: _ => .lt
  | _ :: _, [] => .gt
  | b :: bs, c :: cs => (compare b.toNat c.toNat).then (orderBytes bs cs)

def orderText (s t : String) : Ordering :=
  if s < t then .lt else if t < s then .gt else .eq

mutual

/--
Whether a relation holds between two data. Numbers are ordered by value, texts and byte strings
character by character, and lists by their first unequal items; nothing else is ordered.
-/
def compare (c : Comparison) : Value → Value → Except Failure Bool
  | text s, text t => .ok (c.onOrdering (orderText s t))
  | bytes s, bytes t => .ok (c.onOrdering (orderBytes s t))
  | list vs, list ws => compareList c vs ws
  | v, w =>
    match v.number?, w.number? with
    | some x, some y => .ok (c.onReal x y)
    | _, _ => .error (.operand (.unordered c.sign v.kindName w.kindName))

def compareList (c : Comparison) : List Value → List Value → Except Failure Bool
  | [], [] => .ok (c.onOrdering .eq)
  | [], _ :: _ => .ok (c.onOrdering .lt)
  | _ :: _, [] => .ok (c.onOrdering .gt)
  | v :: vs, w :: ws => if v.sameKey w then compareList c vs ws else v.compare c w

end

def realOfInt (n : Int) : Except Failure Binary :=
  match Format.double.ofInt n with
  | .infinity _ => .error (.operand .tooLargeForReal)
  | x => .ok x

def asciiText? (bs : List UInt8) : Option String :=
  if bs.all (· < 128) then some (String.ofList (bs.map fun b => Char.ofNat b.toNat)) else none

def toReal : Value → Except Failure Binary
  | bool b => .ok (if b then .one else .zero)
  | int n => realOfInt n
  | real x => .ok x
  | text s =>
    match Numeral.realOfText? s with
    | some x => .ok x
    | none => .error (.operand (.notNumeral (text s)))
  | bytes bs =>
    match (asciiText? bs).bind Numeral.realOfText? with
    | some x => .ok x
    | none => .error (.operand (.notNumeral (bytes bs)))
  | v => .error (.operand (.notNumber v.kindName))

def isWord (n : Int) : Bool := -0x8000000000000000 ≤ n && n < 0x8000000000000000

def word (n : Int) : Except Failure Int :=
  if isWord n then .ok n else .error (.operand .tooLargeForWord)

def wholeOfText (base : Nat) (shown : Value) (s : String) : Except Failure Int :=
  match Numeral.wholeOfText base s with
  | .value n => .ok n
  | .tooLong digits => .error (.operand (.tooManyDigits Numeral.digitLimit digits))
  | .malformed => .error (.operand (.notIntegral shown base))

/--
A datum as a signed 64 bit integer. A fraction is dropped, and a text may show an integer.
-/
def toWord : Value → Except Failure Int
  | bool b => .ok (if b then 1 else 0)
  | int n => word n
  | real .nan => .error (.operand .nanInteger)
  | real x =>
    match x.truncate? with
    | some n => word n
    | none => .error (.operand .infiniteInteger)
  | text s => do word (← wholeOfText 10 (text s) s)
  | bytes bs =>
    match asciiText? bs with
    | some s => do word (← wholeOfText 10 (bytes bs) s)
    | none => .error (.operand (.notIntegral (bytes bs)))
  | v => .error (.operand (.notWhole v.kindName))

/--
The part of a datum under a name. Only a mapping has such parts.
-/
def part (name : String) : Value → Except Failure Value
  | dict es =>
    match lookup? name es with
    | some v => .ok v
    | none => .error (.operand (.missingKey name))
  | v => .error (.operand (.notKeyed v.kindName))

def requireKey (v : Value) : Except Failure Unit :=
  match v.notKey? with
  | some kind => .error (.operand (.unhashable kind))
  | none => .ok ()

def length : Value → Except Failure Nat
  | text s => .ok s.length
  | bytes bs => .ok bs.length
  | list vs => .ok vs.length
  | dict es => .ok es.length
  | v => .error (.operand (.noLength v.kindName))

/--
The parts of a sequence: the characters of a text, the numbers of a byte string, the items of a
list. All other data have none.
-/
def sequence : Value → List Value
  | text s => s.toList.map fun c => text (String.singleton c)
  | bytes bs => bs.map fun b => int b.toNat
  | list vs => vs
  | _ => []

def items : Value → Except Failure (List Value)
  | dict es => .ok (es.map fun e => text e.1)
  | v =>
    match v with
    | text _ | bytes _ | list _ => .ok v.sequence
    | _ => .error (.operand (.notIterable v.kindName))

def requirePrintable (vs : List Value) : Except Failure Unit :=
  if vs.all isPrintable then .ok () else .error .unprintable

def pair (v : Value) : Except Failure (Value × Value) :=
  match v.items with
  | .error _ => .error (.operand (.notUnpackable v.kindName))
  | .ok [a, b] => .ok (a, b)
  | .ok vs =>
    if vs.length < 2 then .error (.operand (.tooFewItems 2 vs.length))
    else .error (.operand (.tooManyItems 2))

def vector (v : Value) : Except Failure (List Binary) := do
  (← v.items).mapM toReal

end Value

/--
The place of the receiver among the parameters of a callee. It is always taken.
-/
def receiver : String := "self"

/--
Requires every keyword of a call to be one of the parameters of the callee that are free. The
receiver is taken, and so are the parameters that the call gives by position.
-/
def requireFreeKeywords (callee : String) (given parameters : List String)
    (entries : List (String × Value)) : Except Failure Unit :=
  entries.forM fun e =>
    if e.1 = receiver ∨ e.1 ∈ given then .error (.operand (.repeatedArgument callee e.1))
    else if e.1 ∈ parameters then .ok ()
    else .error (.operand (.unexpectedKeyword callee e.1))

def requireKeywords (callee : String) (parameters : List String)
    (entries : List (String × Value)) : Except Failure Unit :=
  requireFreeKeywords callee [] parameters entries

end RankFusion
