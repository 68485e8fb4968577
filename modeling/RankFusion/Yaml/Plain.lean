import RankFusion.Number.Scalar
import RankFusion.Text.Base64
import RankFusion.Text.Case
import RankFusion.Yaml.Fault
import RankFusion.Yaml.Kind

/-!
This module contains what the text of a scalar of a given kind stands for.
-/

namespace RankFusion.Yaml

def operandFailure {α : Type} (fault : OperandFault) : Except Failure α := .error (.operand fault)

def readBool (s : String) : Except Failure Bool :=
  let word := lowerText s
  if ["yes", "true", "on"].contains word then .ok true
  else if ["no", "false", "off"].contains word then .ok false
  else operandFailure (.missingKey word)

def splitFirst (cs : List Char) : Except Failure (Bool × List Char) :=
  if cs.isEmpty then .error (.raised .index "string index out of range")
  else .ok (Numeral.splitSign cs)

def readMagnitude : List Char → Except Failure Int
  | [] => .error (.raised .index "string index out of range")
  | ['0'] => .ok 0
  | '0' :: 'b' :: ds => wholeIn 2 ds
  | '0' :: 'x' :: ds => wholeIn 16 ds
  | '0' :: ds => wholeIn 8 ('0' :: ds)
  | ds => do
    let ns ← (parts ':' ds).mapM (wholeIn 10)
    return ns.foldl (fun total n => 60 * total + n) 0
where
  /-- The integer that characters show in a base. -/
  wholeIn (base : Nat) (cs : List Char) : Except Failure Int :=
    let s := String.ofList cs
    Value.wholeOfText base (.text s) s

/--
The integer of a text. Underscores count for nothing.
-/
def readWhole (s : String) : Except Failure Int := do
  let (negative, ds) ← splitFirst (s.toList.filter (· != '_'))
  let n ← readMagnitude ds
  return if negative then -n else n

def readFraction (cs : List Char) : Except Failure Binary :=
  let s := String.ofList cs
  match Numeral.realOfText? s with
  | some x => .ok x
  | none => operandFailure (.notNumeral (.text s))

/--
The sum of parts of sixty, of which the last is the first of the list. Each step is rounded. It
fails once the unit is too large.
-/
def sumSixtieths (unit : Nat) (total : Binary) : List Binary → Except Failure Binary
  | [] => .ok total
  | x :: xs => do
    let part := Format.double.mul x (← Value.realOfInt unit)
    sumSixtieths (60 * unit) (Format.double.add total part) xs

/--
The number of a text, with a point or without. Underscores count for nothing.
-/
def readReal (s : String) : Except Failure Binary := do
  let lowered := lowerText (String.ofList (s.toList.filter (· != '_')))
  let (negative, ds) ← splitFirst lowered.toList
  let magnitude ←
    if ds == ".inf".toList then pure (.infinity false)
    else if ds == ".nan".toList then pure .nan
    else if ds.contains ':' then
      let xs ← (parts ':' ds).mapM readFraction
      sumSixtieths 1 .zero xs.reverse
    else readFraction ds
  return if negative then magnitude.neg else magnitude

def readMoment (s : String) : Except Failure Value :=
  match Moment.read? s.toList with
  | none => operandFailure (.missingAttribute "NoneType" "groupdict")
  | some m =>
    match m.fault? with
    | some fault => operandFailure fault
    | none => .ok (.other m.kindName)

/--
The datum that a scalar of a kind stands for. There is none of the kinds that are not scalar.
-/
def scalarValue (kind : Kind) (text : String) : Except ReadFault Value :=
  match kind with
  | .null => .ok .null
  | .text => .ok (.text text)
  | .bool => ((readBool text).map Value.bool).mapError .invalid
  | .integer => ((readWhole text).map Value.int).mapError .invalid
  | .real => ((readReal text).map Value.real).mapError .invalid
  | .moment => (readMoment text).mapError .invalid
  | .binary =>
    match Base64.decode? text.toList with
    | some bytes => .ok (.bytes bytes)
    | none => .error .malformed
  | _ => .error .malformed

end RankFusion.Yaml
