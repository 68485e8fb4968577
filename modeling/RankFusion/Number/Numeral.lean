import RankFusion.Number.Decimal
import RankFusion.Text.Digit

/-!
This module contains the reading of numbers from text.
-/

namespace RankFusion.Numeral

def isDigit (c : Char) : Bool := '0' ≤ c && c ≤ '9'

def digitLimit : Nat := 4300

def isWithinLimit (n : Int) : Bool := (Nat.toDigits 10 n.natAbs).length ≤ digitLimit

def digitsValue (ds : List Char) : Nat :=
  ds.foldl (fun n c => 10 * n + (c.toNat - '0'.toNat)) 0

def splitSign : List Char → Bool × List Char
  | '-' :: cs => (true, cs)
  | '+' :: cs => (false, cs)
  | cs => (false, cs)

def lower (cs : List Char) : List Char := cs.map Char.toLower

def readInteger? (cs : List Char) : Option Int :=
  let (negative, ds) := splitSign cs
  if ds.isEmpty || !ds.all isDigit then none
  else some (if negative then -(digitsValue ds : Int) else digitsValue ds)

/--
The exponent at the end of a number. An empty text is the exponent zero.
-/
def readExponent? : List Char → Option Int
  | [] => some 0
  | c :: cs => if c = 'e' ∨ c = 'E' then readInteger? cs else none

/--
Digits with an optional point and exponent. There is a digit before or after the point.
-/
def readMagnitude? (negative : Bool) (cs : List Char) : Option Binary :=
  let whole := cs.takeWhile isDigit
  let afterWhole := cs.dropWhile isDigit
  let (fraction, afterFraction) :=
    match afterWhole with
    | '.' :: rest => (rest.takeWhile isDigit, rest.dropWhile isDigit)
    | rest => ([], rest)
  if whole.isEmpty && fraction.isEmpty then none
  else
    (readExponent? afterFraction).map fun exponent =>
      Decimal.read negative (digitsValue (whole ++ fraction)) (exponent - fraction.length)

def readReal? (cs : List Char) : Option Binary :=
  let (negative, rest) := splitSign cs
  let word := String.ofList (lower rest)
  if word = "inf" ∨ word = "infinity" then some (.infinity negative)
  else if word = "nan" then some .nan
  else readMagnitude? negative rest

/--
A text without its underscores, each of which has to stand between two digits. The first argument
tells whether a digit came before.
-/
def joinDigitGroups? (afterDigit : Bool) : List Char → Option (List Char)
  | [] => some []
  | '_' :: cs =>
    match cs with
    | c :: _ => if afterDigit && isDigit c then joinDigitGroups? false cs else none
    | [] => none
  | c :: cs => (joinDigitGroups? (isDigit c) cs).map (c :: ·)

/--
A text with the digits of every script replaced by the ASCII ones, and without the blanks at its
ends.
-/
def normalize (s : String) : List Char :=
  (trimBlanks s.toList).map fun c =>
    match digitValue? c with
    | some d => Char.ofNat ('0'.toNat + d)
    | none => c

def realOfText? (s : String) : Option Binary :=
  (joinDigitGroups? false (normalize s)).bind readReal?

/--
The value of a digit. The letters follow the digits, whatever their case.
-/
def digitOf? (c : Char) : Option Nat :=
  let l := c.toLower
  if isDigit c then some (c.toNat - '0'.toNat)
  else if 'a' ≤ l && l ≤ 'z' then some (10 + (l.toNat - 'a'.toNat))
  else none

def isDigitIn (base : Nat) (c : Char) : Bool := (digitOf? c).any (· < base)

def valueIn (base : Nat) (ds : List Char) : Nat :=
  ds.foldl (fun n c => base * n + (digitOf? c).getD 0) 0

def baseLetter? : Nat → Option Char
  | 2 => some 'b'
  | 8 => some 'o'
  | 16 => some 'x'
  | _ => none

/--
A text without the mark of a base in front. An underscore may follow the mark.
-/
def dropBaseMark (base : Nat) : List Char → List Char
  | '0' :: c :: cs =>
    if baseLetter? base = some c.toLower then
      match cs with
      | '_' :: rest => rest
      | rest => rest
    else '0' :: c :: cs
  | cs => cs

def ungroup? : List Char → Option (List Char)
  | [] => none
  | '_' :: _ => none
  | [c] => some [c]
  | c :: '_' :: cs => (ungroup? cs).map (c :: ·)
  | c :: cs => (ungroup? cs).map (c :: ·)

inductive Whole where
  | value (n : Int)
  /-- The text starts with more digits than an integer may have. -/
  | tooLong (digits : Nat)
  | malformed
  deriving DecidableEq

def isUnlimited (base : Nat) : Bool := base == 2 || base == 8 || base == 16

/--
The integer that a text shows in a base: an optional sign, an optional mark of the base, and digits
with underscores between them. What follows too many digits is not looked at.
-/
def readWhole (base : Nat) (cs : List Char) : Whole :=
  let (negative, signless) := splitSign cs
  let body := dropBaseMark base signless
  let run := body.takeWhile fun c => c == '_' || isDigitIn base c
  match ungroup? run with
  | none => .malformed
  | some ds =>
    if !isUnlimited base && ds.length > digitLimit then .tooLong ds.length
    else if run.length < body.length then .malformed
    else .value (if negative then -(valueIn base ds : Int) else valueIn base ds)

def wholeOfText (base : Nat) (s : String) : Whole := readWhole base (normalize s)

end RankFusion.Numeral
