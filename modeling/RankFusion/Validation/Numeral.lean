import RankFusion.Number.Numeral

/-!
This module contains the reading of numbers from text in requests and settings. Integers may have a
sign, leading zeros, single underscores between characters, and a fraction that is zero.
-/

namespace RankFusion.Numeral

/--
A text without its underscores. None may stand at an end or beside another.
-/
def dropUnderscores? (cs : List Char) : Option (List Char) :=
  if cs.head? = some '_' ∨ cs.getLast? = some '_' ∨ (cs.zip cs.tail).any (· == ('_', '_')) then none
  else some (cs.filter (· != '_'))

def plainReal? (s : String) : Option Binary :=
  readReal? (trimBlanks s.toList) <|> (dropUnderscores? s.toList).bind readReal?

/--
What follows leading zeros, of which the last is `last`. One digit stays.
-/
def dropZeros? (last : Char) : List Char → Option (List Char)
  | [] => some [last]
  | c :: cs =>
    if c = '0' ∨ c = '_' then dropZeros? c cs
    else if isDigit c ∨ c = '-' then some (c :: cs)
    else if c = '.' then some (last :: c :: cs)
    else none

/--
An integer without leading zeros. It begins with a digit or a minus.
-/
def dropLeadingZeros? : List Char → Option (List Char)
  | [] => none
  | c :: cs =>
    if c = '0' then dropZeros? c cs
    else if isDigit c ∨ c = '-' then some (c :: cs)
    else none

def dropSignedZeros? : List Char → Option (List Char)
  | '-' :: cs => (dropLeadingZeros? cs).map ('-' :: ·)
  | cs => dropLeadingZeros? cs

/--
An integer without a fraction of zeros. A point alone is no fraction.
-/
def dropZeroFraction (cs : List Char) : List Char :=
  match cs.dropWhile (· != '.') with
  | '.' :: z :: zs => if (z :: zs).all (· == '0') then cs.takeWhile (· != '.') else cs
  | _ => cs

/--
A text without the plus in front of it. No minus may follow.
-/
def dropPlus? : List Char → Option (List Char)
  | '+' :: '-' :: _ => none
  | '+' :: cs => some cs
  | cs => some cs

def canonicalInteger? (s : String) : Option (List Char) := do
  let cs ← dropPlus? (trimBlanks s.toList)
  let cs := dropZeroFraction (← dropSignedZeros? cs)
  return (dropUnderscores? cs).getD cs

inductive IntegerText where
  | integer (n : Int)
  | tooLong
  | malformed

/--
The integer in a canonical text: an optional minus, and digits of which the first is zero only if it
is the only one. Digits that are too many are found before anything that follows them.
-/
def readCanonical (cs : List Char) : IntegerText :=
  let (negative, body) := match cs with
    | '-' :: body => (true, body)
    | body => (false, body)
  let ds := body.takeWhile isDigit
  if ds.head? = some '0' ∧ ds.length > 1 then .malformed
  else if cs.length - body.length + ds.length > digitLimit then .tooLong
  else if ds.isEmpty ∨ ds.length < body.length then .malformed
  else .integer (if negative then -(digitsValue ds : Int) else digitsValue ds)

def plainInteger (s : String) : IntegerText :=
  match canonicalInteger? s with
  | some cs => readCanonical cs
  | none => .malformed

end RankFusion.Numeral
