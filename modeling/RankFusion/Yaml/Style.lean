import RankFusion.Yaml.Cursor
import RankFusion.Yaml.Plain

/-!
This module contains the choice of the way in which a text is written. It is written plain where it
stands for itself then, and in quotation marks otherwise.
-/

namespace RankFusion.Yaml

namespace Kind

def isLooseExponent : List Char → Bool
  | e :: rest =>
    let ds := (Numeral.splitSign rest).2
    (e == 'e' || e == 'E') && !ds.isEmpty && ds.all Numeral.isDigit
  | [] => false

/--
Whether a text reads as an integer in the present form of the format. That has no parts of sixty,
but a mark for base 8.
-/
def readsAsInteger (cs : List Char) : Bool :=
  let digits := fun (isDigit : Char → Bool) (ds : List Char) =>
    !ds.isEmpty && ds.all (isGrouped isDigit)
  let ds := (Numeral.splitSign cs).2
  cs.head? != some '_' &&
    (digits Numeral.isDigit ds ||
      match ds with
      | '0' :: 'b' :: ds => digits (fun c => c == '0' || c == '1') ds
      | '0' :: 'o' :: ds => digits (fun c => Numeral.isDigit c && c ≤ '7') ds
      | '0' :: 'x' :: ds => digits (fun c => (Json.hexValue? c).isSome) ds
      | _ => false)

def readsAsReal (cs : List Char) : Bool :=
  let isGroup := isGrouped Numeral.isDigit
  let ds := (Numeral.splitSign cs).2
  match ds with
  | '.' :: rest =>
    isWord ["inf"] rest || isNaN cs ||
      (rest.head?.any isGroup && isExponent (rest.dropWhile isGroup))
  | d :: _ =>
    Numeral.isDigit d &&
      match ds.dropWhile isGroup with
      | '.' :: rest => (rest.dropWhile isGroup).isEmpty || isLooseExponent (rest.dropWhile isGroup)
      | rest => isLooseExponent rest
  | [] => false

def readsAsOther (cs : List Char) : Bool :=
  isWord ["true", "false", "null"] cs || readsAsInteger cs || readsAsReal cs ||
    Moment.isMoment cs || cs == ['<', '<'] || cs == ['='] || cs == ['~'] || cs.isEmpty

end Kind

def separates (c : Option Char) : Bool := endsWord c || c == some '\x00'

def hasMark (first afterBlank : Bool) : List Char → Bool
  | [] => false
  | c :: cs =>
    let alone := separates cs.head?
    (if first then
        isOneOf "#,[]\x7b\x7d&*!|>\x27\x22%@\x60" c || ((c == '?' || c == '-') && alone)
      else c == '#' && afterBlank) ||
      (c == ':' && alone) || hasMark false (separates (some c)) cs

def needsEscape (c : Char) : Bool :=
  !(c == '\n' || (' ' ≤ c && c ≤ '~') || c == '\x85' ||
    ('\xa0' ≤ c && c ≤ '\ufffd' && c != '\ufeff') || 0x10000 ≤ c.toNat)

def hasMixedBlanks (cs : List Char) : Bool :=
  (cs.zip cs.tail).any fun (c, d) => (isBreak c && d == ' ') || (c == ' ' && isBreak d)

inductive Style where
  | plain
  | single
  | double
  deriving DecidableEq, Repr

def allowsPlain (cs : List Char) : Bool :=
  let atEdge := fun (c : Option Char) => c.any (· == ' ')
  !Kind.readsAsOther cs && !hasMark true true cs && !atEdge cs.head? && !atEdge cs.getLast? &&
    !(cs.any fun c => isBreak c || needsEscape c) && cs.take 3 != ['-', '-', '-'] &&
    cs.take 3 != ['.', '.', '.']

def Style.ofText (cs : List Char) : Style :=
  if allowsPlain cs then plain
  else if cs.contains '\x27' || cs.contains '\n' || cs.any needsEscape || hasMixedBlanks cs then
    double
  else single

end RankFusion.Yaml
