import RankFusion.Number.Numeral
import RankFusion.Text.Surrogate
import RankFusion.Value

/-!
This module contains the reading of JSON texts. The names of infinities and NaN count as numbers.
-/

namespace RankFusion.Json

def skipSpace (cs : List Char) : List Char :=
  cs.dropWhile fun c => c == ' ' || c == '\t' || c == '\n' || c == '\r'

def after? : List Char → List Char → Option (List Char)
  | [], cs => some cs
  | w :: ws, c :: cs => if w = c then after? ws cs else none
  | _ :: _, [] => none

def words : List (String × Value) :=
  [("null", .null), ("true", .bool true), ("false", .bool false), ("NaN", .real .nan),
   ("Infinity", .real (.infinity false)), ("-Infinity", .real (.infinity true))]

def readWord (cs : List Char) : Option (Value × List Char) :=
  words.findSome? fun w => (after? w.1.toList cs).map fun rest => (w.2, rest)

def hexValue? (c : Char) : Option Nat :=
  if '0' ≤ c ∧ c ≤ '9' then some (c.toNat - '0'.toNat)
  else if 'a' ≤ c ∧ c ≤ 'f' then some (c.toNat - 'a'.toNat + 10)
  else if 'A' ≤ c ∧ c ≤ 'F' then some (c.toNat - 'A'.toNat + 10)
  else none

def hexNumber? (cs : List Char) : Option Nat :=
  cs.foldlM (fun n c => (hexValue? c).map (16 * n + ·)) 0

def readUnit (cs : List Char) : Option (Nat × List Char) :=
  if (cs.take 4).length = 4 then (hexNumber? (cs.take 4)).map fun n => (n, cs.drop 4) else none

/--
The character of a code unit, which may be the first of a pair.
-/
def readEscapedChar (cs : List Char) : Option (Char × List Char) := do
  let (high, rest) ← readUnit cs
  let alone := (charOfUnit high, rest)
  if 0xd800 ≤ high ∧ high < 0xdc00 then
    match rest with
    | '\\' :: 'u' :: more =>
      match readUnit more with
      | some (low, rest) =>
        if 0xdc00 ≤ low ∧ low < 0xe000 then
          return (Char.ofNat (0x10000 + (high - 0xd800) * 0x400 + (low - 0xdc00)), rest)
        else return alone
      | none => return alone
    | _ => return alone
  else return alone

def escape? : Char → Option Char
  | '\x22' => some '\x22'
  | '\\' => some '\\'
  | '/' => some '/'
  | 'b' => some '\x08'
  | 'f' => some '\x0c'
  | 'n' => some '\n'
  | 'r' => some '\r'
  | 't' => some '\t'
  | _ => none

/--
The characters up to the quotation mark that ends a text. The fuel bounds their number.
-/
def readChars (fuel : Nat) (cs : List Char) : Option (List Char × List Char) :=
  match fuel, cs with
  | 0, _ | _, [] => none
  | n + 1, '\\' :: 'u' :: rest => do
    let (c, rest) ← readEscapedChar rest
    let (more, rest) ← readChars n rest
    return (c :: more, rest)
  | n + 1, '\\' :: e :: rest => do
    let c ← escape? e
    let (more, rest) ← readChars n rest
    return (c :: more, rest)
  | n + 1, c :: rest =>
    if c = '\x22' then some ([], rest)
    else if c = '\\' ∨ c < ' ' then none
    else (readChars n rest).map fun (more, rest) => (c :: more, rest)

def readText (cs : List Char) : Option (String × List Char) :=
  (readChars (cs.length + 1) cs).map fun (text, rest) => (String.ofList text, rest)

/--
The digits of the whole part of a number. There is no zero in front of others.
-/
def readWhole : List Char → Option (List Char × List Char)
  | '0' :: rest => some (['0'], rest)
  | cs =>
    match cs.takeWhile Numeral.isDigit with
    | [] => none
    | ds => some (ds, cs.dropWhile Numeral.isDigit)

def readFraction (cs : List Char) : List Char × List Char :=
  match cs with
  | '.' :: rest =>
    match rest.takeWhile Numeral.isDigit with
    | [] => ([], cs)
    | ds => ('.' :: ds, rest.dropWhile Numeral.isDigit)
  | _ => ([], cs)

def readExponent (cs : List Char) : List Char × List Char :=
  match cs with
  | e :: rest =>
    if e = 'e' ∨ e = 'E' then
      let (sign, digits) := match rest with
        | '-' :: more => (['-'], more)
        | '+' :: more => (['+'], more)
        | more => ([], more)
      match digits.takeWhile Numeral.isDigit with
      | [] => ([], cs)
      | ds => ('e' :: sign ++ ds, digits.dropWhile Numeral.isDigit)
    else ([], cs)
  | [] => ([], cs)

/--
A number. It is an integer if it has neither fraction nor exponent.
-/
def readNumber (cs : List Char) : Option (Value × List Char) := do
  let (sign, body) := match cs with
    | '-' :: rest => (['-'], rest)
    | rest => ([], rest)
  let (whole, rest) ← readWhole body
  let (fraction, rest) := readFraction rest
  let (exponent, rest) := readExponent rest
  if fraction.isEmpty && exponent.isEmpty then
    if whole.length > Numeral.digitLimit then none
    else return (.int (← Numeral.readInteger? (sign ++ whole)), rest)
  else return (.real (← Numeral.readReal? (sign ++ whole ++ fraction ++ exponent)), rest)

mutual

/--
A value at the start of a text. The fuel bounds how deep values are nested and how many there are.
-/
def readValue (fuel : Nat) (cs : List Char) : Option (Value × List Char) :=
  match fuel with
  | 0 => none
  | n + 1 =>
    match skipSpace cs with
    | '\x22' :: rest => (readText rest).map fun (s, rest) => (.text s, rest)
    | '[' :: rest =>
      match skipSpace rest with
      | ']' :: rest => some (.list [], rest)
      | rest => (readItems n rest).map fun (vs, rest) => (.list vs, rest)
    | '\x7b' :: rest =>
      match skipSpace rest with
      | '\x7d' :: rest => some (.dict [], rest)
      | rest => (readEntries n rest []).map fun (es, rest) => (.dict es, rest)
    | rest => readWord rest <|> readNumber rest

def readItems (fuel : Nat) (cs : List Char) : Option (List Value × List Char) :=
  match fuel with
  | 0 => none
  | n + 1 => do
    let (v, rest) ← readValue n cs
    match skipSpace rest with
    | ',' :: rest => (readItems n rest).map fun (vs, rest) => (v :: vs, rest)
    | ']' :: rest => some ([v], rest)
    | _ => none

/--
The entries of a mapping that is not empty, after those that were read, and the end of the mapping.
Of entries with the same key the last counts.
-/
def readEntries (fuel : Nat) (cs : List Char) (es : List (String × Value)) :
    Option (List (String × Value) × List Char) :=
  match fuel with
  | 0 => none
  | n + 1 =>
    match skipSpace cs with
    | '\x22' :: rest => do
      let (key, rest) ← readText rest
      match skipSpace rest with
      | ':' :: rest =>
        let (v, rest) ← readValue n rest
        match skipSpace rest with
        | ',' :: rest => readEntries n rest (Value.insert key v es)
        | '\x7d' :: rest => some (Value.insert key v es, rest)
        | _ => none
      | _ => none
    | _ => none

end

def read? (s : String) : Option Value := do
  let cs := s.toList
  let (v, rest) ← readValue (2 * cs.length + 2) cs
  if (skipSpace rest).isEmpty then some v else none

end RankFusion.Json
