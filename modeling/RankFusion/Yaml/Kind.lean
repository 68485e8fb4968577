import RankFusion.Json.Reader
import RankFusion.Number.Numeral
import RankFusion.Yaml.Moment

/-!
This module contains the kinds of data in documents. A plain scalar shows its kind by its text; a
tag may name a kind for any node.
-/

namespace RankFusion.Yaml

inductive Kind where
  | null
  | bool
  | integer
  | real
  | moment
  | binary
  | text
  /-- The key under which a mapping takes up the entries of others. -/
  | merge
  /-- A mark that is a text as a key, and nothing as a value. -/
  | mark
  | list
  | dict
  | set
  /-- A list of pairs that is written as a sequence of mappings with one entry each. -/
  | pairs
  /-- A kind that no data have. -/
  | unknown
  deriving DecidableEq, Repr

def parts (mark : Char) : List Char → List (List Char)
  | [] => [[]]
  | c :: cs =>
    if c = mark then [] :: parts mark cs
    else
      match parts mark cs with
      | p :: ps => (c :: p) :: ps
      | [] => [[c]]

namespace Kind

def isWord (words : List String) (cs : List Char) : Bool :=
  words.any fun w =>
    let ws := w.toList
    cs == ws || cs == ws.map Char.toUpper || cs == (ws.take 1).map Char.toUpper ++ ws.drop 1

def isGrouped (isDigit : Char → Bool) (c : Char) : Bool := isDigit c || c == '_'

def isSixtieth : List Char → Bool
  | [d] => Numeral.isDigit d
  | [t, d] => Numeral.isDigit t && t ≤ '5' && Numeral.isDigit d
  | _ => false

def isInteger (cs : List Char) : Bool :=
  let digits := fun (isDigit : Char → Bool) (ds : List Char) =>
    !ds.isEmpty && ds.all (isGrouped isDigit)
  match (Numeral.splitSign cs).2 with
  | ['0'] => true
  | '0' :: 'b' :: ds => digits (fun c => c == '0' || c == '1') ds
  | '0' :: 'x' :: ds => digits (fun c => (Json.hexValue? c).isSome) ds
  | '0' :: ds => digits (fun c => Numeral.isDigit c && c ≤ '7') ds
  | d :: ds =>
    Numeral.isDigit d &&
      match parts ':' ds with
      | whole :: sixtieths => whole.all (isGrouped Numeral.isDigit) && sixtieths.all isSixtieth
      | [] => false
  | [] => false

def isExponent : List Char → Bool
  | [] => true
  | [_] | [_, _] => false
  | e :: sign :: ds =>
    (e == 'e' || e == 'E') && (sign == '+' || sign == '-') && ds.all Numeral.isDigit

def isNaN (cs : List Char) : Bool := [".nan", ".NaN", ".NAN"].contains (String.ofList cs)

def isReal (cs : List Char) : Bool :=
  let isGroup := isGrouped Numeral.isDigit
  let ds := (Numeral.splitSign cs).2
  match ds with
  | '.' :: d :: rest =>
    if Numeral.isDigit d then cs == ds && isExponent (rest.dropWhile isGroup)
    else isWord ["inf"] (d :: rest) || isNaN cs
  | d :: _ =>
    Numeral.isDigit d &&
      match ds.dropWhile isGroup with
      | '.' :: rest => isExponent (rest.dropWhile isGroup)
      | ':' :: rest =>
        match parts '.' rest with
        | [sixtieths, fraction] => (parts ':' sixtieths).all isSixtieth && fraction.all isGroup
        | _ => false
      | _ => false
  | [] => false

/--
The kind that a line of text shows. A mark that is an indicator of structure shows none.
-/
def ofLine (cs : List Char) : Kind :=
  if isWord ["yes", "no", "true", "false", "on", "off"] cs then bool
  else if isReal cs then real
  else if isInteger cs then integer
  else if cs == ['<', '<'] then merge
  else if cs.isEmpty || cs == ['~'] || isWord ["null"] cs then null
  else if Moment.isMoment cs then moment
  else if cs == ['='] then mark
  else if [['!'], ['&'], ['*']].contains cs then unknown
  else text

/--
The kind that a text shows. A line end after it makes no difference, unless there is nothing else.
-/
def ofText (cs : List Char) : Kind := if cs == ['\n'] then text else ofLine (dropLineEnd cs)

def ofTag (name : String) : Kind :=
  ([("tag:yaml.org,2002:null", null), ("tag:yaml.org,2002:bool", bool),
    ("tag:yaml.org,2002:int", integer), ("tag:yaml.org,2002:float", real),
    ("tag:yaml.org,2002:timestamp", moment), ("tag:yaml.org,2002:binary", binary),
    ("tag:yaml.org,2002:str", text), ("tag:yaml.org,2002:merge", merge),
    ("tag:yaml.org,2002:value", mark), ("tag:yaml.org,2002:seq", list),
    ("tag:yaml.org,2002:map", dict), ("tag:yaml.org,2002:set", set),
    ("tag:yaml.org,2002:omap", pairs), ("tag:yaml.org,2002:pairs", pairs)].lookup name).getD unknown

/--
The kind of a scalar with a text and a tag. Without a tag, one that is not plain is a text.
-/
def ofScalar (plain : Bool) (tag : Option String) (text : String) : Kind :=
  match tag with
  | none => if plain then ofText text.toList else .text
  | some "!" => ofText text.toList
  | some name => ofTag name

/--
The kind of a collection with a tag. Without one, it is the usual one for the shape.
-/
def ofCollection (usual : Kind) : Option String → Kind
  | none | some "!" => usual
  | some name => ofTag name

def isCollection : Kind → Bool
  | list | dict | set | pairs => true
  | _ => false

end Kind

end RankFusion.Yaml
