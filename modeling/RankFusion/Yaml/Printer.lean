import RankFusion.Text.Quoted
import RankFusion.Value
import RankFusion.Yaml.Style

/-!
This module contains the writing of documents that consist of sections with entries.
-/

namespace RankFusion.Yaml

inductive Leaf where
  | null
  | bool (b : Bool)
  | int (n : Int)
  | real (x : Binary)
  | text (s : String)

/--
What a document shows of a datum. It has no infinities and no NaN.
-/
def Leaf.ofValue : Value → Leaf
  | .bool b => bool b
  | .int n => int n
  | .real x => if x.isFinite then real x else null
  | .text s => text s
  | _ => null

def Leaf.toValue : Leaf → Value
  | null => .null
  | bool b => .bool b
  | int n => .int n
  | real x => .real x
  | text s => .text s

def lineWidth : Nat := 80

def newLine (indent : Nat) : List Char := '\n' :: List.replicate indent ' '

def wordLength (cs : List Char) : Nat := (cs.takeWhile (· != ' ')).length

/--
The rest of a plain text behind a character, from a column on. A line is broken in front of a word
that would end behind the width of a line, if it is not the first word of its line, and at a single
space behind that width.
-/
def foldPlain (indent column : Nat) (before : Char) : List Char → List Char
  | [] => []
  | c :: cs =>
    if before != ' ' && c == ' ' && cs.head?.any (· != ' ') && lineWidth < column then
      newLine indent ++ foldPlain indent indent c cs
    else if before == ' ' && c != ' ' && indent < column &&
        lineWidth < column + wordLength (c :: cs) then
      newLine indent ++ c :: foldPlain indent (indent + 1) c cs
    else c :: foldPlain indent (column + 1) c cs

/--
The rest of a text within single quotation marks, behind a character and from a column on. A line is
broken at a single space, but not at the last character.
-/
def foldText (indent column : Nat) (before : Char) : List Char → List Char
  | [] => []
  | c :: cs =>
    let next := cs.head?
    if c == ' ' && before != ' ' && next.any (· != ' ') && lineWidth < column then
      newLine indent ++ foldText indent indent c cs
    else if isBreak c && !next.any isBreak then
      c :: (newLine indent).tail ++ foldText indent indent c cs
    else c :: foldText indent (column + 1) c cs

def capitalDigits (width n : Nat) : List Char := (hexDigits width n).map Char.toUpper

def shortEscapes : List (Char × Char) :=
  [('\x00', '0'), ('\x07', 'a'), ('\x08', 'b'), ('\t', 't'), ('\n', 'n'), ('\x0b', 'v'),
   ('\x0c', 'f'), ('\r', 'r'), ('\x1b', 'e'), ('\x22', '\x22'), ('\\', '\\'), ('\x85', 'N'),
   ('\u2028', 'L'), ('\u2029', 'P')]

def escapeChar? (c : Char) : Option (List Char) :=
  match shortEscapes.lookup c with
  | some letter => some ['\\', letter]
  | none =>
    if !needsEscape c then none
    else if c.toNat ≤ 0xff then some ('\\' :: 'x' :: capitalDigits 2 c.toNat)
    else if c.toNat ≤ 0xffff then some ('\\' :: 'u' :: capitalDigits 4 c.toNat)
    else some ('\\' :: 'U' :: capitalDigits 8 c.toNat)

/--
Whether a line within double quotation marks is broken at an escape without a mark, given the
escaped character and what follows it.
-/
def breaksBare (c : Char) (cs : List Char) : Bool :=
  cs.contains ' ' && cs.head? != some ' ' &&
    !(c :: cs.takeWhile (· != ' ')).any (isOneOf "\x22\x27")

/--
The rest of a text within double quotation marks, behind a character and from a column on. A line is
broken at a space and behind an escape, but not at the first and the last character. A backslash
marks the break, except where the line end can stand for a single space.
-/
def escapeText (indent column : Nat) (before : Option Char) : List Char → List Char
  | [] => []
  | c :: cs =>
    let breakable := before.isSome && !cs.isEmpty
    match escapeChar? c with
    | some escape =>
      let column := column + escape.length
      if breakable && lineWidth < column then
        if breaksBare c cs then
          escape ++ newLine indent ++ escapeText indent indent (some c) cs
        else
          let lead := if cs.head? == some ' ' then ['\\'] else []
          escape ++ '\\' :: newLine indent ++ lead ++
            escapeText indent (indent + lead.length) (some c) cs
      else escape ++ escapeText indent column (some c) cs
    | none =>
      if c == ' ' && breakable && lineWidth < column then
        if cs.head? != some ' ' && before != some ' ' then
          newLine indent ++ escapeText indent indent (some c) cs
        else '\\' :: newLine indent ++ '\\' :: ' ' :: escapeText indent (indent + 2) (some c) cs
      else c :: escapeText indent (column + 1) (some c) cs

/--
A text from a column on. Further lines have the given indentation.
-/
def writeText (indent column : Nat) (cs : List Char) : List Char :=
  match Style.ofText cs with
  | .plain => foldPlain indent column ' ' cs
  | .single => '\x27' :: foldText indent (column + 1) ' ' cs ++ ['\x27']
  | .double => '\x22' :: escapeText indent (column + 1) none cs ++ ['\x22']

def writeLeaf (indent column : Nat) : Leaf → List Char
  | .null => "null".toList
  | .bool b => (if b then "true" else "false").toList
  | .int n => foldPlain indent column ' ' (toString n).toList
  | .real x => x.text.toList
  | .text s => writeText indent column s.toList

def writeEntry (e : String × Leaf) : List Char :=
  let start := ' ' :: ' ' :: e.1.toList ++ [':', ' ']
  start ++ writeLeaf 4 start.length e.2 ++ ['\n']

def insertByName {α : Type} (e : String × α) : List (String × α) → List (String × α)
  | [] => [e]
  | d :: ds => if e.1 ≤ d.1 then e :: d :: ds else d :: insertByName e ds

def sorted {α : Type} (es : List (String × α)) : List (String × α) := es.foldr insertByName []

def writeSection (s : String × List (String × Leaf)) : List Char :=
  s.1.toList ++ [':', '\n'] ++ (sorted s.2).flatMap writeEntry

def write (sections : List (String × List (String × Leaf))) : String :=
  String.ofList ((sorted sections).flatMap writeSection)

end RankFusion.Yaml
