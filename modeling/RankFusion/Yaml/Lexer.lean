import RankFusion.Yaml.Scalar
import RankFusion.Yaml.Token

/-!
This module contains the division of a text into tokens. A key shows only from the colon behind
it, so the place of everything that may be a key is kept until the colon comes or cannot come any
more.
-/

namespace RankFusion.Yaml

structure KeyPlace where
  /-- How many tokens come before it. -/
  position : Nat
  /-- Whether nothing but a key may stand there. -/
  required : Bool
  index : Nat
  line : Nat
  column : Nat
  deriving DecidableEq, Repr

structure Lexer where
  cursor : Cursor
  /-- The tokens so far. -/
  tokens : List Token := []
  /-- How many flow collections are open. -/
  depth : Nat := 0
  /-- The column of the innermost open block. -/
  indent : Int := -1
  /-- The columns of the open blocks around it. -/
  outer : List Int := []
  /-- Whether a key may stand at the place. -/
  keyAllowed : Bool := true
  /-- What may turn out to be a key, at each depth of flow collections. -/
  places : List (Nat × KeyPlace) := []
  /-- Whether the last token cannot be read. -/
  stopped : Bool := false

namespace Lexer

def inBlock (s : Lexer) : Bool := s.depth == 0

def push (s : Lexer) (t : Token) : Lexer := { s with tokens := s.tokens ++ [t] }

def skip (s : Lexer) (n : Nat) : Lexer := { s with cursor := s.cursor.skip n }

def allowKey (s : Lexer) (allowed : Bool) : Lexer := { s with keyAllowed := allowed }

def place? (s : Lexer) : Option KeyPlace := s.places.lookup s.depth

/--
Gives up the place at the present depth. This fails if a key is required there.
-/
def dropPlace? (s : Lexer) : Option Lexer :=
  if s.place?.any (·.required) then none
  else some { s with places := s.places.filter fun p => p.1 != s.depth }

def savePlace? (s : Lexer) : Option Lexer :=
  if !s.keyAllowed then some s
  else
    s.dropPlace?.map fun s =>
      let place : KeyPlace :=
        { position := s.tokens.length
          required := s.inBlock && s.indent == s.cursor.column
          index := s.cursor.index
          line := s.cursor.line
          column := s.cursor.column }
      { s with places := s.places ++ [(s.depth, place)] }

def keyReach : Nat := 1024

/--
Whether no colon can follow any more: a key lies within one line and is not too long.
-/
def isStale (c : Cursor) (p : KeyPlace) : Bool := p.line != c.line || c.index - p.index > keyReach

/--
Gives up the places after which no colon can follow any more. This fails if a key is required at
one.
-/
def dropStale? (s : Lexer) : Option Lexer :=
  let (stale, kept) := s.places.partition fun p => isStale s.cursor p.2
  if stale.any fun p => p.2.required then none else some { s with places := kept }

/--
Goes past spaces, comments and line ends. A key may stand at the start of a line.
-/
def skipGap (fuel : Nat) (s : Lexer) : Lexer :=
  match fuel with
  | 0 => s
  | n + 1 =>
    let c := s.cursor.skipSpaces.skipComment
    if c.peek.any isBreak then
      skipGap n { s with cursor := c.takeBreak.2, keyAllowed := s.keyAllowed || s.inBlock }
    else { s with cursor := c }

def closing (column indent : Int) : List Int → Nat × Int × List Int
  | [] => (0, indent, [])
  | o :: os =>
    if indent > column then
      let (n, kept) := closing column o os
      (n + 1, kept)
    else (0, indent, o :: os)

/--
Ends the blocks that begin to the right of a column. None ends within a flow collection.
-/
def closeBlocks (column : Int) (s : Lexer) : Lexer :=
  if !s.inBlock then s
  else
    let (n, indent, outer) := closing column s.indent s.outer
    { s with tokens := s.tokens ++ List.replicate n .blockEnd, indent, outer }

/--
Opens a block at a column, if it is to the right of the innermost one. Its start comes before the
tokens from a position on.
-/
def openBlock (shape : Shape) (column : Int) (position : Nat) (s : Lexer) : Lexer :=
  if s.indent < column then
    { s with
      tokens := s.tokens.take position ++ .blockStart shape :: s.tokens.drop position
      indent := column
      outer := s.indent :: s.outer }
  else s

def directive? (s : Lexer) : Option Lexer := do
  let s ← (s.closeBlocks (-1)).dropPlace?
  let (t, cursor) ← s.cursor.takeDirective?
  return { s.push t with cursor, keyAllowed := false }

def marker? (t : Token) (s : Lexer) : Option Lexer :=
  (s.closeBlocks (-1)).dropPlace?.map fun s => ((s.push t).skip 3).allowKey false

def flowStart? (shape : Shape) (s : Lexer) : Option Lexer :=
  s.savePlace?.map fun s =>
    (({ s with depth := s.depth + 1 }.push (.flowStart shape)).skip 1).allowKey true

def flowEnd? (shape : Shape) (s : Lexer) : Option Lexer :=
  if s.inBlock then none
  else
    s.dropPlace?.map fun s =>
      (({ s with depth := s.depth - 1 }.push (.flowEnd shape)).skip 1).allowKey false

def comma? (s : Lexer) : Option Lexer :=
  s.dropPlace?.map fun s => ((s.push .comma).skip 1).allowKey true

/--
Opens a block at the place, unless it is within a flow collection. This fails where no key may
stand.
-/
def openHere? (shape : Shape) (s : Lexer) : Option Lexer :=
  if !s.inBlock then some s
  else if s.keyAllowed then some (s.openBlock shape s.cursor.column s.tokens.length)
  else none

def item? (s : Lexer) : Option Lexer := do
  let s ← (← s.openHere? .sequence).dropPlace?
  return ((s.push .item).skip 1).allowKey true

def key? (s : Lexer) : Option Lexer := do
  let s ← (← s.openHere? .mapping).dropPlace?
  return ((s.push .key).skip 1).allowKey s.inBlock

def startKey (place : KeyPlace) (s : Lexer) : Lexer :=
  let tokens := s.tokens.take place.position ++ .key :: s.tokens.drop place.position
  let s := { s with tokens, places := s.places.filter fun p => p.1 != s.depth }
  if s.inBlock then s.openBlock .mapping place.column place.position else s

def value? (s : Lexer) : Option Lexer :=
  match s.place? with
  | some place => some ((((s.startKey place).push .value).skip 1).allowKey false)
  | none => do
    let s ← (← s.openHere? .mapping).dropPlace?
    return ((s.push .value).skip 1).allowKey s.inBlock

def content? (keyAfter : Bool) (read : Cursor → Option (Token × Cursor)) (s : Lexer) :
    Option Lexer := do
  let s ← s.savePlace?
  let (t, cursor) ← read s.cursor
  return { s.push t with cursor, keyAllowed := keyAfter }

def blockScalar? (folded : Bool) (s : Lexer) : Option Lexer := do
  let s ← s.dropPlace?
  let (text, cursor) ← readBlock folded s.indent s.cursor.next
  return { s.push (.scalar (String.ofList text) false) with cursor, keyAllowed := true }

def quotedScalar? (double : Bool) (s : Lexer) : Option Lexer := do
  let s ← s.savePlace?
  let c := s.cursor
  match ← (readQuoted (c.rest.length + 1) double c.next).run with
  | .ok (text, cursor) =>
    return { s.push (.scalar (String.ofList text) false) with cursor, keyAllowed := false }
  | .error fault => return { s.push (.unreadable fault) with stopped := true }

/--
The plain scalar at the place. A key may follow if it ends with a line.
-/
def plainScalar? (s : Lexer) : Option Lexer :=
  let c := s.cursor
  let (text, after, broken) :=
    readPlain (c.rest.length + 1) (!s.inBlock) (s.indent + 1).toNat [] false c
  content? broken (fun _ => some (.scalar (String.ofList text) true, after)) s

def startsPlain (s : Lexer) (x : Char) : Bool :=
  !(endsWord (some x) || isOneOf "-?:,[]\x7b\x7d#&*!|>\x27\x22%@\x60" x) ||
    (!endsWord (s.cursor.ahead 1) && (x == '-' || (s.inBlock && (x == '?' || x == ':'))))

def scalar? (x : Char) (s : Lexer) : Option Lexer :=
  if x == '*' then
    content? false (fun c => c.takeAnchor?.map fun (name, c) => (.reference name, c)) s
  else if x == '&' then
    content? false (fun c => c.takeAnchor?.map fun (name, c) => (.anchor name, c)) s
  else if x == '!' then content? false (fun c => c.takeTag?.map fun (tag, c) => (.tag tag, c)) s
  else if x == '|' && s.inBlock then s.blockScalar? false
  else if x == '>' && s.inBlock then s.blockScalar? true
  else if x == '\x27' then s.quotedScalar? false
  else if x == '\x22' then s.quotedScalar? true
  else if s.startsPlain x then s.plainScalar?
  else none

def token? (x : Char) (s : Lexer) : Option Lexer :=
  let c := s.cursor
  let atMargin := c.column == 0
  let alone := endsWord (c.ahead 1)
  if atMargin && x == '%' then s.directive?
  else if atMargin && c.isAtMarker '-' then s.marker? .documentStart
  else if atMargin && c.isAtMarker '.' then s.marker? .documentEnd
  else if x == '[' then s.flowStart? .sequence
  else if x == '\x7b' then s.flowStart? .mapping
  else if x == ']' then s.flowEnd? .sequence
  else if x == '\x7d' then s.flowEnd? .mapping
  else if x == ',' then s.comma?
  else if x == '-' && alone then s.item?
  else if x == '?' && (!s.inBlock || alone) then s.key?
  else if x == ':' && (!s.inBlock || alone) then s.value?
  else s.scalar? x

def run (fuel : Nat) (s : Lexer) : Option (List Token) :=
  match fuel with
  | 0 => none
  | n + 1 => do
    let s ← (s.skipGap (s.cursor.rest.length + 1)).dropStale?
    let s := s.closeBlocks s.cursor.column
    match s.cursor.peek with
    | none => (s.closeBlocks (-1)).dropPlace?.map (·.tokens)
    | some x =>
      let s ← s.token? x
      if s.stopped then return s.tokens else run n s

end Lexer

def isAllowed (c : Char) : Bool :=
  c == '\t' || c == '\n' || c == '\r' || (' ' ≤ c && c ≤ '~') || c == '\x85' ||
    ('\xa0' ≤ c && c ≤ '\ufffd') || 0x10000 ≤ c.toNat

def normalizeBreaks : List Char → List Char
  | '\r' :: '\n' :: cs => '\n' :: normalizeBreaks cs
  | '\r' :: cs => '\n' :: normalizeBreaks cs
  | c :: cs => c :: normalizeBreaks cs
  | [] => []

def dropOrderMark : List Char → List Char
  | '\ufeff' :: cs => cs
  | cs => cs

def tokens? (s : String) : Option (List Token) :=
  let cs := dropOrderMark (normalizeBreaks s.toList)
  if cs.all isAllowed then Lexer.run (cs.length + 2) { cursor := { rest := cs } } else none

end RankFusion.Yaml
