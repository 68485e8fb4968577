/-!
This module contains the place in a text up to which it has been read, with its line and column.
-/

namespace RankFusion.Yaml

def isBreak (c : Char) : Bool :=
  c == '\n' || c == '\r' || c == '\x85' || c == '\u2028' || c == '\u2029'

def endsLine (c : Option Char) : Bool := c.all isBreak

def endsWord (c : Option Char) : Bool := c.all fun c => c == ' ' || c == '\t' || isBreak c

def isNameChar (c : Char) : Bool := c.isAlphanum || c == '-' || c == '_'

def isOneOf (chars : String) (c : Char) : Bool := chars.toList.contains c

structure Cursor where
  /-- What is left to read. -/
  rest : List Char
  index : Nat := 0
  line : Nat := 0
  column : Nat := 0

namespace Cursor

def ahead (c : Cursor) (n : Nat) : Option Char := c.rest[n]?

def peek (c : Cursor) : Option Char := c.ahead 0

def isAt (c : Cursor) (x : Char) : Bool := c.peek == some x

def next (c : Cursor) : Cursor :=
  match c.rest with
  | [] => c
  | x :: xs =>
    if isBreak x then { rest := xs, index := c.index + 1, line := c.line + 1, column := 0 }
    else
      { rest := xs, index := c.index + 1, line := c.line
        column := if x = '\ufeff' then c.column else c.column + 1 }

def skip (c : Cursor) (n : Nat) : Cursor := n.repeat next c

def takeWhile (c : Cursor) (p : Char → Bool) : List Char × Cursor :=
  let taken := c.rest.takeWhile p
  (taken, c.skip taken.length)

def skipWhile (c : Cursor) (p : Char → Bool) : Cursor := (c.takeWhile p).2

def skipSpaces (c : Cursor) : Cursor := c.skipWhile (· == ' ')

def expect? (c : Cursor) (x : Char) : Option Cursor := if c.isAt x then some c.next else none

def takeBreak (c : Cursor) : List Char × Cursor :=
  match c.rest with
  | '\r' :: '\n' :: _ => (['\n'], c.skip 2)
  | x :: _ =>
    if x = '\u2028' ∨ x = '\u2029' then ([x], c.next)
    else if isBreak x then (['\n'], c.next)
    else ([], c)
  | [] => ([], c)

def skipComment (c : Cursor) : Cursor :=
  if c.isAt '#' then c.skipWhile fun x => !isBreak x else c

def isAtMarker (c : Cursor) (x : Char) : Bool := c.rest.take 3 == [x, x, x] && endsWord (c.ahead 3)

def isAtDocumentEdge (c : Cursor) : Bool := c.isAtMarker '-' || c.isAtMarker '.'

def restOfLine? (c : Cursor) : Option Cursor :=
  let c := c.skipSpaces.skipComment
  if endsLine c.peek then some c.takeBreak.2 else none

end Cursor

end RankFusion.Yaml
