import RankFusion.Json.Reader
import RankFusion.Text.Surrogate
import RankFusion.Yaml.Cursor
import RankFusion.Yaml.Fault

/-!
This module contains the reading of scalars: plain ones, quoted ones and blocks. Lines are folded: a
single line end within a scalar counts as a blank.
-/

namespace RankFusion.Yaml

def isSpaceOrTab (c : Char) : Bool := c == ' ' || c == '\t'

/--
The text of folded line ends: the first counts as a blank if it is alone, and not at all otherwise.
-/
def foldBreaks (first breaks : List Char) : List Char :=
  if first = ['\n'] then (if breaks.isEmpty then [' '] else breaks) else first ++ breaks

/--
The line ends after the first one in a plain scalar, with the spaces between them. There is none
if the document ends.
-/
def plainBreaks (fuel : Nat) (c : Cursor) : Option (List Char × Cursor) :=
  match fuel with
  | 0 => some ([], c)
  | n + 1 =>
    if c.isAt ' ' then plainBreaks n c.next
    else if !c.peek.any isBreak then some ([], c)
    else
      let (b, c) := c.takeBreak
      if c.isAtDocumentEdge then none
      else (plainBreaks n c).map fun (bs, c) => (b ++ bs, c)

def plainGap (c : Cursor) : List Char × Cursor × Bool :=
  let (spaces, c) := c.takeWhile (· == ' ')
  if c.peek.any isBreak then
    let (first, c) := c.takeBreak
    if c.isAtDocumentEdge then ([], c, true)
    else
      match plainBreaks (c.rest.length + 1) c with
      | none => ([], c, true)
      | some (breaks, c) => (foldBreaks first breaks, c, true)
  else (spaces, c, false)

/--
The length of the next part of a plain scalar. Within flow collections more characters end it.
-/
def plainLength (inFlow : Bool) : List Char → Nat
  | [] => 0
  | x :: xs =>
    let after := xs.head?
    if endsWord (some x) then 0
    else if x == ':' && (endsWord after || (inFlow && after.any (isOneOf ",[]\x7b\x7d")))
      then 0
    else if inFlow && isOneOf ",?[]\x7b\x7d" x then 0
    else plainLength inFlow xs + 1

/--
A plain scalar whose lines are indented by at least `indent`, and whether a line end follows it.
The gap before the next part is given.
-/
def readPlain (fuel : Nat) (inFlow : Bool) (indent : Nat) (gap : List Char) (broken : Bool)
    (c : Cursor) : List Char × Cursor × Bool :=
  match fuel with
  | 0 => ([], c, broken)
  | n + 1 =>
    let length := plainLength inFlow c.rest
    if c.isAt '#' || length == 0 then ([], c, broken)
    else
      let part := gap ++ c.rest.take length
      let (gap, c, broken) := plainGap (c.skip length)
      if gap.isEmpty || c.isAt '#' || (!inFlow && c.column < indent) then (part, c, broken)
      else
        let (more, c, broken) := readPlain n inFlow indent gap broken c
        (part ++ more, c, broken)

def escape? : Char → Option Char
  | '0' => some '\x00'
  | 'a' => some '\x07'
  | 'b' => some '\x08'
  | 't' => some '\t'
  | '\t' => some '\t'
  | 'n' => some '\n'
  | 'v' => some '\x0b'
  | 'f' => some '\x0c'
  | 'r' => some '\r'
  | 'e' => some '\x1b'
  | ' ' => some ' '
  | '\x22' => some '\x22'
  | '\\' => some '\\'
  | '/' => some '/'
  | 'N' => some '\x85'
  | '_' => some '\xa0'
  | 'L' => some '\u2028'
  | 'P' => some '\u2029'
  | _ => none

def escapeDigits? : Char → Option Nat
  | 'x' => some 2
  | 'u' => some 4
  | 'U' => some 8
  | _ => none

abbrev Escaped (α : Type) : Type := ExceptT EscapeFault Option α

def Escaped.malformed {α : Type} : Escaped α := ExceptT.mk none

def readNumbered (digits : Nat) (c : Cursor) : Escaped (Char × Cursor) := do
  let ds := c.rest.take digits
  if ds.length < digits then Escaped.malformed
  let n ← Json.hexNumber? ds
  if n ≤ 0x10ffff then return (charOfUnit n, c.skip digits)
  else if n < 0x80000000 then throw .noCharacter
  else throw .tooLarge

def quotedBreaks (fuel : Nat) (c : Cursor) : Option (List Char × Cursor) :=
  match fuel with
  | 0 => none
  | n + 1 =>
    if c.isAtDocumentEdge then none
    else
      let c := c.skipWhile isSpaceOrTab
      if c.peek.any isBreak then
        let (b, c) := c.takeBreak
        (quotedBreaks n c).map fun (bs, c) => (b ++ bs, c)
      else some ([], c)

def quotedGap (c : Cursor) : Option (List Char × Cursor) :=
  let (blanks, c) := c.takeWhile isSpaceOrTab
  match c.peek with
  | none => none
  | some x =>
    if isBreak x then do
      let (first, c) := c.takeBreak
      let (breaks, c) ← quotedBreaks (c.rest.length + 1) c
      return (foldBreaks first breaks, c)
    else some (blanks, c)

/--
What an escape after a backslash stands for. An escaped line end counts for nothing.
-/
def readEscape (c : Cursor) : Escaped (List Char × Cursor) := do
  let e ← c.peek
  match escape? e, escapeDigits? e with
  | some x, _ => return ([x], c.next)
  | none, some digits =>
    let (x, c) ← readNumbered digits c.next
    return ([x], c)
  | none, none =>
    if isBreak e then quotedBreaks (c.rest.length + 1) c.takeBreak.2 else Escaped.malformed

def readQuoted (fuel : Nat) (double : Bool) (c : Cursor) : Escaped (List Char × Cursor) :=
  match fuel, c.peek with
  | 0, _ | _, none => Escaped.malformed
  | n + 1, some x =>
    let continueWith (part : List Char) (c : Cursor) : Escaped (List Char × Cursor) := do
      let (more, c) ← readQuoted n double c
      return (part ++ more, c)
    if x = (if double then '\x22' else '\x27') then
      if !double && c.ahead 1 == some '\x27' then continueWith ['\x27'] (c.skip 2)
      else return ([], c.next)
    else if double && x == '\\' then do
      let (part, c) ← readEscape c.next
      continueWith part c
    else if isSpaceOrTab x || isBreak x then do
      let (part, c) ← quotedGap c
      continueWith part c
    else continueWith [x] c.next

inductive Chomping where
  /-- One is kept. -/
  | clip
  /-- None is kept. -/
  | strip
  /-- All are kept. -/
  | keep
  deriving DecidableEq, Repr

structure BlockHead where
  chomping : Chomping := .clip
  increment : Option Nat := none

def chomping? : Option Char → Option Chomping
  | some '+' => some .keep
  | some '-' => some .strip
  | _ => none

/--
The increment that a digit stands for. It is not zero.
-/
def increment? (c : Option Char) : Option Nat :=
  c.bind fun x => if x.isDigit && x != '0' then some (x.toNat - '0'.toNat) else none

def readBlockHead (c : Cursor) : Option (BlockHead × Cursor) :=
  let (head, c) : BlockHead × Cursor :=
    match chomping? c.peek, increment? c.peek with
    | some chomping, _ =>
      match increment? (c.ahead 1) with
      | some increment => (⟨chomping, some increment⟩, c.skip 2)
      | none => (⟨chomping, none⟩, c.next)
    | none, some increment =>
      match chomping? (c.ahead 1) with
      | some chomping => (⟨chomping, some increment⟩, c.skip 2)
      | none => (⟨.clip, some increment⟩, c.next)
    | none, none => ({}, c)
  if c.isAt ' ' || endsLine c.peek then some (head, c) else none

def blockStart (fuel : Nat) (widest : Nat) (c : Cursor) : List Char × Nat × Cursor :=
  match fuel with
  | 0 => ([], widest, c)
  | n + 1 =>
    if c.isAt ' ' then blockStart n (max widest c.next.column) c.next
    else if c.peek.any isBreak then
      let (b, c) := c.takeBreak
      let (bs, widest, c) := blockStart n widest c
      (b ++ bs, widest, c)
    else ([], widest, c)

def skipIndent (indent : Nat) (c : Cursor) : Cursor :=
  c.skip (min (indent - c.column) (c.rest.takeWhile (· == ' ')).length)

def blockBreaks (fuel : Nat) (indent : Nat) (c : Cursor) : List Char × Cursor :=
  let c := skipIndent indent c
  match fuel with
  | 0 => ([], c)
  | n + 1 =>
    if c.peek.any isBreak then
      let (b, c) := c.takeBreak
      let (bs, c) := blockBreaks n indent c
      (b ++ bs, c)
    else ([], c)

/--
The text of the line end between two lines of a block. It is folded only between lines that begin
with no blank.
-/
def blockJoint (folded : Bool) (lineBreak breaks : List Char) (firstBlank nextBlank : Bool) :
    List Char :=
  if folded && lineBreak == ['\n'] && !firstBlank && !nextBlank then
    if breaks.isEmpty then [' '] else breaks
  else lineBreak ++ breaks

def readLines (fuel : Nat) (folded : Bool) (indent : Nat) (c : Cursor) :
    List Char × List Char × List Char × Cursor :=
  match fuel with
  | 0 => ([], [], [], c)
  | n + 1 =>
    let firstBlank := c.peek.any isSpaceOrTab
    let (line, c) := c.takeWhile fun x => !isBreak x
    let (lineBreak, c) := c.takeBreak
    let (breaks, c) := blockBreaks (c.rest.length + 1) indent c
    if c.column == indent && c.peek.isSome then
      let joint := blockJoint folded lineBreak breaks firstBlank (c.peek.any isSpaceOrTab)
      let (more, last, trailing, c) := readLines n folded indent c
      (line ++ joint ++ more, last, trailing, c)
    else (line, lineBreak, breaks, c)

def chomp (chomping : Chomping) (last trailing : List Char) : List Char :=
  match chomping with
  | .strip => []
  | .clip => last
  | .keep => last ++ trailing

def readBlock (folded : Bool) (outer : Int) (c : Cursor) : Option (List Char × Cursor) := do
  let (head, c) ← readBlockHead c
  let c ← c.restOfLine?
  let least := (max 1 (outer + 1)).toNat
  let (breaks, indent, c) :=
    match head.increment with
    | none =>
      let (breaks, widest, c) := blockStart (c.rest.length + 1) 0 c
      (breaks, max least widest, c)
    | some n =>
      let indent := least + n - 1
      let (breaks, c) := blockBreaks (c.rest.length + 1) indent c
      (breaks, indent, c)
  if c.column == indent && c.peek.isSome then
    let (lines, last, trailing, c) := readLines (c.rest.length + 1) folded indent c
    return (breaks ++ lines ++ chomp head.chomping last trailing, c)
  else return (chomp head.chomping [] breaks, c)

end RankFusion.Yaml
