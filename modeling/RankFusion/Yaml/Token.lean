import RankFusion.Json.Reader
import RankFusion.Yaml.Cursor
import RankFusion.Yaml.Fault

/-!
This module contains the tokens that a document is made of, and the reading of the names, tags and
directives among them.
-/

namespace RankFusion.Yaml

inductive Shape where
  | sequence
  | mapping
  deriving DecidableEq, Repr

/--
A tag as it is written. One without a handle is written in full.
-/
structure TagName where
  handle : Option String
  suffix : String
  deriving DecidableEq, Repr

/--
A part of a document. Where the blocks start and end shows from the indentation.
-/
inductive Token where
  /-- A directive with the version of the format. -/
  | version (major : Nat)
  /-- A directive that says what the handle of a tag stands for. -/
  | handle (name expansion : String)
  /-- Another directive. -/
  | reserved
  | documentStart
  | documentEnd
  | blockStart (shape : Shape)
  | blockEnd
  | flowStart (shape : Shape)
  | flowEnd (shape : Shape)
  /-- The start of an item of a block. -/
  | item
  /-- The end of an item of a flow collection. -/
  | comma
  | key
  | value
  /-- A reference to the node with an anchor. -/
  | reference (name : String)
  | anchor (name : String)
  | tag (name : TagName)
  /-- A text. Only a plain one may stand for something else. -/
  | scalar (text : String) (plain : Bool)
  /-- A quoted text with an escape that stands for no character. Nothing after it is read. -/
  | unreadable (fault : EscapeFault)
  deriving DecidableEq, Repr

namespace Cursor

/--
Whether a word ends at a place, where a tab ends no word.
-/
def isAtEnd (c : Cursor) : Bool := c.isAt ' ' || endsLine c.peek

def takeName? (c : Cursor) : Option (String × Cursor) :=
  match c.takeWhile isNameChar with
  | ([], _) => none
  | (cs, c) => some (String.ofList cs, c)

def takeAnchor? (c : Cursor) : Option (String × Cursor) := do
  let (name, c) ← c.next.takeName?
  if endsWord c.peek || c.peek.any (isOneOf "?:,]\x7d%@\x60") then some (name, c) else none

def isSuffixChar (c : Char) : Bool := c.isAlphanum || isOneOf "-;/?:@&=+$,_.!~*\x27()[]" c

def takeBytes (fuel : Nat) (c : Cursor) : Option (List UInt8 × Cursor) :=
  match fuel with
  | 0 => some ([], c)
  | n + 1 =>
    if c.isAt '%' then do
      let digits := c.next.rest.take 2
      if digits.length < 2 then none
      let byte ← Json.hexNumber? digits
      let (bytes, c) ← takeBytes n (c.skip 3)
      return (byte.toUInt8 :: bytes, c)
    else some ([], c)

def takeSuffixParts (fuel : Nat) (c : Cursor) : Option (List Char × Cursor) :=
  match fuel with
  | 0 => some ([], c)
  | n + 1 =>
    if c.isAt '%' then do
      let (bytes, c) ← takeBytes (c.rest.length + 1) c
      let text ← String.fromUTF8? ⟨bytes.toArray⟩
      let (more, c) ← takeSuffixParts n c
      return (text.toList ++ more, c)
    else
      match c.takeWhile isSuffixChar with
      | ([], _) => some ([], c)
      | (cs, c) => (takeSuffixParts n c).map fun (more, c) => (cs ++ more, c)

def takeSuffix? (c : Cursor) : Option (String × Cursor) := do
  let (cs, c) ← takeSuffixParts (c.rest.length + 1) c
  if cs.isEmpty then none else some (String.ofList cs, c)

/--
The handle of a tag, and the place after it. It is a mark alone, or a name between two marks.
-/
def takeHandle? (c : Cursor) : Option (String × Cursor) := do
  let c ← c.expect? '!'
  if c.isAt ' ' then some ("!", c)
  else
    let (name, c) := c.takeWhile isNameChar
    let c ← c.expect? '!'
    return ("!" ++ String.ofList name ++ "!", c)

def takeTag? (c : Cursor) : Option (TagName × Cursor) := do
  let after := c.next
  let (tag, c) ←
    if after.isAt '<' then do
      let (suffix, c) ← after.next.takeSuffix?
      let c ← c.expect? '>'
      some (({ handle := none, suffix } : TagName), c)
    else if endsWord after.peek then some ({ handle := none, suffix := "!" }, after)
    else if (after.rest.takeWhile fun x => x != ' ' && !isBreak x).contains '!' then do
      let (handle, c) ← c.takeHandle?
      let (suffix, c) ← c.takeSuffix?
      some ({ handle := some handle, suffix }, c)
    else after.takeSuffix?.map fun (suffix, c) => ({ handle := some "!", suffix }, c)
  if c.isAtEnd then some (tag, c) else none

def takeNumber? (c : Cursor) : Option (Nat × Cursor) :=
  match c.takeWhile Numeral.isDigit with
  | ([], _) => none
  | (ds, c) => some (Numeral.digitsValue ds, c)

def takeVersion? (c : Cursor) : Option (Token × Cursor) := do
  let (major, c) ← c.skipSpaces.takeNumber?
  let (_, c) ← (← c.expect? '.').takeNumber?
  if c.isAtEnd then some (.version major, c) else none

def takeExpansion? (c : Cursor) : Option (Token × Cursor) := do
  let (name, c) ← c.skipSpaces.takeHandle?
  if !c.isAt ' ' then none
  else
    let (expansion, c) ← c.skipSpaces.takeSuffix?
    if c.isAtEnd then some (.handle name expansion, c) else none

def takeDirective? (c : Cursor) : Option (Token × Cursor) := do
  let (name, c) ← c.next.takeName?
  if !c.isAtEnd then none
  else
    let (token, c) ←
      match name with
      | "YAML" => c.takeVersion?
      | "TAG" => c.takeExpansion?
      | _ => some (.reserved, c.skipWhile fun x => !isBreak x)
    return (token, ← c.restOfLine?)

end Cursor

end RankFusion.Yaml
