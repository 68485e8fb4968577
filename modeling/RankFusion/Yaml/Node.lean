import RankFusion.Yaml.Kind
import RankFusion.Yaml.Lexer

/-!
This module contains the nodes of a document and how they are read from its tokens. A node may be
referred to from several places, also from within itself, so nodes refer to each other by their
places among all nodes.
-/

namespace RankFusion.Yaml

inductive Node where
  | scalar (kind : Kind) (text : String)
  | sequence (kind : Kind) (items : List Nat)
  | mapping (kind : Kind) (entries : List (Nat × Nat))
  deriving Repr

namespace Node

def absent : Node := scalar .null ""

instance : Inhabited Node := ⟨absent⟩

def kind : Node → Kind
  | scalar kind _ => kind
  | sequence kind _ => kind
  | mapping kind _ => kind

def withKind (kind : Kind) : Node → Node
  | scalar _ text => scalar kind text
  | sequence _ items => sequence kind items
  | mapping _ entries => mapping kind entries

end Node

abbrev Handles := List (String × String)

def usualHandles : Handles := [("!", "!"), ("!!", "tag:yaml.org,2002:")]

structure Composer where
  tokens : List Token
  nodes : Array Node := #[]
  /-- The nodes that may be referred to. -/
  anchors : List (String × Nat) := []

inductive Surroundings where
  | block
  /-- Within a mapping, where the items of a sequence need no indentation of their own. -/
  | entry
  | flow
  deriving DecidableEq, Repr

structure Properties where
  anchor : Option String := none
  tag : Option TagName := none

def takeProperties : List Token → Properties × List Token
  | .anchor a :: .tag t :: ts => (⟨some a, some t⟩, ts)
  | .tag t :: .anchor a :: ts => (⟨some a, some t⟩, ts)
  | .anchor a :: ts => (⟨some a, none⟩, ts)
  | .tag t :: ts => (⟨none, some t⟩, ts)
  | ts => ({}, ts)

/--
The full name of a tag. There is none if its handle is not known.
-/
def TagName.resolve? (handles : Handles) (t : TagName) : Option String :=
  match t.handle with
  | none => some t.suffix
  | some handle => (handles.lookup handle).map (· ++ t.suffix)

namespace Composer

def fault (s : Composer) : ReadFault :=
  match s.tokens with
  | .unreadable f :: _ => .invalid f.failure
  | _ => .malformed

def add (x : Node) (s : Composer) : Nat × Composer :=
  (s.nodes.size, { s with nodes := s.nodes.push x })

def replace (i : Nat) (x : Node) (s : Composer) : Composer :=
  { s with nodes := s.nodes.setIfInBounds i x }

def remember (anchor : Option String) (i : Nat) (s : Composer) : Composer :=
  match anchor with
  | none => s
  | some a => { s with anchors := (a, i) :: s.anchors }

def expect? (t : Token) (s : Composer) : Option Composer :=
  match s.tokens with
  | u :: ts => if u = t then some { s with tokens := ts } else none
  | [] => none

def expect (t : Token) (s : Composer) : Except ReadFault Composer :=
  match s.expect? t with
  | some s => .ok s
  | none => .error s.fault

def isAt (ts : List Token) (s : Composer) : Bool := s.tokens.head?.any fun t => ts.contains t

def tagName (handles : Handles) : Option TagName → Except ReadFault (Option String)
  | none => .ok none
  | some t =>
    match t.resolve? handles with
    | some name => .ok (some name)
    | none => .error .malformed

mutual

def node (fuel : Nat) (handles : Handles) (place : Surroundings) (s : Composer) :
    Except ReadFault (Nat × Composer) :=
  match fuel, s.tokens with
  | 0, _ => .error .malformed
  | _ + 1, .reference name :: ts =>
    match s.anchors.lookup name with
    | some i => .ok (i, { s with tokens := ts })
    | none => .error .malformed
  | n + 1, ts => do
    let (properties, ts) := takeProperties ts
    let tag ← tagName handles properties.tag
    if properties.anchor.any fun a => (s.anchors.lookup a).isSome then throw .malformed
    let (i, s) := ({ s with tokens := ts } : Composer).add .absent
    let marked := properties.anchor.isSome || tag.isSome
    let (x, s) ← content n handles place marked tag (s.remember properties.anchor i)
    return (i, s.replace i x)

def content (fuel : Nat) (handles : Handles) (place : Surroundings) (marked : Bool)
    (tag : Option String) (s : Composer) : Except ReadFault (Node × Composer) :=
  let listKind := Kind.ofCollection .list tag
  let dictKind := Kind.ofCollection .dict tag
  match fuel, place, s.tokens with
  | 0, _, _ => .error .malformed
  | _ + 1, _, .unreadable _ :: _ => .error s.fault
  | n + 1, .entry, .item :: _ => do
    let (xs, s) ← bareItems n handles s
    return (.sequence listKind xs, s)
  | _ + 1, _, .scalar text plain :: ts =>
    .ok (.scalar (Kind.ofScalar plain tag text) text, { s with tokens := ts })
  | n + 1, _, .flowStart .sequence :: ts => do
    let (xs, s) ← flowItems n handles true { s with tokens := ts }
    return (.sequence listKind xs, s)
  | n + 1, _, .flowStart .mapping :: ts => do
    let (es, s) ← flowEntries n handles true { s with tokens := ts }
    return (.mapping dictKind es, s)
  | n + 1, place, .blockStart .sequence :: ts => do
    if place = .flow then throw .malformed
    let (xs, s) ← items n handles { s with tokens := ts }
    return (.sequence listKind xs, s)
  | n + 1, place, .blockStart .mapping :: ts => do
    if place = .flow then throw .malformed
    let (es, s) ← entries n handles { s with tokens := ts }
    return (.mapping dictKind es, s)
  | _ + 1, _, _ =>
    if marked then .ok (.scalar (Kind.ofScalar true tag "") "", s) else .error .malformed

def nodeUnless (fuel : Nat) (handles : Handles) (place : Surroundings) (ends : List Token)
    (s : Composer) : Except ReadFault (Nat × Composer) :=
  match fuel with
  | 0 => .error .malformed
  | n + 1 => if s.isAt ends then .ok (s.add .absent) else node n handles place s

def items (fuel : Nat) (handles : Handles) (s : Composer) :
    Except ReadFault (List Nat × Composer) :=
  match fuel, s.tokens with
  | n + 1, .item :: ts => do
    let (x, s) ← nodeUnless n handles .block [.item, .blockEnd] { s with tokens := ts }
    let (xs, s) ← items n handles s
    return (x :: xs, s)
  | _ + 1, .blockEnd :: ts => .ok ([], { s with tokens := ts })
  | _, _ => .error s.fault

/--
The items of a sequence that is not indented. It ends where no item follows.
-/
def bareItems (fuel : Nat) (handles : Handles) (s : Composer) :
    Except ReadFault (List Nat × Composer) :=
  match fuel, s.tokens with
  | 0, _ => .error .malformed
  | n + 1, .item :: ts => do
    let ends := [.item, .key, .value, .blockEnd]
    let (x, s) ← nodeUnless n handles .block ends { s with tokens := ts }
    let (xs, s) ← bareItems n handles s
    return (x :: xs, s)
  | _ + 1, _ => .ok ([], s)

def entryValue (fuel : Nat) (handles : Handles) (place : Surroundings) (ends : List Token)
    (s : Composer) : Except ReadFault (Nat × Composer) :=
  match fuel, s.tokens with
  | 0, _ => .error .malformed
  | n + 1, .value :: ts => nodeUnless n handles place ends { s with tokens := ts }
  | _ + 1, _ => .ok (s.add .absent)

def entry (fuel : Nat) (handles : Handles) (place : Surroundings) (keyEnds valueEnds : List Token)
    (s : Composer) : Except ReadFault ((Nat × Nat) × Composer) :=
  match fuel with
  | 0 => .error .malformed
  | n + 1 => do
    let (k, s) ← nodeUnless n handles place keyEnds s
    let (v, s) ← entryValue n handles place valueEnds s
    return ((k, v), s)

def entries (fuel : Nat) (handles : Handles) (s : Composer) :
    Except ReadFault (List (Nat × Nat) × Composer) :=
  match fuel, s.tokens with
  | n + 1, .key :: ts => do
    let ends := [.key, .value, .blockEnd]
    let (e, s) ← entry n handles .entry ends ends { s with tokens := ts }
    let (es, s) ← entries n handles s
    return (e :: es, s)
  | _ + 1, .blockEnd :: ts => .ok ([], { s with tokens := ts })
  | _, _ => .error s.fault

/--
The items of a sequence in brackets, with its end. An entry that stands alone is a mapping.
-/
def flowItems (fuel : Nat) (handles : Handles) (first : Bool) (s : Composer) :
    Except ReadFault (List Nat × Composer) :=
  match fuel with
  | 0 => .error .malformed
  | n + 1 => do
    let close : Token := .flowEnd .sequence
    if s.isAt [close] then return ([], ← s.expect close)
    let s ← if first then pure s else s.expect .comma
    if s.isAt [close] then return ([], ← s.expect close)
    let (x, s) ←
      match s.expect? .key with
      | some s => do
        let (e, s) ← entry n handles .flow [.value, .comma, close] [.comma, close] s
        pure (s.add (.mapping .dict [e]))
      | none => node n handles .flow s
    let (xs, s) ← flowItems n handles false s
    return (x :: xs, s)

/--
The entries of a mapping in braces, with its end. A node without a mark is a key without a value.
-/
def flowEntries (fuel : Nat) (handles : Handles) (first : Bool) (s : Composer) :
    Except ReadFault (List (Nat × Nat) × Composer) :=
  match fuel with
  | 0 => .error .malformed
  | n + 1 => do
    let close : Token := .flowEnd .mapping
    if s.isAt [close] then return ([], ← s.expect close)
    let s ← if first then pure s else s.expect .comma
    if s.isAt [close] then return ([], ← s.expect close)
    let (e, s) ←
      match s.expect? .key with
      | some s => entry n handles .flow [.value, .comma, close] [.comma, close] s
      | none => do
        let (k, s) ← node n handles .flow s
        let (v, s) := s.add .absent
        pure ((k, v), s)
    let (es, s) ← flowEntries n handles false s
    return (e :: es, s)

end

end Composer

/--
What the directives of a document say, and the tokens after them. No directive is repeated, and the
format has the first version.
-/
def takeDirectives (versioned : Bool) (handles : Handles) : List Token →
    Option (Handles × List Token)
  | .version major :: ts =>
    if versioned || major != 1 then none else takeDirectives true handles ts
  | .handle name expansion :: ts =>
    if (handles.lookup name).isSome then none
    else takeDirectives versioned ((name, expansion) :: handles) ts
  | .reserved :: ts => takeDirectives versioned handles ts
  | ts => some (handles ++ usualHandles, ts)

def startsDocument : Token → Bool
  | .version _ | .handle .. | .reserved | .documentStart => true
  | _ => false

def composeDocument (handles : Handles) (ts : List Token) : Except ReadFault (Nat × Composer) :=
  Composer.node (8 * ts.length + 8) handles .block { tokens := ts }

def readContent (handles : Handles) (ts : List Token) : Except ReadFault (Nat × Composer) :=
  let isEmpty := ts.head?.all fun t => startsDocument t || t == .documentEnd
  if isEmpty then .ok (({ tokens := ts } : Composer).add .absent)
  else composeDocument handles ts

def readDocument (ts : List Token) : Except ReadFault (Nat × Composer) :=
  if ts.head?.any startsDocument then
    match takeDirectives false [] ts with
    | some (handles, .documentStart :: ts) => readContent handles ts
    | some (_, ts) => .error (Composer.fault { tokens := ts })
    | none => .error .malformed
  else composeDocument usualHandles ts

structure Document where
  nodes : Array Node
  root : Nat

def document? (s : String) : Except ReadFault (Option Document) :=
  match tokens? s with
  | none => .error .malformed
  | some [] => .ok none
  | some ts => do
    let (root, s) ← readDocument ts
    if s.tokens.all (· == .documentEnd) then return some ⟨s.nodes, root⟩ else throw s.fault

end RankFusion.Yaml
