import RankFusion.Yaml.Merge
import RankFusion.Yaml.Plain

/-!
This module contains the data that documents stand for. Scalars are read as soon as they are met,
and the collections one level after the other, which decides what is wrong first with a document.
-/

namespace RankFusion.Yaml

/--
The mapping with some entries, of which the last under a key counts. One with keys that are no texts
is of no use to the library.
-/
def dictOf (entries : List (Value × Value)) : Value :=
  let texts := entries.mapM fun e =>
    match e.1 with
    | .text key => some (key, e.2)
    | _ => none
  match texts with
  | some es => .dict (es.foldl (fun acc e => Value.insert e.1 e.2 acc) [])
  | none => .other "dict"

/--
The set of some keys. An empty one counts as an empty list.
-/
def setOf (keys : List Value) : Value := if keys.isEmpty then .list [] else .other "set"

structure Reading where
  nodes : Nodes
  /-- The data of the nodes that were met. Collections have none of their own. -/
  met : Array (Option Value)
  /-- The collections that were met, in the order in which they were. -/
  collections : Array Nat := #[]

namespace Reading

/--
The text of a node that is to be a scalar. A mapping has the text of its entry under a mark.
-/
def scalarText (fuel : Nat) (nodes : Nodes) (i : Nat) : Except ReadFault String :=
  match fuel, nodes.nodeAt i with
  | 0, _ | _, .sequence .. => .error .malformed
  | _, .scalar _ text => .ok text
  | n + 1, .mapping _ es =>
    match es.find? fun e => nodes.kindAt e.1 == .mark with
    | some e => scalarText n nodes e.2
    | none => .error .malformed

/--
The datum of a node of a scalar kind. A date is read off the node itself, which has to be a scalar.
-/
def scalarAt (nodes : Nodes) (i : Nat) : Except ReadFault Value := do
  let text ← scalarText (nodes.size + 1) nodes i
  if nodes.kindAt i = .moment ∧ nodes.isMappingAt i then
    throw (.invalid (.operand (.notText "list")))
  scalarValue (nodes.kindAt i) text

/--
Meets a node. A scalar is read, and a collection is left for later.
-/
def meet (r : Reading) (i : Nat) : Except ReadFault Reading :=
  if (r.met.getD i none).isSome then .ok r
  else if (r.nodes.kindAt i).isCollection then
    .ok { r with met := r.met.setIfInBounds i (some .null), collections := r.collections.push i }
  else do
    let v ← scalarAt r.nodes i
    return { r with met := r.met.setIfInBounds i (some v) }

def meetEntry (r : Reading) (e : Nat × Nat) : Except ReadFault Reading := do
  (← r.meet e.1).meet e.2

/--
Meets the entries of a mapping. A collection is no key.
-/
def meetMapping (r : Reading) (i : Nat) : Except ReadFault Reading := do
  if !r.nodes.isMappingAt i then throw .malformed
  let nodes ← r.nodes.expand (r.nodes.size + 1) i
  (nodes.entriesAt i).foldlM (fun r e => do
    let r ← r.meet e.1
    if (r.nodes.kindAt e.1).isCollection then throw .malformed
    r.meet e.2) { r with nodes }

def meetPair (r : Reading) (i : Nat) : Except ReadFault Reading :=
  match r.nodes.nodeAt i with
  | .mapping _ [e] => r.meetEntry e
  | _ => .error .malformed

def meetParts (r : Reading) (i : Nat) : Except ReadFault Reading :=
  match r.nodes.kindAt i, r.nodes.nodeAt i with
  | .list, .sequence _ items => items.foldlM meet r
  | .pairs, .sequence _ items => items.foldlM meetPair r
  | .list, _ | .pairs, _ => .error .malformed
  | _, _ => r.meetMapping i

def meetAll (fuel : Nat) (position : Nat) (r : Reading) : Except ReadFault Reading :=
  match fuel, r.collections[position]? with
  | n + 1, some i => do meetAll n (position + 1) (← r.meetParts i)
  | _, _ => .ok r

/--
The data of all nodes of a document. It fails with what is wrong first.
-/
def ofDocument (d : Document) : Except ReadFault Reading := do
  let r : Reading := { nodes := d.nodes, met := Array.replicate d.nodes.size none }
  meetAll (d.nodes.size + 1) 0 (← r.meet d.root)

def compose (r : Reading) (parts : Array Value) (i : Nat) : Value :=
  let partAt (j : Nat) := parts.getD j .null
  match r.nodes.kindAt i, r.nodes.nodeAt i with
  | .list, .sequence _ items => .list (items.map partAt)
  | .pairs, .sequence _ items =>
    .list (items.flatMap fun item =>
      (r.nodes.entriesAt item).map fun e => .list [partAt e.1, partAt e.2])
  | .set, .mapping _ es => setOf (es.map fun e => partAt e.1)
  | .dict, .mapping _ es => dictOf (es.map fun e => (partAt e.1, partAt e.2))
  | _, _ => (r.met.getD i none).getD .null

def valuesTo (r : Reading) : Nat → Array Value
  | 0 => r.met.map (·.getD .null)
  | level + 1 =>
    let parts := r.valuesTo level
    (Array.range r.nodes.size).map (r.compose parts)

end Reading

/--
The number of levels of parts that data in documents have. Settings have three of them; a document
that contains itself has no end to them.
-/
def levelLimit : Nat := 16

/--
The datum that a text stands for as a document. An empty one stands for the absent datum.
-/
def read (s : String) : Except ReadFault Value := do
  match ← document? s with
  | none => return .null
  | some d =>
    let r ← Reading.ofDocument d
    return (r.valuesTo levelLimit).getD d.root .null

end RankFusion.Yaml
