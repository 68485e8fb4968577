import RankFusion.Yaml.Node

/-!
This module contains the entries that mappings take up from others. They come before the own entries
of a mapping.
-/

namespace RankFusion.Yaml

abbrev Nodes := Array Node

namespace Nodes

def nodeAt (nodes : Nodes) (i : Nat) : Node := nodes.getD i .absent

def kindAt (nodes : Nodes) (i : Nat) : Kind := (nodes.nodeAt i).kind

/--
The entries of a node. Only mappings have some.
-/
def entriesAt (nodes : Nodes) (i : Nat) : List (Nat × Nat) :=
  match nodes.nodeAt i with
  | .mapping _ es => es
  | _ => []

def isMappingAt (nodes : Nodes) (i : Nat) : Bool := nodes.nodeAt i matches .mapping ..

def setEntries (nodes : Nodes) (i : Nat) (es : List (Nat × Nat)) : Nodes :=
  nodes.setIfInBounds i (.mapping (nodes.kindAt i) es)

def settleKey (nodes : Nodes) (i : Nat) : Nodes :=
  if nodes.kindAt i = .mark then nodes.setIfInBounds i ((nodes.nodeAt i).withKind .text) else nodes

/--
The nodes, and the entries that a mapping takes up from others, whose own entries are replaced by
`expand`. It takes them up from mappings and from sequences of mappings, of which the first count
most and come last.
-/
def takeUp (expand : Nodes → Nat → Except ReadFault Nodes) (nodes : Nodes) (source : Nat) :
    Except ReadFault (Nodes × List (Nat × Nat)) :=
  let fromMapping (nodes : Nodes) (i : Nat) : Except ReadFault (Nodes × List (Nat × Nat)) := do
    if !nodes.isMappingAt i then throw .malformed
    let nodes ← expand nodes i
    return (nodes, nodes.entriesAt i)
  match nodes.nodeAt source with
  | .sequence _ items =>
    items.foldlM (fun (nodes, later) i => do
      let (nodes, es) ← fromMapping nodes i
      return (nodes, es ++ later)) (nodes, [])
  | _ => fromMapping nodes source

/--
The nodes with a mapping that holds the entries that it takes up from others. The fuel bounds how
many mappings take up entries from each other.
-/
def expand (fuel : Nat) (nodes : Nodes) (i : Nat) : Except ReadFault Nodes :=
  match fuel with
  | 0 => .ok nodes
  | n + 1 => do
    let (sources, own) := (nodes.entriesAt i).partition fun e => nodes.kindAt e.1 == .merge
    let nodes := own.foldl (fun nodes e => nodes.settleKey e.1) (nodes.setEntries i own)
    let (nodes, taken) ← sources.foldlM (fun (nodes, taken) e => do
      let (nodes, es) ← takeUp (expand n) nodes e.2
      return (nodes, taken ++ es)) (nodes, [])
    return nodes.setEntries i (taken ++ nodes.entriesAt i)

end Nodes

end RankFusion.Yaml
