import VpcMachines.Yaml.Fault
import VpcMachines.Yaml.Resolution

/-!
# The graph of a document

A document is a graph of nodes: scalars, sequences and mappings, each with its tag. An alias is one more
reference to the node that its anchor marks, so a node can be reached in several ways, and even from
inside itself.
-/

namespace VpcMachines.Yaml

/-- A node, by its number in the graph. -/
abbrev Ref := Nat

inductive Node where
  | scalar (tag : Tag) (text : String)
  | sequence (tag : Tag) (items : List Ref)
  | mapping (tag : Tag) (entries : List (Ref × Ref))
  deriving DecidableEq, Repr

namespace Node

/-- An empty node without a tag. -/
def empty : Node := .scalar .null ""

def tag : Node → Tag
  | .scalar tag _ => tag
  | .sequence tag _ => tag
  | .mapping tag _ => tag

def withTag (tag : Tag) : Node → Node
  | .scalar _ text => .scalar tag text
  | .sequence _ items => .sequence tag items
  | .mapping _ entries => .mapping tag entries

def isScalar : Node → Bool
  | .scalar _ _ => true
  | _ => false

def isMapping : Node → Bool
  | .mapping _ _ => true
  | _ => false

/-- The entries of a mapping; other nodes have none. -/
def entries : Node → List (Ref × Ref)
  | .mapping _ entries => entries
  | _ => []

def withEntries (entries : List (Ref × Ref)) : Node → Node
  | .mapping tag _ => .mapping tag entries
  | node => node

end Node

structure Graph where
  nodes : Array Node
  root : Ref
  deriving DecidableEq, Repr

namespace Graph

/-- The node of a reference; there is an empty one for those that lead nowhere. -/
def node (g : Graph) (r : Ref) : Node := (g.nodes[r]?).getD .empty

def tag (g : Graph) (r : Ref) : Tag := (g.node r).tag

def entries (g : Graph) (r : Ref) : List (Ref × Ref) := (g.node r).entries

/-- Puts another node in the place of one. -/
def set (g : Graph) (r : Ref) (node : Node) : Graph :=
  { g with nodes := g.nodes.setIfInBounds r node }

/-- How many nodes may be entered one inside the other. -/
def depthLimit : Nat := 980

/-- The text that a node stands for as a scalar: its own, or that under its default key. -/
def textOf (g : Graph) : (fuel : Nat) → Ref → Except Fault String
  | 0, _ => .error .tooDeep
  | fuel + 1, r =>
    match g.node r with
    | .scalar _ text => .ok text
    | .sequence _ _ => .error .malformed
    | .mapping _ entries =>
      match entries.find? fun entry ↦ g.tag entry.1 == .default with
      | some entry => g.textOf fuel entry.2
      | none => .error .malformed

end Graph

end VpcMachines.Yaml
