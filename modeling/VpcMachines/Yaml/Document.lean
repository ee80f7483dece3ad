import VpcMachines.Yaml.Atom
import VpcMachines.Yaml.Graph.Merging
import VpcMachines.Yaml.Graph.Reading

/-!
# Documents

The values of the nodes of a graph. Collections refer to their parts by node, so parts may be shared,
and a collection may be part of itself. Mappings keep the order in which their keys first appear; a
later entry of the same key replaces the value.

Values are found level by level: atoms where they are met, and the parts of a collection after all the
collections that were met before it. Of several scalars that do not fit their tags, the fault of the
first one found in this order counts.
-/

namespace VpcMachines.Yaml

/-- An atom as a key. A float that equals nothing, not even itself, is a key by its node. -/
structure Key where
  node : Ref
  atom : Atom

def Key.coincides (a b : Key) : Bool := a.node == b.node || a.atom.coincides b.atom

inductive Value where
  | atom (a : Atom)
  | list (items : List Ref)
  | map (entries : List (Key × Ref))
  | set (members : List Key)
  | pairs (items : List (Ref × Ref))

namespace Value

def isFalsy : Value → Bool
  | .atom a => a.isFalsy
  | .list items => items.isEmpty
  | .map entries => entries.isEmpty
  | .set members => members.isEmpty
  | .pairs items => items.isEmpty

/-- The value of a collection before its parts are known. -/
def emptyOf : Tag → Value
  | .mapping => .map []
  | .set => .set []
  | .sequence => .list []
  | _ => .pairs []

/-- The entries with one more. The first of several equal keys stays. -/
def insert (key : Key) (value : Ref) : List (Key × Ref) → List (Key × Ref)
  | [] => [(key, value)]
  | entry :: rest =>
    if entry.1.coincides key then (entry.1, value) :: rest else entry :: insert key value rest

end Value

/-- The values that are known so far, and all collections among them in the order in which they were
met. -/
structure Found where
  graph : Graph
  values : Array (Option Value)
  collections : Array Ref

namespace Found

def value? (f : Found) (r : Ref) : Option Value := (f.values[r]?).join

def put (f : Found) (r : Ref) (value : Value) : Found :=
  { f with values := f.values.setIfInBounds r (some value) }

/-- The atom of a node whose tag asks for one. -/
def atomAt (f : Found) (r : Ref) : Except Fault Atom := do
  let node := f.graph.node r
  if !node.tag.isScalar then .error .malformed
  let text ← f.graph.textOf Graph.depthLimit r
  if node.tag = .timestamp && !node.isScalar then .error .notPlainText
  Atom.ofText node.tag text

/-- Meets a node: its value is known from here on, though that of a collection is still empty. -/
def meet (f : Found) (r : Ref) : Except Fault Found :=
  if (f.value? r).isSome then .ok f
  else if (f.graph.tag r).isCollection then
    let known := f.put r (.emptyOf (f.graph.tag r))
    .ok { known with collections := known.collections.push r }
  else (f.atomAt r).map fun a ↦ f.put r (.atom a)

/-- Meets a node as a key, which has to be an atom. -/
def meetKey (f : Found) (r : Ref) : Except Fault (Key × Found) := do
  let f ← f.meet r
  match f.value? r with
  | some (.atom a) => return (⟨r, a⟩, f)
  | _ => .error .malformed

def meetAll (f : Found) : List Ref → Except Fault Found
  | [] => .ok f
  | r :: rest => do (← f.meet r).meetAll rest

/-- Meets the entries of a mapping, and puts them behind those that are known. -/
def meetEntries (f : Found) (known : List (Key × Ref)) :
    List (Ref × Ref) → Except Fault (List (Key × Ref) × Found)
  | [] => .ok (known, f)
  | (key, value) :: rest => do
    let (key, f) ← f.meetKey key
    let f ← f.meet value
    f.meetEntries (Value.insert key value known) rest

/-- Meets the entries of the items of a sequence, each of which has to be a mapping with one entry. -/
def meetPairs (f : Found) : List Ref → Except Fault (List (Ref × Ref) × Found)
  | [] => .ok ([], f)
  | item :: rest =>
    match f.graph.node item with
    | .mapping _ [(first, second)] => do
      let f ← f.meet first
      let f ← f.meet second
      let (pairs, f) ← f.meetPairs rest
      return ((first, second) :: pairs, f)
    | _ => .error .malformed

/-- Merges the entries of a mapping, and meets them. -/
def meetMapping (f : Found) (r : Ref) : Except Fault (List (Key × Ref) × Found) := do
  if !(f.graph.node r).isMapping then .error .malformed
  let graph ← Graph.merge Graph.depthLimit f.graph r
  { f with graph := graph }.meetEntries [] (graph.entries r)

/-- Finds the parts of a collection. -/
def complete (f : Found) (r : Ref) : Except Fault Found := do
  match f.graph.tag r, f.graph.node r with
  | .mapping, _ =>
    let (entries, f) ← f.meetMapping r
    return f.put r (.map entries)
  | .set, _ =>
    let (entries, f) ← f.meetMapping r
    return f.put r (.set (entries.map Prod.fst))
  | .sequence, .sequence _ items =>
    let f ← f.meetAll items
    return f.put r (.list items)
  | .omap, .sequence _ items =>
    let (pairs, f) ← f.meetPairs items
    return f.put r (.pairs pairs)
  | .pairs, .sequence _ items =>
    let (pairs, f) ← f.meetPairs items
    return f.put r (.pairs pairs)
  | _, _ => .error .malformed

/-- Completes the collections from a position on. There are at most as many as nodes. -/
def completeFrom (f : Found) : (fuel position : Nat) → Except Fault Found
  | 0, _ => .ok f
  | fuel + 1, position =>
    match f.collections[position]? with
    | none => .ok f
    | some r => do (← f.complete r).completeFrom fuel (position + 1)

end Found

/-- The value of each node that is part of the root. -/
structure Document where
  values : Array (Option Value)
  root : Ref

namespace Document

/-- The document of a text that holds nothing. -/
def null : Document := ⟨#[some (.atom .null)], 0⟩

/-- The value of a node; null if it has none. -/
def value (d : Document) (r : Ref) : Value := ((d.values[r]?).join).getD (.atom .null)

def content (d : Document) : Value := d.value d.root

def ofGraph (g : Graph) : Except Fault Document := do
  let f ← Found.meet ⟨g, Array.replicate g.nodes.size none, #[]⟩ g.root
  let f ← f.completeFrom (g.nodes.size + 1) 0
  return ⟨f.values, g.root⟩

end Document

/-- Reads a text that holds at most one document. -/
def read (s : List Char) : Except Fault Document := do
  match ← Graph.ofTokens (tokens s) with
  | none => return .null
  | some graph => Document.ofGraph graph

end VpcMachines.Yaml
