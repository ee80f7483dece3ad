import VpcMachines.Yaml.Graph.Basic

/-!
# Merged mappings

A merge key names a mapping, or a sequence of mappings, whose entries its own mapping takes over. They
come in front of those of its own, and so its own win; of a sequence the first mapping comes last. A
merge key is taken out before the mappings that it names are looked at, which may lead back to where it
stood.
-/

namespace VpcMachines.Yaml.Graph

/-- Takes out the first merge key of a mapping: what it names, and the graph without it. -/
def takeMerge (g : Graph) (r : Ref) : Option (Ref × Graph) :=
  let isMerge (entry : Ref × Ref) : Bool := g.tag entry.1 == .merge
  let entries := g.entries r
  (entries.find? isMerge).map fun entry ↦
    (entry.2, g.set r ((g.node r).withEntries (entries.eraseP isMerge)))

/-- The entries of some mappings, each merged first, those of the last one in front. -/
def gatherAll (merge : Graph → Ref → Except Fault Graph) (g : Graph) :
    List Ref → Except Fault (List (Ref × Ref) × Graph)
  | [] => .ok ([], g)
  | r :: rest =>
    if (g.node r).isMapping then do
      let g ← merge g r
      let own := g.entries r
      let (others, g) ← gatherAll merge g rest
      return (others ++ own, g)
    else .error .malformed

/-- The entries that a merge key brings. -/
def gather (merge : Graph → Ref → Except Fault Graph) (g : Graph) (source : Ref) :
    Except Fault (List (Ref × Ref) × Graph) :=
  match g.node source with
  | .scalar _ _ => .error .malformed
  | .sequence _ items => gatherAll merge g items
  | .mapping _ _ => gatherAll merge g [source]

/-- The entries that up to `count` merge keys of a mapping bring. -/
def gatherMerges (merge : Graph → Ref → Except Fault Graph) (r : Ref) :
    (count : Nat) → Graph → Except Fault (List (Ref × Ref) × Graph)
  | 0, g => .ok ([], g)
  | count + 1, g =>
    match g.takeMerge r with
    | none => .ok ([], g)
    | some (source, g) => do
      let (found, g) ← gather merge g source
      let (more, g) ← gatherMerges merge r count g
      return (found ++ more, g)

/-- Makes the default key of a mapping a text. -/
def settleDefaults (g : Graph) (r : Ref) : Graph :=
  (g.entries r).foldl
    (fun g entry ↦
      if g.tag entry.1 == .default then g.set entry.1 ((g.node entry.1).withTag .text) else g) g

/-- Merges into a mapping what its merge keys name. -/
def merge : (fuel : Nat) → Graph → Ref → Except Fault Graph
  | 0, _, _ => .error .tooDeep
  | fuel + 1, g, r => do
    let (merged, g) ← gatherMerges (merge fuel) r (g.entries r).length g
    let g := g.settleDefaults r
    return g.set r ((g.node r).withEntries (merged ++ g.entries r))

end VpcMachines.Yaml.Graph
