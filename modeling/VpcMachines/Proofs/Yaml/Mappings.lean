import VpcMachines.Yaml.Document

/-!
# Mappings whose keys are texts

Nothing is merged into a mapping whose keys are all texts, so its entries are met one after the other
as they stand in the graph.
-/

namespace VpcMachines.Yaml

variable {g : Graph} {r : Ref} {fuel : Nat}

namespace Graph

theorem set_node (g : Graph) (r : Ref) : g.set r (g.node r) = g := by
  obtain ⟨nodes, root⟩ := g
  simp only [set, node, mk.injEq, and_true]
  by_cases hr : r < nodes.size
  · simp [hr, Array.setIfInBounds]
  · exact Array.setIfInBounds_eq_of_size_le (Nat.le_of_not_lt hr)

theorem withEntries_entries (node : Node) : node.withEntries node.entries = node := by
  cases node <;> rfl

/-- A mapping whose keys are all texts. -/
def HasTextKeys (g : Graph) (r : Ref) : Prop := ∀ entry ∈ g.entries r, g.tag entry.1 = .text

theorem takeMerge_eq_none (h : g.HasTextKeys r) : g.takeMerge r = none := by
  have hfind : (g.entries r).find? (fun entry ↦ g.tag entry.1 == .merge) = none := by
    refine List.find?_eq_none.mpr fun entry hentry ↦ ?_
    rw [h entry hentry]
    decide
  rw [takeMerge, hfind]
  rfl

theorem settleDefaults_eq (h : g.HasTextKeys r) : g.settleDefaults r = g := by
  have hfold (entries : List (Ref × Ref)) (hall : ∀ entry ∈ entries, g.tag entry.1 = .text) :
      entries.foldl (fun g entry ↦
        if g.tag entry.1 == .default then g.set entry.1 ((g.node entry.1).withTag .text) else g) g =
        g := by
    induction entries with
    | nil => rfl
    | cons entry entries ih =>
      obtain ⟨hentry, hothers⟩ := List.forall_mem_cons.mp hall
      rw [List.foldl_cons, hentry]
      exact ih hothers
  exact hfold _ h

/-- Nothing is merged into a mapping whose keys are all texts. -/
theorem merge_eq (h : g.HasTextKeys r) : merge (fuel + 1) g r = .ok g := by
  have hgather (count : Nat) : gatherMerges (merge fuel) r count g = .ok ([], g) := by
    cases count with
    | zero => rfl
    | succ count => rw [gatherMerges, takeMerge_eq_none h]
  have hset : g.set r ((g.node r).withEntries (g.entries r)) = g := by
    rw [entries, withEntries_entries, set_node]
  simp only [merge, hgather, bind, Except.bind, settleDefaults_eq h, List.nil_append, hset]
  rfl

end Graph

namespace Found

variable {f : Found} {tag : Tag} {text : String} {entries : List (Ref × Ref)}

/-- A scalar that is met for the first time gets the atom that its text stands for. -/
theorem meet_scalar (hnew : f.value? r = none) (hnode : f.graph.node r = .scalar tag text)
    (htag : tag.isScalar = true) :
    f.meet r = (Atom.ofText tag text).map fun a ↦ f.put r (.atom a) := by
  have hcollection : tag.isCollection = false := by cases tag <;> first | rfl | cases htag
  have htext : f.graph.textOf Graph.depthLimit r = .ok text := by
    rw [Graph.depthLimit, Graph.textOf, hnode]
  have hatom : f.atomAt r = Atom.ofText tag text := by
    simp [atomAt, hnode, Node.tag, htag, htext, Node.isScalar, bind, Except.bind]
  simp [meet, hnew, Graph.tag, hnode, Node.tag, hcollection, hatom]

/-- The entries of a mapping whose keys are all texts are met one after the other. -/
theorem complete_mapping (hnode : f.graph.node r = .mapping .mapping entries)
    (hkeys : f.graph.HasTextKeys r) :
    f.complete r =
      (f.meetEntries [] entries).map fun (entries, f) ↦ f.put r (.map entries) := by
  have hentries : f.graph.entries r = entries := by rw [Graph.entries, hnode, Node.entries]
  have hmapping : f.meetMapping r = f.meetEntries [] entries := by
    simp only [meetMapping, hnode, Node.isMapping, Graph.depthLimit, Graph.merge_eq hkeys,
      Bool.not_true, Bool.false_eq_true, if_false]
    rw [← hentries]
    rfl
  simp only [complete, Graph.tag, hnode, Node.tag, hmapping]
  cases f.meetEntries [] entries <;> rfl

theorem completeFrom_next {fuel position : Nat} (h : f.collections[position]? = some r) :
    f.completeFrom (fuel + 1) position =
      (f.complete r).bind fun next ↦ next.completeFrom fuel (position + 1) := by
  rw [completeFrom, h]
  rfl

end Found

end VpcMachines.Yaml
