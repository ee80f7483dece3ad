import VpcMachines.Proofs.Machine.Stages
import VpcMachines.Proofs.Reference.Catalog

/-!
# What a specification means

In a catalog, every reference of a specification denotes an ID, or nothing for a known reason. Preparing
the request for an instance fails at the first reference that denotes nothing. If there is none, the
request has the text and what the references denote, all in the order of the specification
(`Catalog.prototype_unless`, `Catalog.means_request`).
-/

namespace VpcMachines

open Program

/-- The references of a specification, in the order in which they are resolved. -/
def MachineSpec.references (spec : MachineSpec) : List (ResourceKind × Option Reference) :=
  (.image, spec.image) :: (spec.sshKeys.map fun r ↦ (.sshKey, some r)) ++
    (.subnet, some spec.network.subnet) ::
      spec.network.securityGroups.map fun r ↦ (.securityGroup, some r)

namespace MachineSpec

variable {spec : MachineSpec} {r : Reference}

theorem image_mem_references : (.image, spec.image) ∈ spec.references := by
  simp [references]

theorem key_mem_references (hr : r ∈ spec.sshKeys) : (.sshKey, some r) ∈ spec.references := by
  simp [references, hr]

theorem subnet_mem_references : (.subnet, some spec.network.subnet) ∈ spec.references := by
  simp [references]

theorem group_mem_references (hr : r ∈ spec.network.securityGroups) :
    (.securityGroup, some r) ∈ spec.references := by
  simp [references, hr]

theorem exists_group_of_mem_references {set : Option Reference}
    (h : (.securityGroup, set) ∈ spec.references) :
    ∃ r ∈ spec.network.securityGroups, set = some r := by
  simpa [references, eq_comm] using h

end MachineSpec

namespace Catalog

/-- Nothing if a reference denotes an ID, else the reason why it does not. -/
def flaws (k : Catalog) (network : Option NetworkStatus) :
    ResourceKind × Option Reference → List Fault
  | (kind, r) =>
    match k.denotation kind network r with
    | some _ => []
    | none => [Reference.flaw kind r]

/-- The ID for a reference, left empty where it denotes none. -/
def idFor (k : Catalog) (kind : ResourceKind) (network : Option NetworkStatus)
    (r : Option Reference) : String :=
  (k.denotation kind network r).getD ""

/-- The request for a specification. -/
def request (k : Catalog) (spec : MachineSpec) (network : Option NetworkStatus) (text : String) :
    Prototype where
  name := spec.name
  profile := spec.profile
  imageId := k.idFor .image network spec.image
  keyIds := spec.sshKeys.map fun r ↦ k.idFor .sshKey network (some r)
  subnetId := some (k.idFor .subnet network (some spec.network.subnet))
  securityGroupIds := spec.network.securityGroups.map fun r ↦ k.idFor .securityGroup network (some r)
  zone := spec.zone
  vpcId := network.bind NetworkStatus.vpcId
  resourceGroupId := network.bind NetworkStatus.resourceGroupId
  userData := some text

/-- A request says what a specification means: it has the IDs that the references denote, each in the
place of its reference, and takes over everything else. -/
structure Means (k : Catalog) (spec : MachineSpec) (network : Option NetworkStatus) (text : String)
    (request : Prototype) : Prop where
  name : request.name = spec.name
  profile : request.profile = spec.profile
  image : k.denotation .image network spec.image = some request.imageId
  keys : (spec.sshKeys.map fun r ↦ k.denotation .sshKey network (some r)) = request.keyIds.map some
  subnet : (k.denotation .subnet network (some spec.network.subnet)).isSome ∧
    k.denotation .subnet network (some spec.network.subnet) = request.subnetId
  securityGroups : (spec.network.securityGroups.map fun r ↦
    k.denotation .securityGroup network (some r)) = request.securityGroupIds.map some
  zone : request.zone = spec.zone
  vpc : request.vpcId = network.bind NetworkStatus.vpcId
  resourceGroup : request.resourceGroupId = network.bind NetworkStatus.resourceGroupId
  userData : request.userData = some text

variable {k : Catalog} {network : Option NetworkStatus} {kind : ResourceKind} {pages : Nat}
  {spec : MachineSpec}

theorem flaws_eq_nil_iff {r : ResourceKind × Option Reference} :
    k.flaws network r = [] ↔ (k.denotation r.1 network r.2).isSome := by
  rw [flaws]
  cases k.denotation r.1 network r.2 <;> simp

theorem denotation_eq_idFor {r : Option Reference} (h : k.flaws network (kind, r) = []) :
    k.denotation kind network r = some (k.idFor kind network r) := by
  obtain ⟨id, hid⟩ := Option.isSome_iff_exists.mp (flaws_eq_nil_iff.mp h)
  rw [idFor, show k.denotation kind network r = some id from hid, Option.getD_some]

/-- Where all references denote something, the request says what the specification means. -/
theorem means_request (text : String)
    (h : spec.references.flatMap (k.flaws network) = []) :
    k.Means spec network text (k.request spec network text) := by
  have hdenotes {kind : ResourceKind} {r : Option Reference} (hr : (kind, r) ∈ spec.references) :
      k.denotation kind network r = some (k.idFor kind network r) :=
    denotation_eq_idFor (List.flatMap_eq_nil_iff.mp h _ hr)
  have hsubnet := hdenotes MachineSpec.subnet_mem_references
  refine ⟨rfl, rfl, hdenotes MachineSpec.image_mem_references, ?_, ⟨?_, hsubnet⟩, ?_, rfl, rfl, rfl,
    rfl⟩
  · rw [request, List.map_map]
    exact List.map_congr_left fun r hr ↦ hdenotes (MachineSpec.key_mem_references hr)
  · rw [hsubnet, Option.isSome_some]
  · rw [request, List.map_map]
    exact List.map_congr_left fun r hr ↦ hdenotes (MachineSpec.group_mem_references hr)

theorem ending_eq_unless (r : Option Reference) :
    Reference.ending kind r (k.denotation kind network r) =
      .unless (k.flaws network (kind, r)) (.returned (k.idFor kind network r)) := by
  rw [flaws, idFor]
  cases k.denotation kind network r <;> rfl

theorem resolve_unless (hfits : k.FitsIn pages) (r : Option Reference) :
    (Reference.resolve pages r kind network).Settles k.Tells
      (.unless (k.flaws network (kind, r)) (.returned (k.idFor kind network r))) := by
  rw [← ending_eq_unless]
  exact Reference.resolve_settles hfits r

theorem resolveAll_unless (hfits : k.FitsIn pages) (refs : List Reference) :
    (Reference.resolveAll pages kind network refs).Settles k.Tells
      (.unless (refs.flatMap fun r ↦ k.flaws network (kind, some r))
        (.returned (refs.map fun r ↦ k.idFor kind network (some r)))) := by
  induction refs with
  | nil => exact .pure _
  | cons r refs ih =>
    rw [List.flatMap_cons, ← List.append_nil (List.flatMap _ _)]
    exact (resolve_unless hfits (some r)).bind_unless (ih.bind_unless (.pure _))

/-- Preparing a request fails at the first reference that denotes nothing, and else gives the request. -/
theorem prototype_unless (hfits : k.FitsIn pages) (text : String) :
    (Machine.prototype pages spec network text).Settles k.Tells
      (.unless (spec.references.flatMap (k.flaws network))
        (.returned (k.request spec network text))) := by
  -- Images and keys are resolved without the network status, which has no say in them.
  have himage : (Reference.resolve pages spec.image .image none).Settles k.Tells
      (.unless (k.flaws network (.image, spec.image))
        (.returned (k.idFor .image network spec.image))) :=
    resolve_unless hfits spec.image
  have hkeys : (Reference.resolveAll pages .sshKey none spec.sshKeys).Settles k.Tells
      (.unless (spec.sshKeys.flatMap fun r ↦ k.flaws network (.sshKey, some r))
        (.returned (spec.sshKeys.map fun r ↦ k.idFor .sshKey network (some r)))) :=
    resolveAll_unless hfits spec.sshKeys
  have hflaws : spec.references.flatMap (k.flaws network) =
      k.flaws network (.image, spec.image) ++
        ((spec.sshKeys.flatMap fun r ↦ k.flaws network (.sshKey, some r)) ++
          (k.flaws network (.subnet, some spec.network.subnet) ++
            ((spec.network.securityGroups.flatMap fun r ↦
              k.flaws network (.securityGroup, some r)) ++ []))) := by
    simp only [MachineSpec.references, List.cons_append, List.flatMap_append, List.flatMap_cons,
      List.flatMap_map, List.append_nil]
  rw [hflaws]
  refine himage.bind_unless (hkeys.bind_unless ((resolve_unless hfits _).bind_unless ?_))
  exact (resolveAll_unless hfits spec.network.securityGroups).bind_unless (.pure _)

/-- The instance of a name is the first one of exactly this name in what is listed for it. -/
def instanceNamed (k : Catalog) (name : String) : Option Instance :=
  (k.instances name).items.find? fun i ↦ i.name == name

theorem findInstance_yields {name : String}
    (hpages : (k.instances name).later.length + 1 < pages) :
    (Machine.findInstance pages name).Yields k.Lists
      ((Chain.asked (fun i ↦ i.name == name) (k.instances name).pages).map
        (CloudCall.listInstances (some name)))
      (.returned (k.instanceNamed name)) := by
  have hfind := Chain.search_yields (instances_servedBy name) (fun i ↦ i.name == name) hpages
  exact hfind.described _

end Catalog

end VpcMachines
