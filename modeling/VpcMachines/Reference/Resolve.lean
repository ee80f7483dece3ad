import VpcMachines.Cloud
import VpcMachines.Listing.Walk
import VpcMachines.Network

/-!
# Resolving references

An explicit ID is trusted. A subnet is looked up by name in the network status and then in the cloud;
images and keys are searched by name in their listings. For a security group the network status comes
first, and an explicit ID is confirmed by fetching the group.

`pages` bounds the pages of a listing that are read.
-/

namespace VpcMachines.Reference

/-- The ID of a record that a lookup found. -/
def found (kind : ResourceKind) (sought : String) : Option NamedResource → Program Cloud String
  | none => .fail (.notFound kind.text sought)
  | some r => return r.id

def lookUpSubnet (name : String) : Program Cloud String := do
  let record ← (Cloud.getSubnetByName name).described s!"looking up subnet {name}"
  found .subnet name record

def search (pages : Nat) (kind : ResourceKind) (fetch : Walk.Fetch Cloud NamedResource)
    (name : String) : Program Cloud String := do
  let record ← (findNamed fetch name pages).described s!"listing {kind.text}s"
  found kind name record

def resolveSecurityGroup (r : Reference) (network : Option NetworkStatus) : Program Cloud String :=
  match filled (network.bind fun status ↦ status.securityGroupId r.name) with
  | some id => return id
  | none =>
    match filled r.id with
    | some id => do
      let record ← (Cloud.getSecurityGroup id).described s!"fetching security group {id}"
      found .securityGroup id record
    | none => do
      let name := r.name.getD ""
      let record ← (Cloud.getSecurityGroupByName name).described s!"looking up security group {name}"
      found .securityGroup name record

def resolveSet (pages : Nat) (r : Reference) (kind : ResourceKind)
    (network : Option NetworkStatus) : Program Cloud String :=
  let name := r.name.getD ""
  match kind with
  | .securityGroup => r.resolveSecurityGroup network
  | .subnet =>
    match filled r.id with
    | some id => return id
    | none =>
      match filled (network.bind fun status ↦ status.subnetId r.name) with
      | some id => return id
      | none => lookUpSubnet name
  | .image =>
    match filled r.id with
    | some id => return id
    | none => search pages .image Cloud.listImages name
  | .sshKey =>
    match filled r.id with
    | some id => return id
    | none => search pages .sshKey Cloud.listKeys name

/-- The ID of the resource that a reference names. -/
def resolve (pages : Nat) (r : Option Reference) (kind : ResourceKind)
    (network : Option NetworkStatus) : Program Cloud String :=
  match r with
  | none => .fail (.emptyReference kind)
  | some r => if r.isSet then r.resolveSet pages kind network else .fail (.emptyReference kind)

/-- The IDs of several references, one after the other. -/
def resolveAll (pages : Nat) (kind : ResourceKind) (network : Option NetworkStatus) :
    List Reference → Program Cloud (List String)
  | [] => return []
  | r :: rest => do
    let id ← resolve pages (some r) kind network
    let ids ← resolveAll pages kind network rest
    return id :: ids

end VpcMachines.Reference
