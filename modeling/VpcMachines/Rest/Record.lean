import VpcMachines.Cloud

/-!
# Records in replies of the cloud

What the cloud sends as JSON is taken apart member by member and then checked like any other data.
Where a member may be missing, an empty value in its place counts as missing.
-/

namespace VpcMachines.Rest

open Schema (Check Verdict required optional)

/-- A reading of a reply. -/
abbrev Reading (α : Type) := Except Fault α

def shaped {α : Type} : Except Misshape α → Reading α
  | .ok a => .ok a
  | .error shape => .error (.misshapen shape)

def get (name : String) (v : Json) : Reading Json := shaped (v.get name)

def entry (name : String) (v : Json) : Reading Json := shaped (v.entry name)

/-- The member of a member; an empty outer one has none. -/
def getInner (outer inner : String) (v : Json) : Reading Json := do
  get inner (← get outer v).orEmpty

def elements (v : Json) : Reading (List Json) := shaped v.elements

/-- A verdict on a record of a model. -/
def judged {α : Type} (model : String) : Verdict α → Reading α
  | .accepted a => .ok a
  | .rejected issues => .error (.invalid model issues)

/-- A record of a model from the values of its fields. -/
def build {α : Type} (model : String) (check : Check α) (fields : List (String × Json)) :
    Reading α :=
  judged model (check (.record (Datum.ofFields fields)))

def named (v : Json) : Reading NamedResource := do
  let id ← entry "id" v
  let name ← get "name" v
  build "NamedResource" NamedResource.check [("id", id), ("name", name)]

/-- The name of an instance is empty if it is missing, but not if it is null. -/
def nameOf (v : Json) : Reading Json := do
  let name ← get "name" v
  return if (v.member? "name").isSome then name else .text ""

def observedInstance (v : Json) : Reading Instance := do
  let interface ← get "primary_network_interface" v
  let address ← getInner "primary_ip" "address" interface.orEmpty
  let id ← entry "id" v
  let name ← nameOf v
  let status ← get "status" v
  let zone ← getInner "zone" "name" v
  let profile ← getInner "profile" "name" v
  build "ObservedInstance" Instance.check
    [("id", id), ("name", name), ("status", status), ("primary_address", address), ("zone", zone),
     ("profile", profile)]

def poolReference (v : Json) : Reading PoolReference := do
  let id ← entry "id" v
  let name ← get "name" v
  build "PoolReference" PoolReference.check [("id", id), ("name", name)]

def loadBalancer (v : Json) : Reading LoadBalancer := do
  let id ← entry "id" v
  let name ← get "name" v
  let status ← get "provisioning_status" v
  let pools ← (← elements (← get "pools" v)).mapM poolReference
  build "LoadBalancer" LoadBalancer.check
    [("id", id), ("name", name), ("provisioning_status", status),
     ("pools", .array (pools.map PoolReference.toJson))]

def member (v : Json) : Reading PoolMember := do
  let id ← entry "id" v
  let address ← getInner "target" "address" v
  let port ← get "port" v
  let health ← get "health" v
  build "PoolMember" PoolMember.check
    [("id", id), ("address", address), ("port", port), ("health", health)]

/-- The cursor of the next page: the value that the link to it gives to `start`. -/
def nextStart (v : Json) : Reading (Option String) := do
  let href ← getInner "next" "href" v
  if href.isFalsy then return none
  else
    match href with
    | .text link =>
      match Link.value? link "start" with
      | .ok cursor => return cursor
      | .error fault => .error (.link fault)
    | v => .error (.misshapen (.noMember v.kindName "decode"))

/-- The records under a name. -/
def collection {α : Type} (read : Json → Reading α) (name : String) (v : Json) :
    Reading (List α) := do
  (← elements (← get name v)).mapM read

/-- A page of a listing whose records are under a name. -/
def page {α : Type} (read : Json → Reading α) (name : String) (v : Json) : Reading (Page α) := do
  let items ← collection read name v
  let next ← nextStart v
  return ⟨items, next⟩

def byId (id : String) : Json := .object [("id", .text id)]

def byName (name : String) : Json := .object [("name", .text name)]

/-- A field of a body that is left out if nothing is set. -/
def part (name : String) (value : Option String) (wrap : String → Json) : List (String × Json) :=
  match filled value with
  | none => []
  | some s => [(name, wrap s)]

/-- The network interface, with security groups if there are any. -/
def interfaceFields (p : Prototype) : List (String × Json) :=
  ("subnet", .object [("id", .ofOption p.subnetId)]) ::
    if p.securityGroupIds.isEmpty then []
    else [("security_groups", .array (p.securityGroupIds.map byId))]

/-- The fields that every body has. -/
def frontFields (p : Prototype) : List (String × Json) :=
  [("name", .text p.name), ("profile", byName p.profile), ("image", byId p.imageId),
    ("keys", .array (p.keyIds.map byId)), ("primary_network_interface", .object (interfaceFields p))]

/-- The body of a request for an instance. What is not set, or set to nothing, is left out. -/
def instanceBody (p : Prototype) : Json :=
  .object <|
    frontFields p ++ part "zone" p.zone byName ++ part "vpc" p.vpcId byId ++
      part "resource_group" p.resourceGroupId byId ++ part "user_data" p.userData .text

end VpcMachines.Rest
