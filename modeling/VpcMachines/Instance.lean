import VpcMachines.Reference.Basic

/-!
# Instances and other cloud records

What the cloud says about an instance, what it is told to create one, and the records that lookups by
name give.
-/

namespace VpcMachines

open Schema (Check optional required)

/-- A resource of which only the ID and the name matter. -/
structure NamedResource where
  id : String
  name : Option String
  deriving DecidableEq, Repr

namespace NamedResource

def check : Check NamedResource :=
  Check.model "NamedResource" fun given ↦
    NamedResource.mk <$> required given "id" Schema.text <*> optional given "name" none textOrNull

def toJson (r : NamedResource) : Json := .object [("id", .text r.id), ("name", .ofOption r.name)]

end NamedResource

/-- An instance as the cloud reports it. -/
structure Instance where
  id : String
  name : String
  status : Option String
  primaryAddress : Option String
  zone : Option String
  profile : Option String
  deriving DecidableEq, Repr

namespace Instance

def check : Check Instance :=
  Check.model "ObservedInstance" fun given ↦
    Instance.mk <$> required given "id" Schema.text <*> required given "name" Schema.text
      <*> optional given "status" none textOrNull
      <*> optional given "primary_address" none textOrNull
      <*> optional given "zone" none textOrNull <*> optional given "profile" none textOrNull

def toJson (i : Instance) : Json :=
  .object [("id", .text i.id), ("name", .text i.name), ("status", .ofOption i.status),
    ("primary_address", .ofOption i.primaryAddress), ("zone", .ofOption i.zone),
    ("profile", .ofOption i.profile)]

end Instance

/-- A request for an instance in which every reference is resolved. -/
structure Prototype where
  name : String
  profile : String
  imageId : String
  keyIds : List String
  subnetId : Option String
  securityGroupIds : List String
  zone : Option String
  vpcId : Option String
  resourceGroupId : Option String
  userData : Option String
  deriving DecidableEq, Repr

namespace Prototype

def check : Check Prototype :=
  Check.model "InstancePrototype" fun given ↦
    let texts := Check.list Schema.text
    Prototype.mk <$> required given "name" Schema.text <*> required given "profile" Schema.text
      <*> required given "image_id" Schema.text <*> optional given "key_ids" [] texts
      <*> optional given "subnet_id" none textOrNull
      <*> optional given "security_group_ids" [] texts <*> optional given "zone" none textOrNull
      <*> optional given "vpc_id" none textOrNull
      <*> optional given "resource_group_id" none textOrNull
      <*> optional given "user_data" none textOrNull

def toJson (p : Prototype) : Json :=
  .object [("name", .text p.name), ("profile", .text p.profile), ("image_id", .text p.imageId),
    ("key_ids", .array (p.keyIds.map .text)), ("subnet_id", .ofOption p.subnetId),
    ("security_group_ids", .array (p.securityGroupIds.map .text)), ("zone", .ofOption p.zone),
    ("vpc_id", .ofOption p.vpcId), ("resource_group_id", .ofOption p.resourceGroupId),
    ("user_data", .ofOption p.userData)]

end Prototype

end VpcMachines
