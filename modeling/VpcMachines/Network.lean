import VpcMachines.Reference.Basic

/-!
# The network of a cluster

Where a machine is placed, and what earlier rounds found out about the network: resources by name that
need no lookup.
-/

namespace VpcMachines

open Schema (Check optional required)

/-- Where the primary network interface of a machine lands. -/
structure Placement where
  subnet : Reference
  securityGroups : List Reference
  deriving DecidableEq, Repr

namespace Placement

def default : Placement := ⟨.empty, []⟩

def check : Check Placement :=
  Check.model "NetworkPlacement" fun given ↦
    Placement.mk <$> optional given "subnet" .empty Reference.checkWritten
      <*> optional given "security_groups" [] Reference.checkList

def toJson (p : Placement) : Json :=
  .object [("subnet", p.subnet.toJson),
    ("security_groups", .array (p.securityGroups.map Reference.toJson))]

end Placement

/-- A resource that was resolved earlier. -/
structure ResourceStatus where
  id : String
  name : Option String
  ready : Bool
  deriving DecidableEq, Repr

namespace ResourceStatus

def check : Check ResourceStatus :=
  Check.model "ResourceStatus" fun given ↦
    ResourceStatus.mk <$> required given "id" Schema.text <*> optional given "name" none textOrNull
      <*> optional given "ready" false Schema.boolean

def toJson (s : ResourceStatus) : Json :=
  .object [("id", .text s.id), ("name", .ofOption s.name), ("ready", .bool s.ready)]

end ResourceStatus

/-- Resolved subnets and security groups by name, with the network and the resource group that they
belong to. -/
structure NetworkStatus where
  vpc : Option ResourceStatus
  resourceGroup : Option ResourceStatus
  subnets : List (String × ResourceStatus)
  securityGroups : List (String × ResourceStatus)
  deriving DecidableEq, Repr

namespace NetworkStatus

def check : Check NetworkStatus :=
  Check.model "NetworkStatusCache" fun given ↦
    let status := Check.nullable ResourceStatus.check
    let table := Check.mapping ResourceStatus.check
    NetworkStatus.mk <$> optional given "vpc" none status
      <*> optional given "resource_group" none status
      <*> optional given "subnets" [] table <*> optional given "security_groups" [] table

/-- The ID that a table has for a name. The empty name stands for none. -/
def idIn (table : List (String × ResourceStatus)) (name : Option String) : Option String :=
  (filled name).bind fun name ↦ (table.lookup name).map ResourceStatus.id

def subnetId (s : NetworkStatus) (name : Option String) : Option String := idIn s.subnets name

def securityGroupId (s : NetworkStatus) (name : Option String) : Option String :=
  idIn s.securityGroups name

def vpcId (s : NetworkStatus) : Option String := s.vpc.map ResourceStatus.id

def resourceGroupId (s : NetworkStatus) : Option String := s.resourceGroup.map ResourceStatus.id

def toJson (s : NetworkStatus) : Json :=
  let status (r : Option ResourceStatus) : Json := (r.map ResourceStatus.toJson).getD .null
  let table (entries : List (String × ResourceStatus)) : Json :=
    .object (entries.map fun (name, r) ↦ (name, r.toJson))
  .object [("vpc", status s.vpc), ("resource_group", status s.resourceGroup),
    ("subnets", table s.subnets), ("security_groups", table s.securityGroups)]

end NetworkStatus

end VpcMachines
