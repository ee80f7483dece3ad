import VpcMachines.Reference.Basic

/-!
# Load balancers and their pools

The first pool of a load balancer receives the machines. Pools may only change while the load balancer
is active.
-/

namespace VpcMachines

open Schema (Check optional required)

structure PoolReference where
  id : String
  name : Option String
  deriving DecidableEq, Repr

namespace PoolReference

def check : Check PoolReference :=
  Check.model "PoolReference" fun given ↦
    PoolReference.mk <$> required given "id" Schema.text <*> optional given "name" none textOrNull

def toJson (p : PoolReference) : Json := .object [("id", .text p.id), ("name", .ofOption p.name)]

end PoolReference

structure LoadBalancer where
  id : String
  name : Option String
  provisioningStatus : Option String
  pools : List PoolReference
  deriving DecidableEq, Repr

namespace LoadBalancer

def check : Check LoadBalancer :=
  Check.model "LoadBalancer" fun given ↦
    LoadBalancer.mk <$> required given "id" Schema.text <*> optional given "name" none textOrNull
      <*> optional given "provisioning_status" none textOrNull
      <*> optional given "pools" [] (Check.list PoolReference.check)

def isActive (b : LoadBalancer) : Bool := b.provisioningStatus == some "active"

/-- The pool that receives the machines. -/
def targetPool (b : LoadBalancer) : Option PoolReference := b.pools.head?

def toJson (b : LoadBalancer) : Json :=
  .object [("id", .text b.id), ("name", .ofOption b.name),
    ("provisioning_status", .ofOption b.provisioningStatus),
    ("pools", .array (b.pools.map PoolReference.toJson))]

end LoadBalancer

structure PoolMember where
  id : String
  address : Option String
  port : Option Int
  health : Option String
  deriving DecidableEq, Repr

namespace PoolMember

def check : Check PoolMember :=
  Check.model "PoolMember" fun given ↦
    PoolMember.mk <$> required given "id" Schema.text <*> optional given "address" none textOrNull
      <*> optional given "port" none (Check.nullable Schema.integer)
      <*> optional given "health" none textOrNull

def toJson (m : PoolMember) : Json :=
  .object [("id", .text m.id), ("address", .ofOption m.address),
    ("port", (m.port.map Json.int).getD .null), ("health", .ofOption m.health)]

end PoolMember

end VpcMachines
