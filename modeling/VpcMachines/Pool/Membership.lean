import VpcMachines.Cloud
import VpcMachines.Settings.Basic

/-!
# Membership in a pool

Members are told apart by their address alone: a machine has at most one member of the first pool,
whatever its port. A pool is left alone unless its load balancer is active.
-/

namespace VpcMachines.Pool

def memberAt (members : List PoolMember) (address : String) : Option PoolMember :=
  members.find? fun m ↦ m.address == some address

/-- The load balancer, which has to be there for its pools to be looked at. -/
def fetch (loadBalancer : String) : Program Cloud LoadBalancer := do
  let record ←
    (Cloud.getLoadBalancer loadBalancer).described s!"fetching load balancer {loadBalancer}"
  match record with
  | none => .fail (.misshapen (.noMember "NoneType" "target_pool"))
  | some b => return b

def members (loadBalancer pool : String) : Program Cloud (List PoolMember) := do
  let found ←
    (Cloud.listPoolMembers loadBalancer pool).described s!"listing members of pool {pool}"
  return found.getD []

def requireActive (loadBalancer : String) (b : LoadBalancer) : Program Cloud Unit :=
  if b.isActive then return () else .fail (.notActive loadBalancer b.provisioningStatus)

def isPort (port : Int) : Bool := 1 ≤ port && port ≤ 65535

/-- Makes sure that an address is a member of the first pool. -/
def ensureMember (settings : Settings) (loadBalancer address : String) (port : Option Int) :
    Program Cloud (Option PoolMember) := do
  let port := port.getD settings.apiServerPort
  if !isPort port then .fail (.portOutOfRange port)
  else
    let b ← fetch loadBalancer
    match b.targetPool with
    | none => .fail (.noPools loadBalancer)
    | some pool =>
      requireActive loadBalancer b
      match memberAt (← members loadBalancer pool.id) address with
      | some existing => return some existing
      | none =>
        (Cloud.createPoolMember loadBalancer pool.id address port).described
          s!"creating member {address}:{port} in pool {pool.id}"

/-- The address of an instance that was fetched. -/
def addressOf : Option Instance → Program Cloud (Option String)
  | none => .fail (.misshapen (.noMember "NoneType" "primary_address"))
  | some i => return filled i.primaryAddress

/-- Removes the member of an instance from the first pool. Where there is nothing to remove, nothing
is done. -/
def deleteMember (loadBalancer instanceId : String) : Program Cloud Unit := do
  let b ← fetch loadBalancer
  match b.targetPool with
  | none => return ()
  | some pool =>
    let found ← (Cloud.getInstance instanceId).described s!"fetching instance {instanceId}"
    requireActive loadBalancer b
    let present ← members loadBalancer pool.id
    if present.isEmpty then return ()
    else
      match (← addressOf found).bind (memberAt present) with
      | none => return ()
      | some m =>
        (Cloud.deletePoolMember loadBalancer pool.id m.id).described
          s!"deleting member {m.id} from pool {pool.id}"

end VpcMachines.Pool
