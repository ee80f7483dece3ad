import VpcMachines.Pool.Membership

/-!
# Membership with answers of any type

An answer is read where it is needed, piece by piece, and it may be of a type that cannot be read so. The
reading is no part of the call, so its fault leaves the operation as it is. Here a member is ensured with
answers of any types, given with what reading them leads to. The usual answers are those of which none is
all that cannot be read.
-/

namespace VpcMachines.Pool

/-- Answers about load balancers and their pools, and what reading them leads to. Ids and statuses count as
their texts. -/
structure Answers extends AnswerTypes where
  Pool : Type
  targetPool : Balancer → Except Fault (Option Pool)
  isActive : Balancer → Except Fault Bool
  status : Balancer → Except Fault (Option String)
  poolId : Pool → Except Fault String
  members : Roster → Except Fault (List Member)
  isAt : Member → String → Except Fault Bool
  memberId : Member → Except Fault String

namespace Answers

/-- The calls to the cloud, with these answers. -/
abbrev cloud (A : Answers) : Interface := CloudIn A.toAnswerTypes

/-- The id of the pool that a load balancer has members added to. -/
def openPool (A : Answers) (loadBalancer : String) (b : A.Balancer) : Except Fault String := do
  match ← A.targetPool b with
  | none => .error (.noPools loadBalancer)
  | some pool =>
    if ← A.isActive b then A.poolId pool
    else .error (.notActive loadBalancer (← A.status b))

/-- The first member at an address. Those behind it are not read. -/
def memberAt (A : Answers) (address : String) : List A.Member → Except Fault (Option A.Member)
  | [] => .ok none
  | m :: rest => do
    if ← A.isAt m address then return some m
    else A.memberAt address rest

/-- The member at an address, of which the id is read as well. -/
def present (A : Answers) (address : String) (roster : A.Roster) :
    Except Fault (Option A.Member) := do
  match ← A.memberAt address (← A.members roster) with
  | none => return none
  | some m =>
    let _ ← A.memberId m
    return some m

/-- A field of a record, which may be missing. -/
def ofRecord {α β : Type} (field : String) (read : α → β) : Option α → Except Fault β
  | none => .error (.misshapen (.noMember "NoneType" field))
  | some a => .ok (read a)

/-- The usual answers. -/
abbrev usual : Answers where
  toAnswerTypes := .usual
  Pool := PoolReference
  targetPool := ofRecord "target_pool" LoadBalancer.targetPool
  isActive := ofRecord "is_active" LoadBalancer.isActive
  status := ofRecord "provisioning_status" LoadBalancer.provisioningStatus
  poolId p := .ok p.id
  members roster := .ok ((roster.getD []).map some)
  isAt m address := ofRecord "address" (fun m : PoolMember ↦ m.address == some address) m
  memberId := ofRecord "id" PoolMember.id

end Answers

/-- Makes sure that an address is a member of the first pool, with answers of any type. -/
def ensureMemberIn (A : Answers) (settings : Settings) (loadBalancer address : String)
    (port : Option Int) : Program A.cloud A.Member := do
  let port := port.getD settings.apiServerPort
  if !isPort port then .fail (.portOutOfRange port)
  else
    let b ← (Program.request (I := A.cloud) (.getLoadBalancer loadBalancer)).described
      s!"fetching load balancer {loadBalancer}"
    let pool ← Program.ofExcept (A.openPool loadBalancer b)
    let roster ← (Program.request (I := A.cloud) (.listPoolMembers loadBalancer pool)).described
      s!"listing members of pool {pool}"
    match ← Program.ofExcept (A.present address roster) with
    | some existing => return existing
    | none =>
      (Program.request (I := A.cloud) (.createPoolMember loadBalancer pool address port)).described
        s!"creating member {address}:{port} in pool {pool}"

end VpcMachines.Pool
