import VpcMachines.Machine.Basic
import VpcMachines.Reference.Resolve
import VpcMachines.Settings.Basic

/-!
# The life of a machine

Creating a machine returns the instance of its name if there is one. Otherwise everything that the
request needs is obtained first, and the request is the last call. Deleting asks for nothing but the
recorded instance, and does nothing if none is recorded.
-/

namespace VpcMachines.Machine

/-- Programs that call the cloud and what is at hand. -/
abbrev Action (α : Type) := Program (Cloud.sum Local) α

def getSecret (space name : String) : Action Secret :=
  .call (I := Cloud.sum Local) (.inr (.secret space name)) Program.ofExcept

/-- The key under which the store keeps bootstrap texts. -/
def getDataKey : Action String :=
  .call (I := Cloud.sum Local) (.inr .dataKey) Program.ofExcept

def lookUpAccount : Action (Option String) :=
  .call (I := Cloud.sum Local) (.inr .account) Program.ofExcept

/-- The instance of exactly this name, on at most `pages` pages. -/
def findInstance (pages : Nat) (name : String) : Program Cloud (Option Instance) :=
  (Walk.find (Cloud.listInstances (some name)) (fun i ↦ i.name == name) pages .start).described
    s!"listing instances named {name}"

/-- The text that a new instance gets to start with, kept in a secret under the data key. -/
def bootstrapData (spec : MachineSpec) : Action String :=
  match filled spec.bootstrapSecret with
  | none => .fail (.noBootstrapSecret spec.name)
  | some name => do
    let space := spec.secretNamespace
    let secret ← (getSecret space name).mapFault (.bootstrapUnreadable space name)
    let dataKey ← getDataKey
    match secret.value? dataKey with
    | none => .fail (.noBootstrapData space name dataKey)
    | some value =>
      match value.asText with
      | .ok text => return text
      | .error fault => .fail (.undecodable fault)

/-- The request for an instance, with every reference resolved. -/
def prototype (pages : Nat) (spec : MachineSpec) (network : Option NetworkStatus)
    (userData : String) : Program Cloud Prototype := do
  let imageId ← Reference.resolve pages spec.image .image none
  let keyIds ← Reference.resolveAll pages .sshKey none spec.sshKeys
  let subnetId ← Reference.resolve pages (some spec.network.subnet) .subnet network
  let groupIds ← Reference.resolveAll pages .securityGroup network spec.network.securityGroups
  return {
    name := spec.name
    profile := spec.profile
    imageId := imageId
    keyIds := keyIds
    subnetId := some subnetId
    securityGroupIds := groupIds
    zone := spec.zone
    vpcId := network.bind NetworkStatus.vpcId
    resourceGroupId := network.bind NetworkStatus.resourceGroupId
    userData := some userData }

def submit (request : Prototype) : Program Cloud (Option Instance) :=
  (Cloud.createInstance request).described s!"creating instance {request.name}"

/-- Finds or creates the instance of a machine. -/
def create (pages : Nat) (spec : MachineSpec) (network : Option NetworkStatus) :
    Action (Option Instance) := do
  match ← (findInstance pages spec.name).beside with
  | some existing => return some existing
  | none =>
    if spec.profile = "" then .fail (.noProfile spec.name)
    else
      let userData ← bootstrapData spec
      let request ← (prototype pages spec network userData).beside
      (submit request).beside

/-- Asks for the deletion of the recorded instance. -/
def delete (status : MachineStatus) : Program Cloud Unit :=
  match filled status.instanceId with
  | none => return ()
  | some id => (Cloud.deleteInstance id).described s!"deleting instance {id}"

/-- The ID under which a node knows its instance. The account comes from the lookup if there is one,
else from the settings. -/
def providerId (settings : Settings) (hasLookup : Bool) (cluster instanceId : String) :
    Action String := do
  if settings.providerIdLayout ≠ .v2 then .fail (.layoutRetired settings.providerIdLayout)
  else
    let account ←
      if hasLookup then lookUpAccount.described "looking up account ID"
      else .done settings.accountId
    match filled account with
    | none => .fail .noAccount
    | some account => return s!"ibm://{account}///{cluster}/{instanceId}"

/-- The status with the instance and its provider ID. -/
def withProviderId (settings : Settings) (hasLookup : Bool) (status : MachineStatus)
    (cluster instanceId : String) : Action MachineStatus := do
  let id ← providerId settings hasLookup cluster instanceId
  return { status with instanceId := some instanceId, providerId := some id }

end VpcMachines.Machine
