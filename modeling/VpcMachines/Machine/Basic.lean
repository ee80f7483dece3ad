import VpcMachines.Instance
import VpcMachines.Network

/-!
# Machines

The wanted state of a machine, what is recorded about it, and the phases of its life.
-/

namespace VpcMachines

open Schema (Check optional required)

/-- The wanted state of a machine. Only the name has to be given: an incomplete specification still
finds an instance that exists. -/
structure MachineSpec where
  name : String
  profile : String
  image : Option Reference
  sshKeys : List Reference
  network : Placement
  zone : Option String
  secretNamespace : String
  bootstrapSecret : Option String
  deriving DecidableEq, Repr

namespace MachineSpec

def check : Check MachineSpec :=
  Check.model "MachineSpec" fun given ↦
    MachineSpec.mk <$> required given "name" Schema.text <*> optional given "profile" "" Schema.text
      <*> optional given "image" none (fun d ↦ Reference.check.nullable (Reference.coerce d))
      <*> optional given "ssh_keys" [] Reference.checkList
      <*> optional given "network" .default Placement.check
      <*> optional given "zone" none textOrNull
      <*> optional given "namespace" "default" Schema.text
      <*> optional given "bootstrap_data_secret" none textOrNull

def toJson (s : MachineSpec) : Json :=
  .object [("name", .text s.name), ("profile", .text s.profile),
    ("image", (s.image.map Reference.toJson).getD .null),
    ("ssh_keys", .array (s.sshKeys.map Reference.toJson)), ("network", s.network.toJson),
    ("zone", .ofOption s.zone), ("namespace", .text s.secretNamespace),
    ("bootstrap_data_secret", .ofOption s.bootstrapSecret)]

end MachineSpec

/-- What is recorded about a machine so far. -/
structure MachineStatus where
  instanceId : Option String
  addresses : List String
  providerId : Option String
  deriving DecidableEq, Repr

namespace MachineStatus

def check : Check MachineStatus :=
  Check.model "MachineStatus" fun given ↦
    MachineStatus.mk <$> optional given "instance_id" none textOrNull
      <*> optional given "addresses" [] (Check.list Schema.text)
      <*> optional given "provider_id" none textOrNull

def toJson (s : MachineStatus) : Json :=
  .object [("instance_id", .ofOption s.instanceId), ("addresses", .array (s.addresses.map .text)),
    ("provider_id", .ofOption s.providerId)]

end MachineStatus

inductive Phase where
  | notCreated
  | creating
  | provisioned
  | deleting
  | deleted
  deriving DecidableEq, Repr

namespace Phase

def text : Phase → String
  | .notCreated => "not_created"
  | .creating => "creating"
  | .provisioned => "provisioned"
  | .deleting => "deleting"
  | .deleted => "deleted"

/-- The phase of a machine by what is recorded about it and by the instance that was found. -/
def of (status : MachineStatus) : Option Instance → Phase
  | none => if (filled status.instanceId).isSome then .deleted else .notCreated
  | some found =>
    if found.status = some "deleting" then .deleting
    else if found.status = some "pending" ∨ found.status = some "starting" then .creating
    else .provisioned

end Phase

end VpcMachines
