import VpcMachines.Reference.Basic

/-!
# Settings

What applies to all machines of a cluster.
-/

namespace VpcMachines

open Schema (Check Verdict optional)

/-- Layouts of provider IDs. Only the second, which holds the account, is still in use. -/
inductive ProviderIdLayout where
  | v1
  | v2
  deriving DecidableEq, Repr

namespace ProviderIdLayout

def text : ProviderIdLayout → String
  | .v1 => "v1"
  | .v2 => "v2"

def check : Check ProviderIdLayout := fun d ↦
  match Schema.text d with
  | .accepted "v1" => .accepted .v1
  | .accepted "v2" => .accepted .v2
  | _ => .refuse (.notChoice "'v1' or 'v2'")

end ProviderIdLayout

structure Settings where
  providerIdLayout : ProviderIdLayout
  apiServerPort : Int
  region : String
  apiVersion : String
  accountId : Option String
  deriving DecidableEq, Repr

namespace Settings

def default : Settings := ⟨.v2, 6443, "us-south", "2024-04-30", none⟩

def check : Check Settings :=
  Check.model "OrchestratorConfig" fun given ↦
    Settings.mk
      <$> optional given "provider_id_format" default.providerIdLayout ProviderIdLayout.check
      <*> optional given "api_server_port" default.apiServerPort (Schema.integerBetween 1 65535)
      <*> optional given "region" default.region Schema.text
      <*> optional given "api_version" default.apiVersion Schema.text
      <*> optional given "account_id" default.accountId textOrNull

def toJson (s : Settings) : Json :=
  .object [("provider_id_format", .text s.providerIdLayout.text),
    ("api_server_port", .int s.apiServerPort), ("region", .text s.region),
    ("api_version", .text s.apiVersion), ("account_id", .ofOption s.accountId)]

end Settings

end VpcMachines
