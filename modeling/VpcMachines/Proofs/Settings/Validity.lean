import VpcMachines.Proofs.Schema.Acceptance
import VpcMachines.Settings.Basic

/-!
# Valid settings

Data are accepted as settings only as a whole: each field is left out, and then it is at its default, or it
is valid and taken as given (`check_eq_accepted_iff`). The port of accepted settings is one.
-/

namespace VpcMachines.Settings

open Schema

/-- Every field of some settings is as given, or left out and at its default. -/
structure Reads (given : List (String × Datum)) (s : Settings) : Prop where
  providerIdLayout :
    Takes given "provider_id_format" ProviderIdLayout.check default.providerIdLayout
      s.providerIdLayout
  apiServerPort :
    Takes given "api_server_port" (integerBetween 1 65535) default.apiServerPort s.apiServerPort
  region : Takes given "region" text default.region s.region
  apiVersion : Takes given "api_version" text default.apiVersion s.apiVersion
  accountId : Takes given "account_id" textOrNull default.accountId s.accountId

variable {d : Datum} {s : Settings} {given : List (String × Datum)}

theorem check_eq_accepted_iff :
    check d = .accepted s ↔ ∃ given, d = .record given ∧ Reads given s := by
  have hfields (given : List (String × Datum)) :
      (Settings.mk
        <$> optional given "provider_id_format" default.providerIdLayout ProviderIdLayout.check
        <*> optional given "api_server_port" default.apiServerPort (integerBetween 1 65535)
        <*> optional given "region" default.region text
        <*> optional given "api_version" default.apiVersion text
        <*> optional given "account_id" default.accountId textOrNull) = .accepted s ↔
      Reads given s := by
    simp only [Verdict.seq_eq_accepted_iff, Verdict.map_eq_accepted_iff, optional_eq_accepted_iff]
    constructor
    · rintro ⟨_, _, ⟨_, _, ⟨_, _, ⟨_, _, ⟨_, hlayout, rfl⟩, hport, rfl⟩, hregion, rfl⟩, hversion,
        rfl⟩, haccount, rfl⟩
      exact ⟨hlayout, hport, hregion, hversion, haccount⟩
    · intro h
      exact ⟨_, _, ⟨_, _, ⟨_, _, ⟨_, _, ⟨_, h.providerIdLayout, rfl⟩, h.apiServerPort, rfl⟩,
        h.region, rfl⟩, h.apiVersion, rfl⟩, h.accountId, rfl⟩
  rw [check, model_eq_accepted_iff]
  simp only [hfields]

/-- The port is the one left out, or an integer in one of its spellings, and lies between the bounds. -/
theorem Reads.port_bounds (h : Reads given s) : 1 ≤ s.apiServerPort ∧ s.apiServerPort ≤ 65535 := by
  rcases h.apiServerPort with ⟨_, hdefault⟩ | ⟨d, _, haccepted⟩
  · rw [hdefault]
    decide
  · exact (integerBetween_eq_accepted_iff.mp haccepted).2

theorem port_bounds_of_check (h : check d = .accepted s) :
    1 ≤ s.apiServerPort ∧ s.apiServerPort ≤ 65535 := by
  obtain ⟨given, _, hreads⟩ := check_eq_accepted_iff.mp h
  exact hreads.port_bounds

end VpcMachines.Settings
