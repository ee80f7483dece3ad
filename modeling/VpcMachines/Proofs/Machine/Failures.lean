import VpcMachines.Proofs.Surfacing

/-!
# How creating a machine fails

Creating a machine gives an instance or a fault of the orchestrator's family, but for the two steps on the
way to the bootstrap text that nothing guards. Where the text is lacking, that is reported as such.
Whatever hinders the text, no instance is requested.
-/

namespace VpcMachines.Machine

open Program

variable {pages : Nat} {spec : MachineSpec} {network : Option NetworkStatus} {fault : Fault}
  {t : List (Event (Cloud.sum Local))}

/-- A search that finds nothing and a bootstrap text that cannot be had end a creation. -/
theorem runs_create_of_bootstrap_failed {listing : List (Event Cloud)}
    (search : (findInstance pages spec.name).Runs listing (.returned none))
    (hprofile : spec.profile ≠ "") (h : (bootstrapData spec).Runs t (.failed fault)) :
    (create pages spec network).Runs (listing.map Event.beside ++ t) (.failed fault) := by
  have haborted : (bootstrapData spec).Runs t (.aborted (some fault)) := h
  have hsearch : ((findInstance pages spec.name).beside : Action _).Runs
      (listing.map Event.beside) (.returned none) := runs_beside_iff.mpr ⟨listing, rfl, search⟩
  refine runs_bind_iff.mpr (.inl ⟨_, none, t, rfl, hsearch, ?_⟩)
  simp only [hprofile, if_false]
  exact runs_bind_aborted_iff.mpr (.inr haborted)

/-- What holds of the calls `t` and the end `o` of creating a machine. -/
structure CreateEnding (pages : Nat) (spec : MachineSpec) (t : List (Event (Cloud.sum Local)))
    (o : Outcome (Option Instance)) : Prop where
  /-- What is returned is an instance, unless the cloud gave no record of a new one. -/
  returned : o = .returned none → ∃ before request,
    t = before ++ [⟨.inl (.createInstance request), .ok none⟩]
  /-- A fault is one of the family, or it comes from an unguarded step towards the bootstrap text. -/
  failed : ∀ fault, o = .failed fault → fault.isOwn = true ∨
    ∃ listing bootstrap, NameFree spec.name listing ∧ BootstrapUnguarded spec bootstrap fault ∧
      t = listing.map Event.beside ++ bootstrap
  /-- Only the bound on the pages of a listing cuts a creation off. -/
  cutOff : o = .exhausted → pages ≤ t.length
  /-- Where the search finds nothing and the text is lacking, the creation ends with that, and no
  instance is requested. -/
  lacking : ∀ listing bootstrap rest fault,
    (findInstance pages spec.name).Runs listing (.returned none) → spec.profile ≠ "" →
    BootstrapLacking spec bootstrap fault → t = listing.map Event.beside ++ bootstrap ++ rest →
    rest = [] ∧ o = .failed fault ∧ fault.category = .bootstrap ∧ ∀ e ∈ t, isChange e.1 = false
  /-- Where an unguarded step fails, no instance is requested either. -/
  unguarded : ∀ listing bootstrap rest fault,
    (findInstance pages spec.name).Runs listing (.returned none) → spec.profile ≠ "" →
    BootstrapUnguarded spec bootstrap fault → t = listing.map Event.beside ++ bootstrap ++ rest →
    rest = [] ∧ o = .failed fault ∧ ∀ e ∈ t, isChange e.1 = false

theorem CreateRun.request_of_returned_none {o : Outcome (Option Instance)}
    (h : CreateRun pages spec network t o) (ho : o = .returned none) :
    ∃ before request, t = before ++ [⟨.inl (.createInstance request), .ok none⟩] := by
  cases h with
  | existing => cases ho
  | noProfile => cases ho
  | requested search hprofile hbootstrap hreferences answer =>
    cases Outcome.ofAnswer_eq_returned_iff.mp ho
    exact ⟨_, _, rfl⟩
  | _ => exact absurd ho (Outcome.aborted_ne_returned _ _)

theorem CreateRun.own_or_unguarded {o : Outcome (Option Instance)}
    (h : CreateRun pages spec network t o) (ho : o = .failed fault) :
    fault.isOwn = true ∨
      ∃ listing bootstrap, NameFree spec.name listing ∧ BootstrapUnguarded spec bootstrap fault ∧
        t = listing.map Event.beside ++ bootstrap := by
  have hsome {abort : Option Fault}
      (ho : (Outcome.aborted abort : Outcome (Option Instance)) = .failed fault) :
      abort = some fault := Outcome.aborted_inj.mp (ho.trans rfl)
  cases h with
  | searchAborted search =>
    cases hsome ho
    exact .inl ((isLookup_findInstance _).isOwn search)
  | existing => cases ho
  | noProfile =>
    cases ho
    exact .inl rfl
  | bootstrapAborted search hbootstrap =>
    cases hsome ho
    obtain ⟨_, hfault, hlacking | hunguarded⟩ := lacking_or_unguarded_of_runs hbootstrap
    · cases hfault
      left
      rw [Fault.isOwn, hlacking.category]
      rfl
    · cases hfault
      exact .inr ⟨_, _, nameFree_of_runs search, hunguarded, rfl⟩
  | referencesAborted search hbootstrap hreferences =>
    cases hsome ho
    exact .inl ((isLookup_prototype _).isOwn hreferences)
  | requested search hprofile hbootstrap hreferences answer =>
    obtain ⟨cause, _, rfl⟩ := Outcome.ofAnswer_eq_failed_iff.mp ho
    exact .inl Fault.isOwn_inCall

/-- What the bootstrap text fails with, a creation fails with, and it has changed nothing. -/
theorem create_stops_at_bootstrap {o : Outcome (Option Instance)} {listing : List (Event Cloud)}
    {bootstrap rest : List (Event (Cloud.sum Local))} (h : (create pages spec network).Runs t o)
    (search : (findInstance pages spec.name).Runs listing (.returned none))
    (hprofile : spec.profile ≠ "") (hfailed : (bootstrapData spec).Runs bootstrap (.failed fault))
    (ht : t = listing.map Event.beside ++ bootstrap ++ rest) :
    rest = [] ∧ o = .failed fault ∧ ∀ e ∈ t, isChange e.1 = false := by
  have hrun : (create pages spec network).Runs (listing.map Event.beside ++ bootstrap)
      (.failed fault) := runs_create_of_bootstrap_failed search hprofile hfailed
  have hprefix : listing.map Event.beside ++ bootstrap <+: t := ⟨rest, ht.symm⟩
  obtain ⟨hsame, rfl⟩ := eq_of_runs_of_prefix h hrun (List.prefix_refl t) hprefix
  rw [hsame] at ht
  refine ⟨List.self_eq_append_right.mp ht, rfl, ?_⟩
  rw [hsame]
  have hlisting := quiet_map_beside (quiet_findInstance pages spec.name) search
  have hread := (quiet_bootstrapData spec).of_mem_run hfailed
  exact List.forall_mem_append.mpr ⟨hlisting, hread⟩

/-- Creating a machine fails with faults of the family only, but for the unguarded steps towards the
bootstrap text, and requests no instance where the text cannot be had. -/
theorem creation_ends_own_or_unguarded {σ : Type} (all : Handler (Cloud.sum Local) σ) (s : σ)
    (pages : Nat) (spec : MachineSpec) (network : Option NetworkStatus) :
    let create := create pages spec network
    CreateEnding pages spec (create.trace all s) (create.run all s).1 := by
  have hrun := runs_trace all (create pages spec network) s
  have hends := createRun_of_runs hrun
  refine ⟨hends.request_of_returned_none, fun _ ↦ hends.own_or_unguarded, ?_, ?_, ?_⟩
  · intro ho
    rw [ho] at hrun
    exact (isTransparent_create pages spec network).limit_le hrun
  · intro listing bootstrap rest fault search hprofile hlacking ht
    have hfailed := runs_bootstrapData_of_lacking hlacking
    obtain ⟨hrest, ho, hquiet⟩ := create_stops_at_bootstrap hrun search hprofile hfailed ht
    exact ⟨hrest, ho, hlacking.category, hquiet⟩
  · intro listing bootstrap rest fault search hprofile hunguarded ht
    have hfailed := runs_bootstrapData_of_unguarded hunguarded
    exact create_stops_at_bootstrap hrun search hprofile hfailed ht

/-- A cloud without instances, next to a store whose one secret is a byte that is no text. -/
def byteStore : Handler (Cloud.sum Local) Unit where
  answer
    | .inl (.listInstances _ _), _ => (.ok ⟨[], none⟩, ())
    | .inl _, _ => (.error .unimplemented, ())
    | .inr (.secret _ _), _ => (.ok [("value", .bytes [0xff])], ())
    | .inr .dataKey, _ => (.ok "value", ())
    | .inr .account, _ => (.error .unimplemented, ())

/-- Bytes that are not UTF-8 end a creation with a fault from outside the family. -/
theorem creation_fails_on_bytes :
    let spec : MachineSpec :=
      { name := "machine", profile := "small", image := some ⟨some "image", none⟩, sshKeys := [],
        network := ⟨⟨some "subnet", none⟩, []⟩, zone := none, secretNamespace := "default",
        bootstrapSecret := some "bootstrap" }
    ∃ fault, ((create 2 spec none).run byteStore ()).1 = .failed fault ∧ fault.isOwn = false ∧
      fault.category = .unicode := by
  refine ⟨_, rfl, rfl, rfl⟩

end VpcMachines.Machine
