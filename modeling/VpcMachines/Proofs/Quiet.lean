import VpcMachines.Machine.Lifecycle
import VpcMachines.Proofs.Trace

/-!
# Programs that change nothing

Searches, lookups and the resolution of references only ask the cloud, whatever it answers. Bootstrap
data are read without any call to it.
-/

namespace VpcMachines

open Program

variable {α : Type} {pages : Nat}

/-- Calls that change something in the cloud. Those to what is at hand do not. -/
def Machine.isChange : (Cloud.sum Local).Call → Bool
  | .inl c => c.isMutating
  | .inr _ => false

/-- Programs that change nothing in the cloud. -/
abbrev Program.Quiet (p : Program Cloud α) : Prop :=
  p.CallsOnly fun c : CloudCall ↦ c.isMutating = false

theorem quiet_request {c : CloudCall} (hc : c.isMutating = false) :
    Quiet (α := c.Reply) (request (I := Cloud) c) :=
  callsOnly_request (I := Cloud) hc

namespace Walk

variable {I : Interface} {fetch : Fetch I α} {test : I.Call → Prop}

theorem callsOnly_fetchPage (hfetch : ∀ cursor, (fetch cursor).CallsOnly test)
    (cursor : Option String) (seen : List String) :
    (fetchPage fetch cursor seen).CallsOnly test :=
  ((hfetch cursor).mapFault _).bind fun _ ↦ callsOnly_pure _

theorem callsOnly_next (hfetch : ∀ cursor, (fetch cursor).CallsOnly test) (walk : Walk) :
    (walk.next fetch).CallsOnly test := by
  cases walk with
  | start => exact callsOnly_fetchPage hfetch none []
  | behind cursor seen =>
    simp only [next]
    split
    · exact callsOnly_pure _
    · split
      · exact callsOnly_fail _
      · exact callsOnly_fetchPage hfetch _ _
  | ended => exact callsOnly_pure _

/-- A search makes no other calls than those that fetch the pages. -/
theorem callsOnly_find (hfetch : ∀ cursor, (fetch cursor).CallsOnly test) (sought : α → Bool)
    (limit : Nat) (walk : Walk) : (find fetch sought limit walk).CallsOnly test := by
  induction limit generalizing walk with
  | zero => exact callsOnly_exhausted
  | succ limit ih =>
    refine (callsOnly_next hfetch walk).bind fun step ↦ ?_
    obtain ⟨found, behind⟩ := step
    cases found with
    | none => exact callsOnly_pure _
    | some page =>
      simp only
      split
      · exact callsOnly_pure _
      · exact ih behind

end Walk

namespace Reference

variable {kind : ResourceKind} {network : Option NetworkStatus}

theorem quiet_found (sought : String) (record : Option NamedResource) :
    (found kind sought record).Quiet := by
  cases record <;> trivial

theorem quiet_search {fetch : Walk.Fetch Cloud NamedResource}
    (hfetch : ∀ cursor, (fetch cursor).Quiet) (name : String) :
    (search pages kind fetch name).Quiet := by
  have hfind : (findNamed fetch name pages).Quiet := Walk.callsOnly_find hfetch _ _ _
  exact (hfind.mapFault _).bind (quiet_found name)

theorem quiet_resolveSecurityGroup (r : Reference) :
    (r.resolveSecurityGroup network).Quiet := by
  unfold resolveSecurityGroup
  split
  · exact callsOnly_pure _
  · split
    · exact CallsOnly.bind (callsOnly_described_request rfl) (quiet_found _)
    · exact CallsOnly.bind (callsOnly_described_request rfl) (quiet_found _)

theorem quiet_resolveSet (r : Reference) : (r.resolveSet pages kind network).Quiet := by
  cases kind with
  | securityGroup => exact quiet_resolveSecurityGroup r
  | subnet =>
    unfold resolveSet
    simp only
    split
    · exact callsOnly_pure _
    · split
      · exact callsOnly_pure _
      · exact CallsOnly.bind (callsOnly_described_request rfl) (quiet_found _)
  | image =>
    unfold resolveSet
    simp only
    split
    · exact callsOnly_pure _
    · exact quiet_search (fun cursor ↦ quiet_request (c := .listImages cursor) rfl) _
  | sshKey =>
    unfold resolveSet
    simp only
    split
    · exact callsOnly_pure _
    · exact quiet_search (fun cursor ↦ quiet_request (c := .listKeys cursor) rfl) _

/-- Resolving a reference changes nothing. -/
theorem quiet_resolve (r : Option Reference) : (resolve pages r kind network).Quiet := by
  cases r with
  | none => exact callsOnly_fail _
  | some r =>
    unfold resolve
    simp only
    split
    · exact quiet_resolveSet r
    · exact callsOnly_fail _

theorem quiet_resolveAll (refs : List Reference) :
    (resolveAll pages kind network refs).Quiet := by
  induction refs with
  | nil => exact callsOnly_pure _
  | cons r rest ih =>
    exact (quiet_resolve (some r)).bind fun _ ↦ ih.bind fun _ ↦ callsOnly_pure _

end Reference

namespace Machine

variable {spec : MachineSpec} {network : Option NetworkStatus}

theorem quiet_findInstance (pages : Nat) (name : String) : (findInstance pages name).Quiet := by
  have hfind : Quiet
      (Walk.find (Cloud.listInstances (some name)) (fun i ↦ i.name == name) pages .start) :=
    Walk.callsOnly_find (fun cursor ↦ quiet_request (c := .listInstances (some name) cursor) rfl)
      _ _ _
  exact hfind.mapFault _

theorem quiet_prototype (text : String) : (prototype pages spec network text).Quiet :=
  (Reference.quiet_resolve _).bind fun _ ↦
    (Reference.quiet_resolveAll _).bind fun _ ↦
      (Reference.quiet_resolve _).bind fun _ ↦
        (Reference.quiet_resolveAll _).bind fun _ ↦ callsOnly_pure _

theorem quiet_bootstrapData (spec : MachineSpec) :
    (bootstrapData spec).CallsOnly fun c ↦ isChange c = false := by
  have hread (c : LocalCall) :
      (request (I := Cloud.sum Local) (.inr c)).CallsOnly fun c ↦ isChange c = false :=
    callsOnly_request rfl
  unfold bootstrapData
  split
  · exact callsOnly_fail _
  · refine CallsOnly.bind ((hread _).mapFault _) fun secret ↦ ?_
    refine CallsOnly.bind (hread .dataKey) fun key ↦ ?_
    split
    · exact callsOnly_fail _
    · split
      · exact callsOnly_pure _
      · exact callsOnly_fail _

/-- Next to what is at hand, a program that changes nothing still changes nothing. -/
theorem quiet_map_beside {p : Program Cloud α} (hp : p.Quiet) {u : List (Event Cloud)}
    {o : Outcome α} (h : p.Runs u o) :
    ∀ e ∈ (u.map Event.beside : List (Event (Cloud.sum Local))), isChange e.1 = false := by
  intro e he
  obtain ⟨inner, hinner, rfl⟩ := List.mem_map.mp he
  have hquiet := hp.of_mem_run h inner hinner
  exact hquiet

end Machine

end VpcMachines
