import Mathlib.Data.List.Basic
import VpcMachines.Proofs.Machine.World

/-!
# A network status that is faithful to the cloud

A network status is faithful if each of its entries has the ID that the cloud gives for the name. With
such a status, references denote what they denote without one. This needs references to security groups
to be coherent, since the status is asked before an explicit ID. Creating a machine then submits the same
request, and for what the status knows, the cloud is not called.
-/

namespace VpcMachines

open Program

variable {k : Catalog} {status : NetworkStatus} {kind : ResourceKind} {r : Reference}
  {id name : String}

namespace NetworkStatus

/-- The status without its subnets and security groups. -/
def bare (status : NetworkStatus) : NetworkStatus :=
  { status with subnets := [], securityGroups := [] }

/-- The entry for the name of a subnet or a security group. -/
def entry? (status : NetworkStatus) (kind : ResourceKind) (name : String) : Option ResourceStatus :=
  match kind with
  | .subnet => status.subnets.lookup name
  | .securityGroup => status.securityGroups.lookup name
  | .image => none
  | .sshKey => none

/-- Every entry has an ID, which is the one that the cloud gives for the name. -/
def Faithful (status : NetworkStatus) (k : Catalog) : Prop :=
  ∀ kind name entry, status.entry? kind name = some entry →
    entry.id ≠ "" ∧ (k.named kind name).map NamedResource.id = some entry.id

end NetworkStatus

namespace Reference

/-- If the reference has both an ID and a name, they denote one group, which exists. -/
def Coherent (k : Catalog) (r : Reference) : Prop :=
  ∀ id name, filled r.id = some id → filled r.name = some name →
    ∃ g, k.group id = some g ∧ k.groupNamed name = some g

theorem known_eq_entry (hname : filled r.name = some name) :
    r.known kind (some status) = filled ((status.entry? kind name).map ResourceStatus.id) := by
  cases kind with
  | image => rfl
  | sshKey => rfl
  | subnet => simp [known, NetworkStatus.subnetId, NetworkStatus.idIn, NetworkStatus.entry?, hname]
  | securityGroup =>
    simp [known, NetworkStatus.securityGroupId, NetworkStatus.idIn, NetworkStatus.entry?, hname]

theorem known_none : r.known kind none = none := by
  cases kind <;> rfl

theorem known_bare : r.known kind (some status.bare) = none := by
  cases hname : filled r.name with
  | none =>
    cases hknown : r.known kind (some status.bare) with
    | none => rfl
    | some id =>
      obtain ⟨name, hfilled⟩ := filled_name_of_known hknown
      rw [hname] at hfilled
      cases hfilled
  | some name =>
    rw [known_eq_entry hname]
    cases kind <;> rfl

/-- What a faithful status knows is what the cloud gives for the name. -/
theorem live_of_known (hfaithful : status.Faithful k) (hknown : r.known kind (some status) = some id) :
    k.live kind r = some id := by
  obtain ⟨name, hname⟩ := filled_name_of_known hknown
  rw [known_eq_entry hname] at hknown
  obtain ⟨hid, _⟩ := Option.filter_eq_some_iff.mp hknown
  obtain ⟨entry, hentry, rfl⟩ := Option.map_eq_some_iff.mp hid
  rw [Catalog.live, hname, Option.bind_some]
  exact (hfaithful kind name entry hentry).2

end Reference

namespace Catalog

/-- An unknown name is resolved as if there were no status. -/
theorem idOf_of_unknown (h : r.known kind (some status) = none) :
    k.idOf kind (some status) r = k.idOf kind none r := by
  cases kind <;> simp only [idOf, h, Reference.known_none]

theorem idOf_faithful (hfaithful : status.Faithful k)
    (hcoherent : kind = .securityGroup → r.Coherent k) :
    k.idOf kind (some status) r = k.idOf kind none r := by
  cases hknown : r.known kind (some status) with
  | none => exact idOf_of_unknown hknown
  | some known =>
    have hlive := Reference.live_of_known hfaithful hknown
    cases hid : filled r.id with
    | none =>
      rw [idOf_of_known hknown (.inr hid), idOf_eq_live hid Reference.known_none, hlive]
    | some id =>
      by_cases hkind : kind = .securityGroup
      · subst hkind
        obtain ⟨name, hname⟩ := Reference.filled_name_of_known hknown
        obtain ⟨g, hgroup, hnamed⟩ := hcoherent rfl id name hid hname
        have hsame : k.live .securityGroup r = some g.id := by
          rw [live, hname, Option.bind_some, named, hnamed, Option.map_some]
        rw [idOf_of_known hknown (.inl rfl), idOf_group hid Reference.known_none, hgroup,
          Option.map_some, ← hsame, hlive]
      · rw [idOf_of_explicit hid hkind, idOf_of_explicit hid hkind]

theorem denotation_faithful (hfaithful : status.Faithful k) {r : Option Reference}
    (hcoherent : kind = .securityGroup → ∀ set, r = some set → set.Coherent k) :
    k.denotation kind (some status) r = k.denotation kind none r := by
  cases r with
  | none => rfl
  | some r => exact idOf_faithful hfaithful fun hkind ↦ hcoherent hkind r rfl

theorem denotation_bare {r : Option Reference} :
    k.denotation kind (some status.bare) r = k.denotation kind none r := by
  cases r with
  | none => rfl
  | some r => exact idOf_of_unknown Reference.known_bare

variable {network network' : Option NetworkStatus} {spec : MachineSpec}

/-- What a request has for references depends on what they denote only. -/
theorem request_congr (text : String)
    (hrefs : ∀ p ∈ spec.references, k.denotation p.1 network p.2 = k.denotation p.1 network' p.2)
    (hvpc : network.bind NetworkStatus.vpcId = network'.bind NetworkStatus.vpcId)
    (hgroup : network.bind NetworkStatus.resourceGroupId =
      network'.bind NetworkStatus.resourceGroupId) :
    k.request spec network text = k.request spec network' text := by
  have hids {kind : ResourceKind} {r : Option Reference} (hr : (kind, r) ∈ spec.references) :
      k.idFor kind network r = k.idFor kind network' r :=
    congrArg (Option.getD · "") (hrefs _ hr)
  have himage := hids MachineSpec.image_mem_references
  have hkeys := List.map_congr_left fun r hr ↦ hids (MachineSpec.key_mem_references (r := r) hr)
  have hsubnet := hids MachineSpec.subnet_mem_references
  have hgroups := List.map_congr_left fun r hr ↦ hids (MachineSpec.group_mem_references (r := r) hr)
  rw [request, request, himage, hkeys, hsubnet, hgroups, hvpc, hgroup]

end Catalog

theorem World.obstacles_congr {w : World} {network network' : Option NetworkStatus}
    {spec : MachineSpec} (hrefs : ∀ p ∈ spec.references,
      w.catalog.denotation p.1 network p.2 = w.catalog.denotation p.1 network' p.2) :
    w.obstacles spec network = w.obstacles spec network' := by
  have hflaws : spec.references.flatMap (w.catalog.flaws network) =
      spec.references.flatMap (w.catalog.flaws network') := by
    refine List.flatMap_congr fun p hp ↦ ?_
    simp only [Catalog.flaws, hrefs p hp]
  rw [obstacles, obstacles, hflaws]

/-- What a status has an entry for is resolved to this entry without a call. -/
theorem Reference.resolve_yields_entry {right : Event Cloud → Prop} {pages : Nat}
    {entry : ResourceStatus} (hname : filled r.name = some name)
    (hkind : kind = .securityGroup ∨ filled r.id = none)
    (hentry : status.entry? kind name = some entry) (hid : entry.id ≠ "") :
    (resolve pages (some r) kind (some status)).Yields right [] (.returned entry.id) := by
  have hknown : r.known kind (some status) = some entry.id := by
    simp [known_eq_entry hname, hentry, filled, hid]
  exact resolve_known hknown hkind

open Machine in
/-- With a faithful status, resolving ends as without one, what the status has an entry for is resolved
without a call, and creating a machine requests the same as with a status without entries. -/
theorem faithful_status_agrees {σ τ : Type} (cloud : Handler Cloud σ) (s : σ)
    (all : Handler (Cloud.sum Local) τ) (s' : τ) (w : World) (pages : Nat) (status : NetworkStatus)
    (hcloud : ∀ c s, w.catalog.Tells ⟨c, (cloud.answer c s).1⟩)
    (hworld : ∀ c s, w.Tells ⟨c, (all.answer c s).1⟩) (hpages : w.catalog.FitsIn pages)
    (hfaithful : status.Faithful w.catalog) :
    (∀ (kind : ResourceKind) (r : Option Reference),
      (kind = .securityGroup → ∀ set, r = some set → set.Coherent w.catalog) →
      ((Reference.resolve pages r kind (some status)).run cloud s).1 =
        ((Reference.resolve pages r kind none).run cloud s).1) ∧
    (∀ (kind : ResourceKind) (r : Reference) (name : String) (entry : ResourceStatus),
      filled r.name = some name → kind = .securityGroup ∨ filled r.id = none →
      status.entry? kind name = some entry →
      (Reference.resolve pages (some r) kind (some status)).trace cloud s = [] ∧
        ((Reference.resolve pages (some r) kind (some status)).run cloud s).1 =
          .returned entry.id) ∧
    ∀ spec : MachineSpec, w.FitsIn spec pages →
      (∀ r ∈ spec.network.securityGroups, r.Coherent w.catalog) →
      ∀ request,
        (∃ answer, ⟨.inl (.createInstance request), answer⟩ ∈
            (create pages spec (some status)).trace all s') ↔
          ∃ answer, ⟨.inl (.createInstance request), answer⟩ ∈
            (create pages spec (some status.bare)).trace all s' := by
  refine ⟨?_, ?_, ?_⟩
  · intro kind r hcoherent
    have hend (network : Option NetworkStatus) :
        ((Reference.resolve pages r kind network).run cloud s).1 =
          Reference.ending kind r (w.catalog.denotation kind network r) :=
      (Reference.resolve_settles hpages r).run_eq hcloud s
    rw [hend (some status), hend none, Catalog.denotation_faithful hfaithful hcoherent]
  · intro kind r name entry hname hkind hentry
    obtain ⟨hid, _⟩ := hfaithful kind name entry hentry
    have hyields : Yields w.catalog.Tells
        (Reference.resolve pages (some r) kind (some status)) [] (.returned entry.id) :=
      Reference.resolve_yields_entry hname hkind hentry hid
    obtain ⟨hcalls, hend⟩ := hyields.goes hcloud s
    exact ⟨List.map_eq_nil_iff.mp hcalls, hend⟩
  · intro spec hfits hcoherent request
    have hend (network : Option NetworkStatus) :=
      createEnd_of_runs hfits (runs_trace all (create pages spec network) s')
        (forall_right_of_answers hworld _ s')
    have hrefs : ∀ p ∈ spec.references,
        w.catalog.denotation p.1 (some status) p.2 =
          w.catalog.denotation p.1 (some status.bare) p.2 := by
      rintro ⟨kind, set⟩ hp
      rw [Catalog.denotation_bare]
      apply Catalog.denotation_faithful hfaithful
      rintro rfl r rfl
      obtain ⟨group, hgroup, hsame⟩ := MachineSpec.exists_group_of_mem_references hp
      cases hsame
      exact hcoherent r hgroup
    rw [(hend (some status)).requested_iff, (hend (some status.bare)).requested_iff,
      World.obstacles_congr hrefs]
    simp only [Catalog.request_congr _ hrefs rfl rfl]

open Machine in
/-- The one subnet of a world is found in the network status as in the cloud. -/
theorem faithful_status_agrees_on_subnet :
    let status : NetworkStatus := ⟨none, none, [("subnet", ⟨"subnet-1", none, true⟩)], []⟩
    let all := smallWorld.collaborators fun _ ↦ .ok none
    let cloud : Handler Cloud Unit := ⟨fun c s ↦ all.answer (.inl c) s⟩
    let resolve := Reference.resolve 3 (some ⟨none, some "subnet"⟩) .subnet
    (∀ c s, smallWorld.catalog.Tells ⟨c, (cloud.answer c s).1⟩) ∧
    (∀ c s, smallWorld.Tells ⟨c, (all.answer c s).1⟩) ∧ smallWorld.catalog.FitsIn 3 ∧
    status.Faithful smallWorld.catalog ∧ (resolve (some status)).trace cloud () = [] ∧
    ((resolve (some status)).run cloud ()).1 = ((resolve none).run cloud ()).1 := by
  intro status all cloud resolve
  have hworld : ∀ c s, smallWorld.Tells ⟨c, (all.answer c s).1⟩ :=
    smallWorld.tells_collaborators fun _ ↦ .ok none
  have hcloud : ∀ c s, smallWorld.catalog.Tells ⟨c, (cloud.answer c s).1⟩ :=
    fun c s ↦ hworld (.inl c) s
  have hpages : smallWorld.catalog.FitsIn 3 := ⟨by decide, by decide⟩
  have hfaithful : status.Faithful smallWorld.catalog := by
    intro kind name entry hentry
    cases kind with
    | subnet =>
      change List.lookup name [("subnet", _)] = some entry at hentry
      by_cases hname : name = "subnet"
      · subst hname
        cases hentry
        exact ⟨by decide, by decide⟩
      · rw [List.lookup_cons, beq_eq_false_iff_ne.mpr hname] at hentry
        cases hentry
    | _ => cases hentry
  obtain ⟨hsame, hknown, _⟩ :=
    faithful_status_agrees cloud () all () smallWorld 3 status hcloud hworld hpages hfaithful
  obtain ⟨hcalls, _⟩ := hknown .subnet ⟨none, some "subnet"⟩ "subnet" ⟨"subnet-1", none, true⟩
    (by decide) (.inr rfl) (by decide)
  exact ⟨hcloud, hworld, hpages, hfaithful, hcalls, hsame .subnet _ nofun⟩

end VpcMachines
