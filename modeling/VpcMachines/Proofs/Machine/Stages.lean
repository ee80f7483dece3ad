import VpcMachines.Proofs.Listing.Search
import VpcMachines.Proofs.Quiet

/-!
# The stages of creating a machine

A machine is created in stages: the search for an instance of its name, the bootstrap data, the
references, and the request. Each stage can end the operation. `createRun_of_runs` says that there are no
other runs, and the lemmas on the stages say what was obtained when one ends with a value.
-/

namespace VpcMachines

open Program

variable {α : Type} {pages : Nat} {t : List (Event Cloud)} {network : Option NetworkStatus}

namespace Reference

variable {kind : ResourceKind}

/-- Every reference of a list was resolved, one after the other. -/
inductive ResolvedEach (pages : Nat) (kind : ResourceKind) (network : Option NetworkStatus) :
    List Reference → List (Event Cloud) → List String → Prop where
  | nil : ResolvedEach pages kind network [] [] []
  | cons {r : Reference} {refs : List Reference} {t rest : List (Event Cloud)} {id : String}
      {ids : List String} (first : (resolve pages (some r) kind network).Runs t (.returned id))
      (others : ResolvedEach pages kind network refs rest ids) :
      ResolvedEach pages kind network (r :: refs) (t ++ rest) (id :: ids)

theorem resolvedEach_of_runs {refs : List Reference} {ids : List String}
    (h : (resolveAll pages kind network refs).Runs t (.returned ids)) :
    ResolvedEach pages kind network refs t ids := by
  induction refs generalizing t ids with
  | nil =>
    obtain ⟨rfl, ho⟩ := runs_done_iff.mp h
    cases ho
    exact .nil
  | cons r refs ih =>
    obtain ⟨t₁, id, t₂, rfl, hfirst, h⟩ := runs_bind_returned_iff.mp h
    obtain ⟨t₂, others, t₃, rfl, hothers, h⟩ := runs_bind_returned_iff.mp h
    obtain ⟨rfl, ho⟩ := runs_done_iff.mp h
    cases ho
    rw [List.append_nil]
    exact .cons hfirst (ih hothers)

end Reference

namespace Machine

variable {spec : MachineSpec}

/-! ## What is obtained in each stage -/

/-- The listing was fetched to its end, and no instance in it has the name. -/
def NameFree (name : String) (t : List (Event Cloud)) : Prop :=
  ∃ items, Walk.Complete (Cloud.listInstances (some name)) none t items ∧
    ∀ i ∈ items, i.name ≠ name

/-- The secret was read, with the key under which the text stands in it. -/
def BootstrapObtained (spec : MachineSpec) (t : List (Event (Cloud.sum Local))) (text : String) :
    Prop :=
  ∃ (name : String) (secret : Secret) (key : String) (value : SecretValue),
    filled spec.bootstrapSecret = some name ∧ secret.value? key = some value ∧
    value.asText = .ok text ∧
    t = [⟨.inr (.secret spec.secretNamespace name), .ok secret⟩, ⟨.inr .dataKey, .ok key⟩]

/-- The image, all keys, the subnet and all security groups were resolved, and the request is made up
of them. -/
def ReferencesObtained (pages : Nat) (spec : MachineSpec) (network : Option NetworkStatus)
    (t : List (Event Cloud)) (text : String) (request : Prototype) : Prop :=
  ∃ (image keys subnet groups : List (Event Cloud)) (imageId : String) (keyIds : List String)
    (subnetId : String) (groupIds : List String),
    (Reference.resolve pages spec.image .image none).Runs image (.returned imageId) ∧
    Reference.ResolvedEach pages .sshKey none spec.sshKeys keys keyIds ∧
    (Reference.resolve pages (some spec.network.subnet) .subnet network).Runs subnet
      (.returned subnetId) ∧
    Reference.ResolvedEach pages .securityGroup network spec.network.securityGroups groups
      groupIds ∧
    t = image ++ (keys ++ (subnet ++ groups)) ∧
    request = {
      name := spec.name
      profile := spec.profile
      imageId := imageId
      keyIds := keyIds
      subnetId := some subnetId
      securityGroupIds := groupIds
      zone := spec.zone
      vpcId := network.bind NetworkStatus.vpcId
      resourceGroupId := network.bind NetworkStatus.resourceGroupId
      userData := some text }

/-- What precedes a request for an instance: all that it needs, obtained in this order. -/
def Prepared (pages : Nat) (spec : MachineSpec) (network : Option NetworkStatus)
    (t : List (Event (Cloud.sum Local))) (request : Prototype) : Prop :=
  spec.profile ≠ "" ∧
  ∃ (listing : List (Event Cloud)) (bootstrap : List (Event (Cloud.sum Local)))
    (references : List (Event Cloud)) (text : String),
    NameFree spec.name listing ∧ BootstrapObtained spec bootstrap text ∧
    ReferencesObtained pages spec network references text request ∧
    t = listing.map Event.beside ++ (bootstrap ++ references.map Event.beside)

theorem nameFree_of_runs {name : String}
    (h : (findInstance pages name).Runs t (.returned none)) : NameFree name t := by
  have hfind := runs_mapFault_returned_iff.mp h
  obtain ⟨items, hcomplete, hnone⟩ := (Walk.findRun_of_runs hfind).complete
  refine ⟨items, hcomplete, ?_⟩
  intro i hi
  have hname : (i.name == name) = false := hnone i hi
  exact ne_of_beq_false hname

theorem bootstrapObtained_of_runs {t : List (Event (Cloud.sum Local))} {text : String}
    (h : (bootstrapData spec).Runs t (.returned text)) : BootstrapObtained spec t text := by
  unfold bootstrapData at h
  cases hname : filled spec.bootstrapSecret with
  | none => simp [hname] at h
  | some name =>
    simp only [hname] at h
    obtain ⟨t₁, secret, t₂, rfl, hsecret, hrest⟩ := runs_bind_returned_iff.mp h
    cases runs_request_returned_iff.mp (runs_mapFault_returned_iff.mp hsecret)
    obtain ⟨t₃, key, t₄, rfl, hkey, hread⟩ := runs_bind_returned_iff.mp hrest
    cases runs_request_returned_iff.mp hkey
    cases hvalue : secret.value? key with
    | none => simp [hvalue] at hread
    | some value =>
      cases htext : value.asText with
      | error fault => simp [hvalue, htext] at hread
      | ok found =>
        simp only [hvalue, htext] at hread
        obtain ⟨rfl, ho⟩ := runs_done_iff.mp hread
        cases ho
        exact ⟨name, secret, key, value, hname, hvalue, htext, rfl⟩

theorem referencesObtained_of_runs {text : String} {request : Prototype}
    (h : (prototype pages spec network text).Runs t (.returned request)) :
    ReferencesObtained pages spec network t text request := by
  obtain ⟨image, imageId, t₁, rfl, himage, h⟩ := runs_bind_returned_iff.mp h
  obtain ⟨keys, keyIds, t₂, rfl, hkeys, h⟩ := runs_bind_returned_iff.mp h
  obtain ⟨subnet, subnetId, t₃, rfl, hsubnet, h⟩ := runs_bind_returned_iff.mp h
  obtain ⟨groups, groupIds, t₄, rfl, hgroups, h⟩ := runs_bind_returned_iff.mp h
  obtain ⟨rfl, ho⟩ := runs_done_iff.mp h
  cases ho
  rw [List.append_nil]
  exact ⟨image, keys, subnet, groups, imageId, keyIds, subnetId, groupIds, himage,
    Reference.resolvedEach_of_runs hkeys, hsubnet, Reference.resolvedEach_of_runs hgroups, rfl, rfl⟩

/-! ## The runs of the operations -/

/-- The runs of `create`, by the stage that ends it. -/
inductive CreateRun (pages : Nat) (spec : MachineSpec) (network : Option NetworkStatus) :
    List (Event (Cloud.sum Local)) → Outcome (Option Instance) → Prop where
  | searchAborted {listing : List (Event Cloud)} {abort : Option Fault}
      (search : (findInstance pages spec.name).Runs listing (.aborted abort)) :
      CreateRun pages spec network (listing.map Event.beside) (.aborted abort)
  | existing {listing : List (Event Cloud)} {i : Instance}
      (search : (findInstance pages spec.name).Runs listing (.returned (some i))) :
      CreateRun pages spec network (listing.map Event.beside) (.returned (some i))
  | noProfile {listing : List (Event Cloud)}
      (search : (findInstance pages spec.name).Runs listing (.returned none))
      (hprofile : spec.profile = "") :
      CreateRun pages spec network (listing.map Event.beside) (.failed (.noProfile spec.name))
  | bootstrapAborted {listing : List (Event Cloud)} {bootstrap : List (Event (Cloud.sum Local))}
      {abort : Option Fault}
      (search : (findInstance pages spec.name).Runs listing (.returned none))
      (hbootstrap : (bootstrapData spec).Runs bootstrap (.aborted abort)) :
      CreateRun pages spec network (listing.map Event.beside ++ bootstrap) (.aborted abort)
  | referencesAborted {listing references : List (Event Cloud)}
      {bootstrap : List (Event (Cloud.sum Local))} {text : String} {abort : Option Fault}
      (search : (findInstance pages spec.name).Runs listing (.returned none))
      (hbootstrap : (bootstrapData spec).Runs bootstrap (.returned text))
      (hreferences : (prototype pages spec network text).Runs references (.aborted abort)) :
      CreateRun pages spec network
        (listing.map Event.beside ++ (bootstrap ++ references.map Event.beside)) (.aborted abort)
  | requested {listing references : List (Event Cloud)}
      {bootstrap : List (Event (Cloud.sum Local))} {text : String} {request : Prototype}
      (search : (findInstance pages spec.name).Runs listing (.returned none))
      (hprofile : spec.profile ≠ "")
      (hbootstrap : (bootstrapData spec).Runs bootstrap (.returned text))
      (hreferences : (prototype pages spec network text).Runs references (.returned request))
      (answer : Except Fault (Option Instance)) :
      CreateRun pages spec network
        (listing.map Event.beside ++ (bootstrap ++ references.map Event.beside) ++
          [⟨.inl (.createInstance request), answer⟩])
        (.ofAnswer s!"creating instance {request.name}" answer)

variable {t : List (Event (Cloud.sum Local))}

theorem runs_beside_bind_cases {p : Program Cloud α} {β : Type} {f : α → Action β}
    {o : Outcome β} (h : (p.beside >>= f).Runs t o) :
    (∃ abort u, o = .aborted abort ∧ t = u.map Event.beside ∧ p.Runs u (.aborted abort)) ∨
      ∃ u a rest, t = u.map Event.beside ++ rest ∧ p.Runs u (.returned a) ∧ (f a).Runs rest o := by
  rcases runs_bind_iff.mp h with ⟨t₁, a, rest, rfl, hp, hrest⟩ | ⟨abort, rfl, hp⟩
  · obtain ⟨u, rfl, hu⟩ := runs_beside_iff.mp hp
    exact .inr ⟨u, a, rest, rfl, hu, hrest⟩
  · obtain ⟨u, rfl, hu⟩ := runs_beside_iff.mp hp
    exact .inl ⟨abort, u, rfl, rfl, hu⟩

/-- Creating a machine goes in one of the ways listed. -/
theorem createRun_of_runs {o : Outcome (Option Instance)}
    (h : (create pages spec network).Runs t o) : CreateRun pages spec network t o := by
  rcases runs_beside_bind_cases h with
    ⟨abort, listing, rfl, rfl, hsearch⟩ | ⟨listing, found, rest, rfl, hsearch, hrest⟩
  · exact .searchAborted hsearch
  cases found with
  | some i =>
    obtain ⟨rfl, rfl⟩ := runs_done_iff.mp hrest
    rw [List.append_nil]
    exact .existing hsearch
  | none =>
    by_cases hprofile : spec.profile = ""
    · simp only [hprofile, if_true] at hrest
      obtain ⟨rfl, rfl⟩ := runs_fail_iff.mp hrest
      rw [List.append_nil]
      exact .noProfile hsearch hprofile
    simp only [hprofile, if_false] at hrest
    rcases runs_bind_iff.mp hrest with
      ⟨bootstrap, text, rest, rfl, hbootstrap, hrest⟩ | ⟨abort, rfl, hbootstrap⟩
    · rcases runs_beside_bind_cases hrest with
        ⟨abort, references, rfl, rfl, hreferences⟩ |
          ⟨references, request, rest, rfl, hreferences, hrest⟩
      · exact .referencesAborted hsearch hbootstrap hreferences
      · obtain ⟨last, rfl, hlast⟩ := runs_beside_iff.mp hrest
        obtain ⟨answer, rfl, rfl⟩ := runs_described_request_iff.mp hlast
        rw [← List.append_assoc bootstrap, ← List.append_assoc (listing.map Event.beside)]
        exact .requested hsearch hprofile hbootstrap hreferences answer
    · exact .bootstrapAborted hsearch hbootstrap

/-- Creating a machine changes nothing, or requests an instance at last, behind all preparations. -/
theorem CreateRun.quiet_or_requested {o : Outcome (Option Instance)}
    (h : CreateRun pages spec network t o) :
    (∀ e ∈ t, isChange e.1 = false) ∨
      ∃ (before : List (Event (Cloud.sum Local))) (request : Prototype)
        (answer : Except Fault (Option Instance)),
        (∀ e ∈ before, isChange e.1 = false) ∧ Prepared pages spec network before request ∧
        t = before ++ [⟨.inl (.createInstance request), answer⟩] ∧
        o = .ofAnswer s!"creating instance {request.name}" answer := by
  have hlisting {listing : List (Event Cloud)} {found : Outcome (Option Instance)}
      (search : (findInstance pages spec.name).Runs listing found) :=
    quiet_map_beside (quiet_findInstance pages spec.name) search
  cases h with
  | searchAborted search => exact .inl (hlisting search)
  | existing search => exact .inl (hlisting search)
  | noProfile search hprofile => exact .inl (hlisting search)
  | bootstrapAborted search hbootstrap =>
    left
    have hread := (quiet_bootstrapData spec).of_mem_run hbootstrap
    exact List.forall_mem_append.mpr ⟨hlisting search, hread⟩
  | referencesAborted search hbootstrap hreferences =>
    left
    have hread := (quiet_bootstrapData spec).of_mem_run hbootstrap
    have hresolved := quiet_map_beside (quiet_prototype _) hreferences
    exact List.forall_mem_append.mpr ⟨hlisting search, List.forall_mem_append.mpr ⟨hread, hresolved⟩⟩
  | requested search hprofile hbootstrap hreferences answer =>
    right
    have hread := (quiet_bootstrapData spec).of_mem_run hbootstrap
    have hresolved := quiet_map_beside (quiet_prototype _) hreferences
    refine ⟨_, _, answer, ?_, ?_, rfl, rfl⟩
    · exact List.forall_mem_append.mpr
        ⟨hlisting search, List.forall_mem_append.mpr ⟨hread, hresolved⟩⟩
    · exact ⟨hprofile, _, _, _, _, nameFree_of_runs search, bootstrapObtained_of_runs hbootstrap,
        referencesObtained_of_runs hreferences, rfl⟩

/-- The runs of `delete`. -/
inductive DeleteRun (status : MachineStatus) : List (Event Cloud) → Outcome Unit → Prop where
  | noInstance (hid : filled status.instanceId = none) : DeleteRun status [] (.returned ())
  | requested {id : String} (hid : filled status.instanceId = some id)
      (answer : Except Fault Unit) :
      DeleteRun status [⟨.deleteInstance id, answer⟩] (.ofAnswer s!"deleting instance {id}" answer)

theorem deleteRun_of_runs {status : MachineStatus} {t : List (Event Cloud)} {o : Outcome Unit}
    (h : (delete status).Runs t o) : DeleteRun status t o := by
  unfold delete at h
  cases hid : filled status.instanceId with
  | none =>
    simp only [hid] at h
    obtain ⟨rfl, rfl⟩ := runs_done_iff.mp h
    exact .noInstance hid
  | some id =>
    simp only [hid] at h
    obtain ⟨answer, rfl, rfl⟩ := runs_described_request_iff.mp h
    exact .requested hid answer

end Machine

end VpcMachines
