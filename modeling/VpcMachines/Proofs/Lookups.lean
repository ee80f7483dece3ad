import VpcMachines.Machine.Lifecycle
import VpcMachines.Proofs.Listing.Cursors
import VpcMachines.Proofs.Stopping

/-!
# How lookups end

Searches, lookups by name and the resolution of references go on as long as their calls are answered. A
run that ends without a value either had its last call fail, which is described once and no further call
is made, or all its calls were answered and there is a reason of its own: a listing repeated a cursor, a
reference is empty, or nothing was found. Only the bound on the pages of a listing can cut a run off.
-/

namespace VpcMachines

open Program

/-- How a call to the cloud is described where it fails. -/
def CloudCall.description : CloudCall → String
  | listInstances name _ =>
    let name := name.getD ""
    s!"listing instances named {name}"
  | createInstance request => s!"creating instance {request.name}"
  | getInstance id => s!"fetching instance {id}"
  | deleteInstance id => s!"deleting instance {id}"
  | listImages _ => "listing images"
  | listKeys _ => "listing ssh_keys"
  | getSubnetByName name => s!"looking up subnet {name}"
  | getSecurityGroupByName name => s!"looking up security group {name}"
  | getSecurityGroup id => s!"fetching security group {id}"
  | getLoadBalancer id => s!"fetching load balancer {id}"
  | listPoolMembers _ pool => s!"listing members of pool {pool}"
  | createPoolMember _ pool address port => s!"creating member {address}:{port} in pool {pool}"
  | deletePoolMember _ pool member => s!"deleting member {member} from pool {pool}"

/-- The calls for the pages of a listing that is walked through. -/
def CloudCall.isListing : CloudCall → Bool
  | listInstances _ _ | listImages _ | listKeys _ => true
  | _ => false

/-! ## The listings of the cloud -/

namespace Cloud

/-- The instances of a name. -/
def instancesNamed (name : String) : Listing Cloud Instance where
  call start := .listInstances (some name) start
  reply _ page := page

def images : Listing Cloud NamedResource where
  call start := .listImages start
  reply _ page := page

def keys : Listing Cloud NamedResource where
  call start := .listKeys start
  reply _ page := page

/-- One of the listings repeats a cursor. -/
def RepeatsCursor (t : List (Event Cloud)) (cursor : String) : Prop :=
  (∃ name, (instancesNamed name).Repeats t cursor) ∨ images.Repeats t cursor ∨
    keys.Repeats t cursor

theorem RepeatsCursor.behind {t : List (Event Cloud)} {cursor : String}
    (h : RepeatsCursor t cursor) (before : List (Event Cloud)) :
    RepeatsCursor (before ++ t) cursor := by
  rcases h with ⟨name, h⟩ | h | h
  · exact .inl ⟨name, h.behind before⟩
  · exact .inr (.inl (h.behind before))
  · exact .inr (.inr (h.behind before))

theorem instancesNamed_fetchedBy (name : String) :
    (instancesNamed name).FetchedBy (listInstances (some name)) := by
  intro start t o h
  obtain ⟨answer, rfl, rfl⟩ := runs_request_iff.mp h
  exact ⟨answer, by cases answer <;> rfl, rfl⟩

theorem images_fetchedBy : images.FetchedBy listImages := by
  intro start t o h
  obtain ⟨answer, rfl, rfl⟩ := runs_request_iff.mp h
  exact ⟨answer, by cases answer <;> rfl, rfl⟩

theorem keys_fetchedBy : keys.FetchedBy listKeys := by
  intro start t o h
  obtain ⟨answer, rfl, rfl⟩ := runs_request_iff.mp h
  exact ⟨answer, by cases answer <;> rfl, rfl⟩

end Cloud

/-- Every call to the cloud is described. -/
def Cloud.report : Report Cloud where
  description? c := some c.description
  isWalked := CloudCall.isListing
  repeats := Cloud.RepeatsCursor
  behind t₁ _ _ h := h.behind t₁

/-! ## Lookups -/

variable {α : Type} {pages : Nat} {t : List (Event Cloud)}

/-- Programs that only fail by themselves with a fault of the family in which the cloud has no part. -/
abbrev Program.IsLookup (pages : Nat) (p : Program Cloud α) : Prop :=
  p.Stops Cloud.report (fun fault ↦ fault.isOwn = true ∧ fault.category ≠ .provider) pages

theorem Program.IsLookup.isOwn {p : Program Cloud α} (hp : p.IsLookup pages) {fault : Fault}
    (h : p.Runs t (.failed fault)) : fault.isOwn = true := by
  cases hp.stopped t (some fault) h with
  | described => exact Fault.isOwn_inCall
  | undescribed _ hc => cases hc
  | repeated => rfl
  | unmet _ hkind => exact hkind.1

/-- A described search ends as lookups do. -/
theorem Walk.isLookup_find {l : Listing Cloud α} {fetch : Fetch Cloud α} (hl : l.FetchedBy fetch)
    {description : String} (hdescription : ∀ start, (l.call start).description = description)
    (hwalked : ∀ start, (l.call start).isListing = true)
    (hlisting : ∀ t cursor, l.Repeats t cursor → Cloud.RepeatsCursor t cursor)
    (test : α → Bool) : ((find fetch test pages .start).described description).IsLookup pages := by
  constructor
  · intro t found h
    exact answered_of_find_returned hl (runs_mapFault_returned_iff.mp h)
  · intro t abort h
    obtain ⟨inner, rfl, hfind⟩ := runs_mapFault_aborted_iff.mp h
    rcases find_aborted_cases hl hfind with
      ⟨before, start, cause, hbefore, rfl, rfl⟩ | ⟨cursor, hcalls, hrepeats, rfl⟩ | ⟨hcalls, rfl⟩
    · have hc : Cloud.report.description? (l.call start) = some description :=
        congrArg some (hdescription start)
      have hraised : Cloud.report.raised (l.call start) cause = cause.inWalk :=
        Report.raised_of_walked (hwalked start)
      rw [Option.map_some, ← hraised]
      exact .described hbefore hc cause
    · exact .repeated hcalls (hlisting t cursor hrepeats)
    · refine .cutOff hcalls (length_of_find_exhausted ?_ ?_ hfind)
      · intro start u page hfetch
        rw [hl.eq_of_returned hfetch]
        exact List.cons_ne_nil _ _
      · intro start u
        exact not_runs_fetch_exhausted hl

namespace Reference

variable {kind : ResourceKind} {network : Option NetworkStatus}

theorem isLookup_found (sought : String) (record : Option NamedResource) :
    (found kind sought record).IsLookup pages := by
  cases record with
  | none => exact .fail_of_unmet ⟨rfl, nofun⟩
  | some r => exact .pure r.id

theorem isLookup_search {l : Listing Cloud NamedResource} {fetch : Walk.Fetch Cloud NamedResource}
    (hl : l.FetchedBy fetch)
    (hdescription : ∀ start, (l.call start).description = s!"listing {kind.text}s")
    (hwalked : ∀ start, (l.call start).isListing = true)
    (hlisting : ∀ t cursor, l.Repeats t cursor → Cloud.RepeatsCursor t cursor) (name : String) :
    (search pages kind fetch name).IsLookup pages :=
  .andThen (Walk.isLookup_find hl hdescription hwalked hlisting _) (isLookup_found name)

theorem isLookup_resolveSecurityGroup (r : Reference) :
    (r.resolveSecurityGroup network).IsLookup pages := by
  unfold resolveSecurityGroup
  split
  · exact .pure _
  · split
    · exact .andThen (.described_request rfl rfl) (isLookup_found _)
    · exact .andThen (.described_request rfl rfl) (isLookup_found _)

theorem isLookup_resolveSet (r : Reference) :
    (r.resolveSet pages kind network).IsLookup pages := by
  cases kind with
  | securityGroup => exact isLookup_resolveSecurityGroup r
  | subnet =>
    unfold resolveSet
    simp only
    split
    · exact .pure _
    · split
      · exact .pure _
      · exact .andThen (.described_request rfl rfl) (isLookup_found _)
  | image =>
    unfold resolveSet
    simp only
    split
    · exact .pure _
    · exact isLookup_search Cloud.images_fetchedBy (fun _ ↦ rfl) (fun _ ↦ rfl)
        (fun _ _ h ↦ .inr (.inl h)) _
  | sshKey =>
    unfold resolveSet
    simp only
    split
    · exact .pure _
    · exact isLookup_search Cloud.keys_fetchedBy (fun _ ↦ rfl) (fun _ ↦ rfl)
        (fun _ _ h ↦ .inr (.inr h)) _

/-- Resolving a reference ends as lookups do. -/
theorem isLookup_resolve (r : Option Reference) :
    (resolve pages r kind network).IsLookup pages := by
  cases r with
  | none => exact .fail_of_unmet ⟨rfl, nofun⟩
  | some r =>
    unfold resolve
    simp only
    split
    · exact isLookup_resolveSet r
    · exact .fail_of_unmet ⟨rfl, nofun⟩

theorem isLookup_resolveAll (refs : List Reference) :
    (resolveAll pages kind network refs).IsLookup pages := by
  induction refs with
  | nil => exact .pure _
  | cons r rest ih =>
    exact .andThen (isLookup_resolve (some r)) fun _ ↦ .andThen ih fun _ ↦ .pure _

end Reference

namespace Machine

variable {spec : MachineSpec} {network : Option NetworkStatus}

theorem isLookup_findInstance (name : String) : (findInstance pages name).IsLookup pages :=
  Walk.isLookup_find (Cloud.instancesNamed_fetchedBy name) (fun _ ↦ rfl) (fun _ ↦ rfl)
    (fun _ _ h ↦ .inl ⟨name, h⟩) _

theorem isLookup_prototype (text : String) :
    (prototype pages spec network text).IsLookup pages :=
  .andThen (Reference.isLookup_resolve _) fun _ ↦
    .andThen (Reference.isLookup_resolveAll _) fun _ ↦
      .andThen (Reference.isLookup_resolve _) fun _ ↦
        .andThen (Reference.isLookup_resolveAll _) fun _ ↦ .pure _

end Machine

end VpcMachines
