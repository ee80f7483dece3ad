import VpcMachines.Proofs.Listing.Coverage
import VpcMachines.Reference.Resolve

/-!
# What references denote

A catalog is what the cloud holds as far as references go: images and keys in listings that are cut into
pages in some way, and subnets and security groups by name or ID. In a catalog a reference denotes an ID,
or nothing. Resolving it gives this ID; a reference that denotes nothing is empty, or nothing was found
(`resolve_settles`).
-/

namespace VpcMachines

open Program

structure Catalog where
  images : Chain NamedResource
  keys : Chain NamedResource
  subnet : String → Option NamedResource
  groupNamed : String → Option NamedResource
  /-- Groups by their IDs. -/
  group : String → Option NamedResource
  /-- What is listed for the name of an instance. -/
  instances : String → Chain Instance

/-- The ID that the network status has for the name of a reference. -/
def Reference.known (r : Reference) (kind : ResourceKind) (network : Option NetworkStatus) :
    Option String :=
  match kind with
  | .subnet => filled (network.bind fun status ↦ status.subnetId r.name)
  | .securityGroup => filled (network.bind fun status ↦ status.securityGroupId r.name)
  | .image => none
  | .sshKey => none

namespace Catalog

/-- The answers of a cloud that lists this catalog and looks names up in it. -/
def Lists (k : Catalog) : Event Cloud → Prop
  | ⟨.listImages start, answer⟩ => ∀ page, k.images.page start = some page → answer = .ok page
  | ⟨.listKeys start, answer⟩ => ∀ page, k.keys.page start = some page → answer = .ok page
  | ⟨.listInstances (some name) start, answer⟩ =>
    ∀ page, (k.instances name).page start = some page → answer = .ok page
  | ⟨.getSubnetByName name, answer⟩ => answer = .ok (k.subnet name)
  | ⟨.getSecurityGroupByName name, answer⟩ => answer = .ok (k.groupNamed name)
  | _ => True

/-- The answers of a cloud that holds this catalog, groups by their IDs included. -/
def Tells (k : Catalog) : Event Cloud → Prop
  | ⟨.getSecurityGroup id, answer⟩ => answer = .ok (k.group id)
  | e => k.Lists e

theorem lists_of_tells (k : Catalog) (e : Event Cloud) (h : k.Tells e) : k.Lists e := by
  obtain ⟨c, answer⟩ := e
  cases c with
  | getSecurityGroup id => trivial
  | _ => exact h

/-- No listing has more pages than a bound leaves room for. -/
structure FitsIn (k : Catalog) (pages : Nat) : Prop where
  images : k.images.later.length + 1 < pages
  keys : k.keys.later.length + 1 < pages

/-- The first resource of exactly this name. -/
def named (k : Catalog) : ResourceKind → String → Option NamedResource
  | .image, name => k.images.items.find? fun r ↦ r.name == some name
  | .sshKey, name => k.keys.items.find? fun r ↦ r.name == some name
  | .subnet, name => k.subnet name
  | .securityGroup, name => k.groupNamed name

/-- The ID of the resource that has the name of a reference. -/
def live (k : Catalog) (kind : ResourceKind) (r : Reference) : Option String :=
  (filled r.name).bind fun name ↦ (k.named kind name).map NamedResource.id

/-- The ID that a reference denotes. An explicit ID comes first, and the network status before the cloud;
for a security group the network status comes before an explicit ID, and such an ID has to exist. -/
def idOf (k : Catalog) (kind : ResourceKind) (network : Option NetworkStatus) (r : Reference) :
    Option String :=
  match kind with
  | .securityGroup =>
    (r.known .securityGroup network).or <|
      match filled r.id with
      | some id => (k.group id).map NamedResource.id
      | none => k.live .securityGroup r
  | kind => (filled r.id).or ((r.known kind network).or (k.live kind r))

/-- What a reference denotes that may be missing altogether. -/
def denotation (k : Catalog) (kind : ResourceKind) (network : Option NetworkStatus)
    (r : Option Reference) : Option String :=
  r.bind (k.idOf kind network)

end Catalog

namespace Reference

variable {right : Event Cloud → Prop} {kind : ResourceKind} {network : Option NetworkStatus}
  {pages : Nat} {k : Catalog} {r : Reference} {id name : String}

/-- Why a reference denotes nothing. -/
def flaw (kind : ResourceKind) : Option Reference → Fault
  | none => .emptyReference kind
  | some r => if r.isSet then .notFound kind.text r.text else .emptyReference kind

/-- How resolving a reference ends that denotes an ID or nothing. -/
def ending (kind : ResourceKind) (r : Option Reference) : Option String → Outcome String
  | some id => .returned id
  | none => .failed (flaw kind r)

/-! ## Single steps -/

/-- How the search for something ends that gives a record or none. -/
def located (kind : ResourceKind) (sought : String) : Option NamedResource → Outcome String
  | some r => .returned r.id
  | none => .failed (.notFound kind.text sought)

theorem found_yields (sought : String) (record : Option NamedResource) :
    (found kind sought record).Yields right [] (located kind sought record) := by
  cases record with
  | none => exact .fail _
  | some r => exact .pure r.id

theorem search_yields {c : Chain NamedResource} {fetch : Walk.Fetch Cloud NamedResource}
    {call : Option String → CloudCall} (hserve : c.ServedBy right fetch call)
    (hlimit : c.later.length + 1 < pages) (name : String) :
    (search pages kind fetch name).Yields right
      ((Chain.asked (fun r ↦ r.name == some name) c.pages).map call)
      (located kind name (c.items.find? fun r ↦ r.name == some name)) := by
  have hfind := (Chain.search_yields hserve (fun r ↦ r.name == some name) hlimit).described
    s!"listing {kind.text}s"
  have hsearch := hfind.bind (f := found kind name) (found_yields name _)
  rwa [List.append_nil] at hsearch

theorem lookUp_yields {c : CloudCall} {record : Option NamedResource} {description sought : String}
    {ask : Program Cloud (Option NamedResource)}
    (hask : ask.Yields right [c] (.returned record)) :
    (ask.described description >>= found kind sought).Yields right [c]
      (located kind sought record) :=
  (hask.described description).bind (found_yields sought record)

end Reference

namespace Catalog

variable {k : Catalog}

theorem images_servedBy : k.images.ServedBy k.Lists Cloud.listImages CloudCall.listImages := by
  intro start page hpage
  exact .request (I := Cloud) (c := .listImages start) fun answer h ↦ h page hpage

theorem keys_servedBy : k.keys.ServedBy k.Lists Cloud.listKeys CloudCall.listKeys := by
  intro start page hpage
  exact .request (I := Cloud) (c := .listKeys start) fun answer h ↦ h page hpage

theorem instances_servedBy (name : String) :
    (k.instances name).ServedBy k.Lists (Cloud.listInstances (some name))
      (CloudCall.listInstances (some name)) := by
  intro start page hpage
  exact .request (I := Cloud) (c := .listInstances (some name) start) fun answer h ↦ h page hpage

variable {network : Option NetworkStatus} {kind : ResourceKind} {r : Reference} {id : String}

theorem idOf_of_known (hknown : r.known kind network = some id)
    (hkind : kind = .securityGroup ∨ filled r.id = none) : k.idOf kind network r = some id := by
  cases kind with
  | securityGroup => simp [idOf, hknown]
  | _ =>
    have hid : filled r.id = none := hkind.resolve_left nofun
    simp [idOf, hid, hknown]

theorem idOf_of_explicit (hid : filled r.id = some id) (hkind : kind ≠ .securityGroup) :
    k.idOf kind network r = some id := by
  cases kind with
  | securityGroup => exact absurd rfl hkind
  | _ => simp [idOf, hid]

theorem idOf_group (hid : filled r.id = some id)
    (hknown : r.known .securityGroup network = none) :
    k.idOf .securityGroup network r = (k.group id).map NamedResource.id := by
  simp [idOf, hid, hknown]

theorem idOf_eq_live (hid : filled r.id = none) (hknown : r.known kind network = none) :
    k.idOf kind network r = k.live kind r := by
  cases kind <;> simp [idOf, hid, hknown]

end Catalog

namespace Reference

variable {kind : ResourceKind} {network : Option NetworkStatus} {pages : Nat} {k : Catalog}
  {r : Reference} {id name : String}

theorem filled_getD {s : Option String} (h : filled s = some name) : s.getD "" = name := by
  obtain ⟨rfl, _⟩ := Option.filter_eq_some_iff.mp h
  rfl

theorem isSet_of_filled_name (h : filled r.name = some name) : r.isSet = true := by
  simp [isSet, h]

theorem isSet_of_filled_id (h : filled r.id = some id) : r.isSet = true := by
  simp [isSet, h]

theorem filled_name_of_known (h : r.known kind network = some id) :
    ∃ name, filled r.name = some name := by
  have hlookup {table : Option NetworkStatus} {look : NetworkStatus → List (String × ResourceStatus)}
      (h : filled (table.bind fun status ↦ NetworkStatus.idIn (look status) r.name) = some id) :
      ∃ name, filled r.name = some name := by
    obtain ⟨h, _⟩ := Option.filter_eq_some_iff.mp h
    obtain ⟨status, _, h⟩ := Option.bind_eq_some_iff.mp h
    obtain ⟨name, hname, _⟩ := Option.bind_eq_some_iff.mp h
    exact ⟨name, hname⟩
  cases kind with
  | image => cases h
  | sshKey => cases h
  | subnet => exact hlookup h
  | securityGroup => exact hlookup h

/-- What the network status has an ID for is resolved without a call, unless an explicit ID comes
first. -/
theorem resolve_known {right : Event Cloud → Prop} (hknown : r.known kind network = some id)
    (hkind : kind = .securityGroup ∨ filled r.id = none) :
    (resolve pages (some r) kind network).Yields right [] (.returned id) := by
  obtain ⟨name, hname⟩ := filled_name_of_known hknown
  simp only [resolve, isSet_of_filled_name hname, if_true]
  cases kind with
  | image => cases hknown
  | sshKey => cases hknown
  | subnet =>
    have hid : filled r.id = none := hkind.resolve_left nofun
    rw [known] at hknown
    simp only [resolveSet, hid, hknown]
    exact .pure id
  | securityGroup =>
    rw [known] at hknown
    simp only [resolveSet, resolveSecurityGroup, hknown]
    exact .pure id

theorem resolve_explicit {right : Event Cloud → Prop} (hid : filled r.id = some id)
    (hkind : kind ≠ .securityGroup) :
    (resolve pages (some r) kind network).Yields right [] (.returned id) := by
  simp only [resolve, isSet_of_filled_id hid, if_true]
  cases kind with
  | securityGroup => exact absurd rfl hkind
  | _ =>
    simp only [resolveSet, hid]
    exact .pure id

/-- The explicit ID of a group is confirmed by the one call that fetches the group. -/
theorem resolve_group (hid : filled r.id = some id)
    (hknown : r.known .securityGroup network = none) :
    (resolve pages (some r) .securityGroup network).Yields k.Tells [.getSecurityGroup id]
      (located .securityGroup id (k.group id)) := by
  rw [known] at hknown
  simp only [resolve, isSet_of_filled_id hid, if_true, resolveSet, resolveSecurityGroup, hknown, hid]
  exact lookUp_yields (.request (I := Cloud) (c := .getSecurityGroup id) fun answer h ↦ h)

/-- The name of an image is searched in their listing. -/
theorem resolve_image (hfits : k.FitsIn pages) (hname : filled r.name = some name)
    (hid : filled r.id = none) :
    (resolve pages (some r) .image network).Yields k.Lists
      ((Chain.asked (fun r ↦ r.name == some name) k.images.pages).map CloudCall.listImages)
      (located .image name (k.named .image name)) := by
  simp only [resolve, isSet_of_filled_name hname, if_true, resolveSet, hid, filled_getD hname]
  exact search_yields Catalog.images_servedBy hfits.images name

/-- The name of a key is searched in their listing. -/
theorem resolve_key (hfits : k.FitsIn pages) (hname : filled r.name = some name)
    (hid : filled r.id = none) :
    (resolve pages (some r) .sshKey network).Yields k.Lists
      ((Chain.asked (fun r ↦ r.name == some name) k.keys.pages).map CloudCall.listKeys)
      (located .sshKey name (k.named .sshKey name)) := by
  simp only [resolve, isSet_of_filled_name hname, if_true, resolveSet, hid, filled_getD hname]
  exact search_yields Catalog.keys_servedBy hfits.keys name

/-- A name that is not known beforehand is looked up in the cloud. -/
theorem resolve_live (hfits : k.FitsIn pages) (hname : filled r.name = some name)
    (hid : filled r.id = none) (hknown : r.known kind network = none) :
    (resolve pages (some r) kind network).Settles k.Lists (located kind name (k.named kind name)) := by
  cases kind with
  | image => exact ⟨_, resolve_image hfits hname hid⟩
  | sshKey => exact ⟨_, resolve_key hfits hname hid⟩
  | subnet =>
    rw [known] at hknown
    simp only [resolve, isSet_of_filled_name hname, if_true, resolveSet, hid, hknown,
      filled_getD hname]
    exact ⟨_, lookUp_yields (.request (I := Cloud) (c := .getSubnetByName name) fun answer h ↦ h)⟩
  | securityGroup =>
    rw [known] at hknown
    simp only [resolve, isSet_of_filled_name hname, if_true, resolveSet, resolveSecurityGroup, hid,
      hknown, filled_getD hname]
    exact ⟨_, lookUp_yields
      (.request (I := Cloud) (c := .getSecurityGroupByName name) fun answer h ↦ h)⟩

theorem located_eq_ending {record : Option NamedResource} (hset : r.isSet = true)
    (htext : r.text = name) :
    located kind name record = ending kind (some r) (record.map NamedResource.id) := by
  cases record with
  | none => simp [located, ending, flaw, hset, htext]
  | some found => rfl

/-- In a catalog, resolving a reference gives the ID that it denotes, or fails because it denotes
nothing. -/
theorem resolve_settles (hfits : k.FitsIn pages) (r : Option Reference) :
    (resolve pages r kind network).Settles k.Tells
      (ending kind r (k.denotation kind network r)) := by
  cases r with
  | none => exact ⟨_, .fail _⟩
  | some r =>
    rw [Catalog.denotation, Option.bind_some]
    cases hknown : r.known kind network with
    | some known =>
      by_cases hfirst : kind = .securityGroup ∨ filled r.id = none
      · rw [Catalog.idOf_of_known hknown hfirst]
        exact ⟨_, resolve_known hknown hfirst⟩
      · obtain ⟨hkind, hid⟩ := not_or.mp hfirst
        obtain ⟨id, hid⟩ := Option.ne_none_iff_exists'.mp hid
        rw [Catalog.idOf_of_explicit hid hkind]
        exact ⟨_, resolve_explicit hid hkind⟩
    | none =>
      cases hid : filled r.id with
      | some id =>
        by_cases hkind : kind = .securityGroup
        · subst hkind
          have htext : r.text = id := by simp [text, hid]
          rw [Catalog.idOf_group hid hknown, ← located_eq_ending (isSet_of_filled_id hid) htext]
          exact ⟨_, resolve_group hid hknown⟩
        · rw [Catalog.idOf_of_explicit hid hkind]
          exact ⟨_, resolve_explicit hid hkind⟩
      | none =>
        rw [Catalog.idOf_eq_live hid hknown]
        cases hname : filled r.name with
        | some name =>
          have htext : r.text = name := by simp [text, hid, hname]
          rw [Catalog.live, hname, Option.bind_some,
            ← located_eq_ending (isSet_of_filled_name hname) htext]
          exact (resolve_live hfits hname hid hknown).mono k.lists_of_tells
        | none =>
          have hempty : r.isSet = false := by simp [isSet, hid, hname]
          simp only [Catalog.live, hname, Option.bind_none, resolve, ending, flaw, hempty,
            Bool.false_eq_true, if_false]
          exact ⟨_, .fail _⟩

end Reference

end VpcMachines
