import VpcMachines.Proofs.Machine.Bootstrap
import VpcMachines.Proofs.Machine.Meaning

/-!
# Creating a machine in a known world

A world holds what creating a machine asks for, as fixed answers. The obstacles to a creation are known
beforehand there: a profile that is missing, a text that cannot be had, and every reference that denotes
nothing. A creation gives the instance that it finds, or fails at the first obstacle, or requests what
the specification means (`createEnd_of_runs`).
-/

namespace VpcMachines

open Program

/-- The cloud and what is at hand, as far as creating a machine goes. -/
structure World where
  catalog : Catalog
  secret : String → String → Except Fault Secret
  dataKey : Except Fault String

namespace World

/-- The answers of collaborators that hold all this. What requests for instances are answered with, and
everything else that is not asked here, is left open. -/
def Tells (w : World) : Event (Cloud.sum Local) → Prop
  | ⟨.inl c, answer⟩ => w.catalog.Tells ⟨c, answer⟩
  | ⟨.inr (.secret space name), answer⟩ => answer = w.secret space name
  | ⟨.inr .dataKey, answer⟩ => answer = w.dataKey
  | ⟨.inr .account, _⟩ => True

/-- The text that a new instance gets to start with, or why it cannot be had. -/
def text (w : World) (spec : MachineSpec) : Except Fault String :=
  match filled spec.bootstrapSecret with
  | none => .error (.noBootstrapSecret spec.name)
  | some name =>
    match w.secret spec.secretNamespace name with
    | .error cause => .error (.bootstrapUnreadable spec.secretNamespace name cause)
    | .ok secret =>
      match w.dataKey with
      | .error cause => .error cause
      | .ok key =>
        match secret.value? key with
        | none => .error (.noBootstrapData spec.secretNamespace name key)
        | some value => value.asText.mapError .undecodable

/-- What hinders a machine from being created, in the order in which it is met. -/
def obstacles (w : World) (spec : MachineSpec) (network : Option NetworkStatus) : List Fault :=
  (if spec.profile = "" then [.noProfile spec.name] else []) ++
    ((match w.text spec with
      | .ok _ => []
      | .error fault => [fault]) ++
      spec.references.flatMap (w.catalog.flaws network))

variable {w : World} {network : Option NetworkStatus} {spec : MachineSpec} {fault : Fault}
  {text : String}

theorem obstacles_of_unprofiled (hprofile : spec.profile = "") :
    ∃ more, w.obstacles spec network = .noProfile spec.name :: more := by
  rw [obstacles, if_pos hprofile]
  exact ⟨_, rfl⟩

theorem obstacles_of_unreadable (hprofile : spec.profile ≠ "") (htext : w.text spec = .error fault) :
    w.obstacles spec network = fault :: spec.references.flatMap (w.catalog.flaws network) := by
  rw [obstacles, if_neg hprofile, htext]
  rfl

theorem obstacles_of_readable (hprofile : spec.profile ≠ "") (htext : w.text spec = .ok text) :
    w.obstacles spec network = spec.references.flatMap (w.catalog.flaws network) := by
  rw [obstacles, if_neg hprofile, htext]
  rfl

theorem flaws_of_unhindered (h : w.obstacles spec network = []) :
    spec.references.flatMap (w.catalog.flaws network) = [] :=
  (List.append_eq_nil_iff.mp (List.append_eq_nil_iff.mp h).2).2

theorem obstacles_eq_nil_iff :
    w.obstacles spec network = [] ↔
      spec.profile ≠ "" ∧ (∃ text, w.text spec = .ok text) ∧
        ∀ r ∈ spec.references, (w.catalog.denotation r.1 network r.2).isSome := by
  by_cases hprofile : spec.profile = ""
  · obtain ⟨more, hobstacles⟩ : ∃ more, w.obstacles spec network = .noProfile spec.name :: more :=
      obstacles_of_unprofiled hprofile
    simp [hobstacles, hprofile]
  · cases htext : w.text spec with
    | error fault => simp [obstacles_of_unreadable hprofile htext]
    | ok text =>
      rw [obstacles_of_readable hprofile htext, List.flatMap_eq_nil_iff]
      simp only [Catalog.flaws_eq_nil_iff]
      simp [hprofile]

structure FitsIn (w : World) (spec : MachineSpec) (pages : Nat) : Prop where
  catalog : w.catalog.FitsIn pages
  instances : (w.catalog.instances spec.name).later.length + 1 < pages

/-- A page of a listing. There are no others. -/
def pageOf {α : Type} (c : Chain α) (start : Option String) : Except Fault (Page α) :=
  (c.page start).elim (.error .unimplemented) .ok

theorem pageOf_eq {α : Type} {c : Chain α} {start : Option String} {page : Page α}
    (h : c.page start = some page) : pageOf c start = .ok page := by
  rw [pageOf, h, Option.elim_some]

/-- Collaborators that hold all this, with an answer to requests for instances. -/
def collaborators (w : World) (created : Prototype → Except Fault (Option Instance)) :
    Handler (Cloud.sum Local) Unit where
  answer
    | .inl (.listImages start), s => (pageOf w.catalog.images start, s)
    | .inl (.listKeys start), s => (pageOf w.catalog.keys start, s)
    | .inl (.listInstances (some name) start), s => (pageOf (w.catalog.instances name) start, s)
    | .inl (.getSubnetByName name), s => (.ok (w.catalog.subnet name), s)
    | .inl (.getSecurityGroupByName name), s => (.ok (w.catalog.groupNamed name), s)
    | .inl (.getSecurityGroup id), s => (.ok (w.catalog.group id), s)
    | .inl (.createInstance request), s => (created request, s)
    | .inr (.secret space name), s => (w.secret space name, s)
    | .inr .dataKey, s => (w.dataKey, s)
    | _, s => (.error .unimplemented, s)

theorem tells_collaborators (created : Prototype → Except Fault (Option Instance))
    (c : (Cloud.sum Local).Call) (s : Unit) :
    w.Tells ⟨c, ((w.collaborators created).answer c s).1⟩ := by
  rcases c with c | c
  · cases c with
    | listImages start => exact fun page h ↦ pageOf_eq h
    | listKeys start => exact fun page h ↦ pageOf_eq h
    | listInstances name start =>
      cases name with
      | none => trivial
      | some name => exact fun page h ↦ pageOf_eq h
    | getSubnetByName name => rfl
    | getSecurityGroupByName name => rfl
    | getSecurityGroup id => rfl
    | _ => trivial
  · cases c with
    | secret space name => rfl
    | dataKey => rfl
    | account => trivial

end World

namespace Machine

variable {w : World} {network : Option NetworkStatus} {pages : Nat} {spec : MachineSpec}
  {t : List (Event (Cloud.sum Local))} {o : Outcome (Option Instance)}

theorem told_of_pair {space name : String} {secret : Except Fault Secret} {key : Except Fault String}
    (htold : ∀ e ∈ ([⟨.inr (.secret space name), secret⟩, ⟨.inr .dataKey, key⟩] :
      List (Event (Cloud.sum Local))), w.Tells e) :
    w.secret space name = secret ∧ w.dataKey = key := by
  have hsecret : secret = w.secret space name := htold _ (List.mem_cons_self)
  have hkey : key = w.dataKey := htold _ (List.mem_cons_of_mem _ (List.mem_singleton_self _))
  exact ⟨hsecret.symm, hkey.symm⟩

/-- Reading the text fails as the world says. -/
theorem text_eq_error {abort : Option Fault} (h : (bootstrapData spec).Runs t (.aborted abort))
    (htold : ∀ e ∈ t, w.Tells e) : ∃ fault, abort = some fault ∧ w.text spec = .error fault := by
  obtain ⟨fault, rfl, hlacking | hunguarded⟩ := lacking_or_unguarded_of_runs h
  · refine ⟨fault, rfl, ?_⟩
    cases hlacking with
    | unnamed hname => simp only [World.text, hname]
    | unreadable hname cause =>
      have hsecret : .error cause = w.secret _ _ := htold _ (List.mem_singleton_self _)
      simp only [World.text, hname, ← hsecret]
    | missing hname hvalue =>
      obtain ⟨hsecret, hkey⟩ := told_of_pair htold
      simp only [World.text, hname, hsecret, hkey, hvalue]
  · refine ⟨fault, rfl, ?_⟩
    cases hunguarded with
    | keyless hname cause =>
      obtain ⟨hsecret, hkey⟩ := told_of_pair htold
      simp only [World.text, hname, hsecret, hkey]
    | undecodable hname hvalue hbytes =>
      obtain ⟨hsecret, hkey⟩ := told_of_pair htold
      have htext := asText_eq_error_iff.mpr ⟨_, rfl, hbytes⟩
      simp only [World.text, hname, hsecret, hkey, hvalue, htext]
      rfl

theorem text_eq_ok {text : String} (h : (bootstrapData spec).Runs t (.returned text))
    (htold : ∀ e ∈ t, w.Tells e) : w.text spec = .ok text := by
  obtain ⟨name, secret, key, value, hname, hvalue, htext, rfl⟩ := bootstrapObtained_of_runs h
  obtain ⟨hsecret, hkey⟩ := told_of_pair htold
  simp only [World.text, hname, hsecret, hkey, hvalue, htext]
  rfl

theorem forall_tells_of_beside {u : List (Event Cloud)}
    (htold : ∀ e ∈ (u.map Event.beside : List (Event (Cloud.sum Local))), w.Tells e) :
    ∀ e ∈ u, w.catalog.Tells e :=
  fun e he ↦ htold e.beside (List.mem_map_of_mem he)

/-- How creating a machine ends, by what the collaborators hold. -/
inductive CreateEnd (w : World) (spec : MachineSpec) (network : Option NetworkStatus) :
    List (Event (Cloud.sum Local)) → Outcome (Option Instance) → Prop where
  | existing {t : List (Event (Cloud.sum Local))} {i : Instance}
      (hfound : w.catalog.instanceNamed spec.name = some i)
      (hquiet : ∀ e ∈ t, isChange e.1 = false) : CreateEnd w spec network t (.returned (some i))
  | hindered {t : List (Event (Cloud.sum Local))} {fault : Fault} {more : List Fault}
      (hfree : w.catalog.instanceNamed spec.name = none)
      (hobstacles : w.obstacles spec network = fault :: more)
      (hquiet : ∀ e ∈ t, isChange e.1 = false) : CreateEnd w spec network t (.failed fault)
  | requested {before : List (Event (Cloud.sum Local))} {text : String}
      (hfree : w.catalog.instanceNamed spec.name = none)
      (hobstacles : w.obstacles spec network = []) (htext : w.text spec = .ok text)
      (hquiet : ∀ e ∈ before, isChange e.1 = false) (answer : Except Fault (Option Instance)) :
      CreateEnd w spec network
        (before ++ [⟨.inl (.createInstance (w.catalog.request spec network text)), answer⟩])
        (.ofAnswer s!"creating instance {spec.name}" answer)

theorem search_end {listing : List (Event Cloud)} {found : Outcome (Option Instance)}
    (hfits : w.FitsIn spec pages) (search : (findInstance pages spec.name).Runs listing found)
    (htold : ∀ e ∈ (listing.map Event.beside : List (Event (Cloud.sum Local))), w.Tells e) :
    found = .returned (w.catalog.instanceNamed spec.name) := by
  have hyields := (Catalog.findInstance_yields hfits.instances).mono w.catalog.lists_of_tells
  exact (hyields _ _ search (forall_tells_of_beside htold)).2

theorem prototype_end {references : List (Event Cloud)} {prepared : Outcome Prototype} {text : String}
    (hfits : w.FitsIn spec pages)
    (hreferences : (prototype pages spec network text).Runs references prepared)
    (htold : ∀ e ∈ (references.map Event.beside : List (Event (Cloud.sum Local))), w.Tells e) :
    prepared = .unless (spec.references.flatMap (w.catalog.flaws network))
      (.returned (w.catalog.request spec network text)) :=
  (Catalog.prototype_unless hfits.catalog text).end_eq hreferences (forall_tells_of_beside htold)

/-- Without a profile, a creation ends with the search. -/
theorem create_end_of_unprofiled (hfits : w.FitsIn spec pages) (hprofile : spec.profile = "")
    (h : (create pages spec network).Runs t o) (htold : ∀ e ∈ t, w.Tells e) :
    o = match w.catalog.instanceNamed spec.name with
      | some i => .returned (some i)
      | none => .failed (.noProfile spec.name) := by
  rcases runs_beside_bind_cases h with
    ⟨abort, listing, rfl, rfl, hsearch⟩ | ⟨listing, found, rest, rfl, hsearch, hrest⟩
  · exact absurd (search_end hfits hsearch htold) (Outcome.aborted_ne_returned _ _)
  · obtain ⟨hlisting, _⟩ := List.forall_mem_append.mp htold
    cases search_end hfits hsearch hlisting
    cases hnamed : w.catalog.instanceNamed spec.name with
    | some i =>
      simp only [hnamed] at hrest
      exact (runs_done_iff.mp hrest).2
    | none =>
      simp only [hnamed, hprofile, if_true] at hrest
      exact (runs_fail_iff.mp hrest).2

theorem quiet_preparation {listing references : List (Event Cloud)}
    {bootstrap : List (Event (Cloud.sum Local))} {found : Outcome (Option Instance)}
    {read : Outcome String} {prepared : Outcome Prototype} {text : String}
    (search : (findInstance pages spec.name).Runs listing found)
    (hbootstrap : (bootstrapData spec).Runs bootstrap read)
    (hreferences : (prototype pages spec network text).Runs references prepared) :
    ∀ e ∈ listing.map Event.beside ++ (bootstrap ++ references.map Event.beside),
      isChange e.1 = false := by
  have hlisting := quiet_map_beside (quiet_findInstance pages spec.name) search
  have hread := (quiet_bootstrapData spec).of_mem_run hbootstrap
  have hresolved := quiet_map_beside (quiet_prototype text) hreferences
  exact List.forall_mem_append.mpr ⟨hlisting, List.forall_mem_append.mpr ⟨hread, hresolved⟩⟩

/-- The name is taken, or the first obstacle ends the creation, or the request is made at last. -/
theorem createEnd_of_runs (hfits : w.FitsIn spec pages) (h : (create pages spec network).Runs t o)
    (htold : ∀ e ∈ t, w.Tells e) : CreateEnd w spec network t o := by
  have hstages := createRun_of_runs h
  by_cases hprofile : spec.profile = ""
  · have hquiet : ∀ e ∈ t, isChange e.1 = false := by
      rcases hstages.quiet_or_requested with hquiet | ⟨_, _, _, _, hprepared, _⟩
      · exact hquiet
      · exact absurd hprofile hprepared.1
    rw [create_end_of_unprofiled hfits hprofile h htold]
    cases hnamed : w.catalog.instanceNamed spec.name with
    | some i => exact .existing hnamed hquiet
    | none =>
      obtain ⟨more, hobstacles⟩ := World.obstacles_of_unprofiled hprofile
      exact .hindered hnamed hobstacles hquiet
  · cases hstages with
    | searchAborted search =>
      exact absurd (search_end hfits search htold) (Outcome.aborted_ne_returned _ _)
    | existing search =>
      have hfound := Outcome.returned.inj (search_end hfits search htold)
      have hquiet := quiet_map_beside (quiet_findInstance pages spec.name) search
      exact .existing hfound.symm hquiet
    | noProfile search hunprofiled => exact absurd hunprofiled hprofile
    | bootstrapAborted search hbootstrap =>
      obtain ⟨hlisting, hread⟩ := List.forall_mem_append.mp htold
      have hfree := Outcome.returned.inj (search_end hfits search hlisting)
      obtain ⟨fault, rfl, htext⟩ := text_eq_error hbootstrap hread
      have hlistingQuiet := quiet_map_beside (quiet_findInstance pages spec.name) search
      have hreadQuiet := (quiet_bootstrapData spec).of_mem_run hbootstrap
      exact .hindered hfree.symm (World.obstacles_of_unreadable hprofile htext)
        (List.forall_mem_append.mpr ⟨hlistingQuiet, hreadQuiet⟩)
    | referencesAborted search hbootstrap hreferences =>
      obtain ⟨hlisting, hbehind⟩ := List.forall_mem_append.mp htold
      obtain ⟨hread, hresolved⟩ := List.forall_mem_append.mp hbehind
      have hfree := Outcome.returned.inj (search_end hfits search hlisting)
      obtain ⟨fault, more, hflaws, rfl⟩ := Outcome.aborted_eq_unless_iff.mp
        (prototype_end hfits hreferences hresolved)
      have hobstacles : w.obstacles spec network = _ :=
        World.obstacles_of_readable hprofile (text_eq_ok hbootstrap hread)
      exact .hindered hfree.symm (hobstacles.trans hflaws)
        (quiet_preparation search hbootstrap hreferences)
    | requested search hprofile hbootstrap hreferences answer =>
      obtain ⟨hbefore, _⟩ := List.forall_mem_append.mp htold
      obtain ⟨hlisting, hbehind⟩ := List.forall_mem_append.mp hbefore
      obtain ⟨hread, hresolved⟩ := List.forall_mem_append.mp hbehind
      have hfree := Outcome.returned.inj (search_end hfits search hlisting)
      have htext := text_eq_ok hbootstrap hread
      obtain ⟨hflaws, rfl⟩ := Outcome.returned_eq_unless_iff.mp
        (prototype_end hfits hreferences hresolved)
      have hobstacles : w.obstacles spec network = _ :=
        World.obstacles_of_readable hprofile htext
      exact .requested hfree.symm (hobstacles.trans hflaws) htext
        (quiet_preparation search hbootstrap hreferences) answer

theorem not_mem_of_quiet {request : Prototype} {answer : Except Fault (Option Instance)}
    (hquiet : ∀ e ∈ t, isChange e.1 = false) :
    (⟨.inl (.createInstance request), answer⟩ : Event (Cloud.sum Local)) ∉ t := by
  intro hmem
  cases hquiet _ hmem

/-- Exactly one request is ever made: the one that the world has for the specification. -/
theorem CreateEnd.requested_iff (h : CreateEnd w spec network t o) (request : Prototype) :
    (∃ answer, ⟨.inl (.createInstance request), answer⟩ ∈ t) ↔
      w.catalog.instanceNamed spec.name = none ∧ w.obstacles spec network = [] ∧
        ∃ text, w.text spec = .ok text ∧ request = w.catalog.request spec network text := by
  constructor
  · rintro ⟨answer, hmem⟩
    cases h with
    | existing _ hquiet => exact absurd hmem (not_mem_of_quiet hquiet)
    | hindered _ _ hquiet => exact absurd hmem (not_mem_of_quiet hquiet)
    | requested hfree hobstacles htext hquiet _ =>
      rcases List.mem_append.mp hmem with hearlier | hlast
      · exact absurd hearlier (not_mem_of_quiet hquiet)
      · cases List.mem_singleton.mp hlast
        exact ⟨hfree, hobstacles, _, htext, rfl⟩
  · rintro ⟨hnone, hnothing, text, htext, rfl⟩
    cases h with
    | existing hfound _ =>
      rw [hnone] at hfound
      cases hfound
    | hindered _ hobstacles _ =>
      rw [hnothing] at hobstacles
      cases hobstacles
    | requested _ _ hread _ answer =>
      rw [htext] at hread
      cases hread
      exact ⟨answer, List.mem_append_right _ (List.mem_singleton_self _)⟩

/-- In a world that has no instance of the name, creating a machine requests an instance exactly if there
is a profile, the text can be had and every reference denotes something. The request is the last call
and the only one that changes anything, and it says what the specification means. Otherwise the creation
fails at the first obstacle. -/
theorem creation_means_specification {σ : Type} (all : Handler (Cloud.sum Local) σ) (s : σ)
    (w : World) (pages : Nat) (spec : MachineSpec) (network : Option NetworkStatus)
    (hworld : ∀ c s, w.Tells ⟨c, (all.answer c s).1⟩) (hfits : w.FitsIn spec pages)
    (hfree : ∀ i ∈ (w.catalog.instances spec.name).items, i.name ≠ spec.name) :
    let create := create pages spec network
    let t := create.trace all s
    ((∃ request answer, ⟨.inl (.createInstance request), answer⟩ ∈ t) ↔
      spec.profile ≠ "" ∧ (∃ text, w.text spec = .ok text) ∧
        ∀ r ∈ spec.references, (w.catalog.denotation r.1 network r.2).isSome) ∧
    (∀ request answer, ⟨.inl (.createInstance request), answer⟩ ∈ t →
      (∃ text, w.text spec = .ok text ∧ w.catalog.Means spec network text request) ∧
      (∃ before, t = before ++ [⟨.inl (.createInstance request), answer⟩] ∧
        ∀ e ∈ before, isChange e.1 = false) ∧
      (create.run all s).1 = .ofAnswer s!"creating instance {spec.name}" answer) ∧
    ∀ fault more, w.obstacles spec network = fault :: more →
      (create.run all s).1 = .failed fault ∧ ∀ e ∈ t, isChange e.1 = false := by
  intro create t
  have htold : ∀ e ∈ t, w.Tells e := forall_right_of_answers hworld create s
  have hend := createEnd_of_runs hfits (runs_trace all create s) htold
  have hnone : w.catalog.instanceNamed spec.name = none := by
    refine List.find?_eq_none.mpr fun i hi ↦ ?_
    simpa using hfree i hi
  rw [← World.obstacles_eq_nil_iff]
  generalize (create.run all s).1 = o at hend ⊢
  change CreateEnd w spec network t o at hend
  clear_value t
  cases hend with
  | existing hfound hquiet =>
    rw [hnone] at hfound
    cases hfound
  | hindered _ hobstacles hquiet =>
    refine ⟨⟨?_, ?_⟩, ?_, ?_⟩
    · rintro ⟨request, answer, hmem⟩
      exact absurd hmem (not_mem_of_quiet hquiet)
    · intro hnothing
      rw [hobstacles] at hnothing
      cases hnothing
    · intro request answer hmem
      exact absurd hmem (not_mem_of_quiet hquiet)
    · intro fault more h
      rw [hobstacles] at h
      cases h
      exact ⟨rfl, hquiet⟩
  | requested _ hobstacles htext hquiet answer =>
    refine ⟨⟨fun _ ↦ hobstacles, ?_⟩, ?_, ?_⟩
    · intro _
      exact ⟨_, answer, List.mem_append_right _ (List.mem_singleton_self _)⟩
    · intro request answer hmem
      rcases List.mem_append.mp hmem with hearlier | hlast
      · exact absurd hearlier (not_mem_of_quiet hquiet)
      · cases List.mem_singleton.mp hlast
        exact ⟨⟨_, htext, Catalog.means_request _ (World.flaws_of_unhindered hobstacles)⟩,
          ⟨_, rfl, hquiet⟩, rfl⟩
    · intro fault more h
      rw [hobstacles] at h
      cases h

/-- A world with one subnet, and one image on the second page of the images. -/
def smallWorld : World where
  catalog :=
    { images := ⟨[], [("more", [⟨"image-1", some "image"⟩])], none, by simp, by simp, rfl⟩
      keys := .single []
      subnet := fun name ↦ if name = "subnet" then some ⟨"subnet-1", some "subnet"⟩ else none
      groupNamed := fun _ ↦ none
      group := fun _ ↦ none
      instances := fun _ ↦ .single [] }
  secret _ _ := .ok [("value", .text "text")]
  dataKey := .ok "value"

/-- The image is requested by its ID, wherever it is listed. -/
theorem creation_means_listed_image :
    let spec : MachineSpec :=
      { name := "machine", profile := "small", image := some ⟨none, some "image"⟩, sshKeys := [],
        network := ⟨⟨none, some "subnet"⟩, []⟩, zone := none, secretNamespace := "default",
        bootstrapSecret := some "bootstrap" }
    let all := smallWorld.collaborators fun _ ↦ .ok none
    (∀ c s, smallWorld.Tells ⟨c, (all.answer c s).1⟩) ∧ smallWorld.FitsIn spec 3 ∧
    (∀ i ∈ (smallWorld.catalog.instances spec.name).items, i.name ≠ spec.name) ∧
    ∃ request answer,
      ⟨.inl (.createInstance request), answer⟩ ∈ (create 3 spec none).trace all () ∧
        request.imageId = "image-1" := by
  intro spec all
  have hworld : ∀ c s, smallWorld.Tells ⟨c, (all.answer c s).1⟩ :=
    smallWorld.tells_collaborators fun _ ↦ .ok none
  have hfits : smallWorld.FitsIn spec 3 := ⟨⟨by decide, by decide⟩, by decide⟩
  have hfree : ∀ i ∈ (smallWorld.catalog.instances spec.name).items, i.name ≠ spec.name := by
    intro i hi
    cases hi
  obtain ⟨hcreates, hmeans, _⟩ :=
    creation_means_specification all () smallWorld 3 spec none hworld hfits hfree
  have hdenotes : ∀ r ∈ spec.references, (smallWorld.catalog.denotation r.1 none r.2).isSome := by
    decide
  obtain ⟨request, answer, hmem⟩ := hcreates.mpr ⟨by decide, ⟨"text", rfl⟩, hdenotes⟩
  obtain ⟨⟨text, _, hrequest⟩, _⟩ := hmeans request answer hmem
  have himage : smallWorld.catalog.denotation .image none spec.image = some "image-1" := by decide
  have hid := hrequest.image
  rw [himage] at hid
  exact ⟨hworld, hfits, hfree, request, answer, hmem, (Option.some.inj hid).symm⟩

end Machine

end VpcMachines
