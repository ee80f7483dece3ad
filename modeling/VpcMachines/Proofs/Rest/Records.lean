import VpcMachines.Json.Printer
import VpcMachines.Proofs.Link.Query
import VpcMachines.Rest.Client

/-!
# Replies that show records

A reply shows a record if its JSON has the values of the fields where they are looked for, whatever else
it has. It shows a page if it shows the records of the page in their order and links to the next page.
What a reply shows is read from it.
-/

namespace VpcMachines.Rest

variable {α : Type} {fields : List (String × Json)} {s : Option String} {name : String}

/-- A text, or nothing or null in its place. -/
def ShowsText : Option String → Option Json → Prop
  | some s, v => v = some (.text s)
  | none, v => v = none ∨ v = some .null

/-- A text at the end of a path through objects. The path may break off where there is no text. -/
def ShowsAt : List String → Option String → Option Json → Prop
  | [], s, v => ShowsText s v
  | name :: path, s, v =>
    s = none ∧ ShowsText none v ∨
      ∃ fields, v = some (.object fields) ∧ ShowsAt path s (fields.lookup name)

def ShowsNamed (r : NamedResource) (v : Json) : Prop :=
  ∃ fields, v = .object fields ∧ fields.lookup "id" = some (.text r.id) ∧
    ShowsText r.name (fields.lookup "name")

structure ShowsInstanceIn (i : Instance) (fields : List (String × Json)) : Prop where
  id : fields.lookup "id" = some (.text i.id)
  name : fields.lookup "name" = some (.text i.name)
  status : ShowsText i.status (fields.lookup "status")
  address : ShowsAt ["primary_ip", "address"] i.primaryAddress
    (fields.lookup "primary_network_interface")
  zone : ShowsAt ["name"] i.zone (fields.lookup "zone")
  profile : ShowsAt ["name"] i.profile (fields.lookup "profile")

def ShowsInstance (i : Instance) (v : Json) : Prop :=
  ∃ fields, v = .object fields ∧ ShowsInstanceIn i fields

/-! ## Records -/

theorem get_of_showsText (h : ShowsText s (fields.lookup name)) :
    get name (.object fields) = .ok (.ofOption s) := by
  cases s with
  | some s =>
    have hlookup : fields.lookup name = some (.text s) := h
    rw [get, Json.get, hlookup]
    rfl
  | none =>
    rcases h with hlookup | hlookup
    · rw [get, Json.get, hlookup]
      rfl
    · rw [get, Json.get, hlookup]
      rfl

theorem entry_of_lookup {v : Json} (h : fields.lookup name = some v) :
    entry name (.object fields) = .ok v := by
  rw [entry, Json.entry]
  simp only [h]
  rfl

theorem orEmpty_object : (Json.object fields).orEmpty = .object fields := by
  cases fields <;> rfl

theorem showsAt_none (path : List String) : ShowsAt path none none := by
  cases path with
  | nil => exact .inl rfl
  | cons name path => exact .inl ⟨rfl, .inl rfl⟩

/-- One step on a path leads to an object, which is empty where the path breaks off. -/
theorem get_of_showsAt {outer : String} {path : List String}
    (h : ShowsAt (name :: path) s (fields.lookup outer)) :
    ∃ v inner, get outer (.object fields) = .ok v ∧ v.orEmpty = .object inner ∧
      ShowsAt path s (inner.lookup name) := by
  rcases h with ⟨rfl, hnone⟩ | ⟨inner, hlookup, hinner⟩
  · exact ⟨.null, [], get_of_showsText hnone, rfl, showsAt_none path⟩
  · refine ⟨.object inner, inner, ?_, orEmpty_object, hinner⟩
    rw [get, Json.get, hlookup]
    rfl

theorem getInner_of_showsAt {outer inner : String} (h : ShowsAt [inner] s (fields.lookup outer)) :
    getInner outer inner (.object fields) = .ok (.ofOption s) := by
  obtain ⟨v, members, hget, hobject, hinner⟩ := get_of_showsAt h
  rw [getInner, hget]
  change get inner v.orEmpty = _
  rw [hobject]
  exact get_of_showsText hinner

theorem named_of_shows (r : NamedResource) (v : Json) (h : ShowsNamed r v) : named v = .ok r := by
  obtain ⟨fields, rfl, hid, hname⟩ := h
  obtain ⟨id, name⟩ := r
  rw [named, entry_of_lookup hid, get_of_showsText hname]
  cases name <;> rfl

theorem observedInstance_of_shows (i : Instance) (v : Json) (h : ShowsInstance i v) :
    observedInstance v = .ok i := by
  obtain ⟨fields, rfl, h⟩ := h
  obtain ⟨interface, inner, hinterface, hobject, haddress⟩ := get_of_showsAt h.address
  have hname : nameOf (.object fields) = .ok (.text i.name) := by
    have hget : get "name" (.object fields) = .ok (.text i.name) :=
      get_of_showsText (s := some i.name) h.name
    rw [nameOf, hget]
    change Except.ok (if (fields.lookup "name").isSome then _ else _) = _
    rw [h.name, Option.isSome_some, if_pos rfl]
  rw [observedInstance, hinterface]
  change (getInner "primary_ip" "address" interface.orEmpty >>= _) = _
  rw [hobject, getInner_of_showsAt haddress, entry_of_lookup h.id, hname,
    get_of_showsText h.status, getInner_of_showsAt h.zone, getInner_of_showsAt h.profile]
  obtain ⟨id, name, status, address, zone, profile⟩ := i
  cases status <;> cases address <;> cases zone <;> cases profile <;> rfl

/-! ## Pages -/

/-- A link to the next page, if there is one. -/
def ShowsNext (next : Option String) (fields : List (String × Json)) : Prop :=
  match next with
  | some cursor => cursor ≠ "" ∧ ∃ link members, fields.lookup "next" = some (.object members) ∧
      members.lookup "href" = some (.text link) ∧ Link.Carries cursor link
  | none => ShowsText none (fields.lookup "next")

/-- A reply that can be read, with the records of a page under a name and a link to the next page. -/
structure ShowsPage (shows : α → Json → Prop) (name : String) (page : Page α) (reply : Reply) :
    Prop where
  accepted : reply.status < 400
  full : reply.status ≠ 204
  body : ∃ fields records, Json.read reply.body.toList = .ok (.object fields) ∧
    fields.lookup name = some (.array records) ∧ List.Forall₂ shows page.items records ∧
    ShowsNext page.next fields

variable {read : Json → Reading α} {shows : α → Json → Prop} {items : List α} {records : List Json}
  {next : Option String} {page : Page α} {reply : Reply}

theorem mapM_of_shows (hread : ∀ a v, shows a v → read v = .ok a)
    (h : List.Forall₂ shows items records) : records.mapM read = .ok items := by
  induction h with
  | nil => rfl
  | cons hfirst others ih =>
    rw [List.mapM_cons, hread _ _ hfirst, ih]
    rfl

theorem collection_of_shows (hread : ∀ a v, shows a v → read v = .ok a)
    (hrecords : fields.lookup name = some (.array records))
    (h : List.Forall₂ shows items records) : collection read name (.object fields) = .ok items := by
  have hget : get name (.object fields) = .ok (.array records) := by
    rw [get, Json.get, hrecords]
    rfl
  have helements : elements (.array records) = .ok records := by
    cases records <;> rfl
  rw [collection, hget]
  change (elements (.array records) >>= fun found ↦ found.mapM read) = _
  rw [helements]
  exact mapM_of_shows hread h

/-- The cursor is read from the link. -/
theorem nextStart_of_link {members : List (String × Json)} {link : String} {cursor : Option String}
    (hnext : fields.lookup "next" = some (.object members))
    (hhref : members.lookup "href" = some (.text link)) (hlink : link ≠ "")
    (hcursor : Link.value? link "start" = .ok cursor) :
    nextStart (.object fields) = .ok cursor := by
  have hshows : ShowsAt ["href"] (some link) (fields.lookup "next") := .inr ⟨members, hnext, hhref⟩
  have hwritten : (Json.text link).isFalsy = false := by
    apply beq_eq_false_iff_ne.mpr
    rintro rfl
    exact hlink rfl
  rw [nextStart, getInner_of_showsAt hshows]
  change (if (Json.text link).isFalsy then _ else _) = _
  rw [hwritten]
  simp only [hcursor]
  rfl

theorem nextStart_of_shows (h : ShowsNext next fields) : nextStart (.object fields) = .ok next := by
  cases next with
  | none =>
    have hnext : ShowsAt ["href"] none (fields.lookup "next") := .inl ⟨rfl, h⟩
    rw [nextStart, getInner_of_showsAt hnext]
    rfl
  | some cursor =>
    obtain ⟨hfilled, link, members, hnext, hhref, hcarries⟩ := h
    exact nextStart_of_link hnext hhref hcarries.ne_empty (hcarries.value?_eq hfilled)

theorem content_of_read {v : Json} (haccepted : reply.status < 400) (hfull : reply.status ≠ 204)
    (hbody : Json.read reply.body.toList = .ok v) (described : String) :
    content described reply = .ok v := by
  have hwritten : ¬(reply.status = 204 ∨ reply.body = "") := by
    rintro (hempty | hempty)
    · exact hfull hempty
    · rw [hempty] at hbody
      cases hbody
  rw [content, if_neg (Int.not_le.mpr haccepted), if_neg hwritten, hbody]

/-- A page is read from a reply that shows it. -/
theorem ShowsPage.read_eq (hread : ∀ a v, shows a v → read v = .ok a)
    (h : ShowsPage shows name page reply) (described : String) :
    ∃ v, content described reply = .ok v ∧ Rest.page read name v = .ok page := by
  obtain ⟨fields, records, hbody, hrecords, hitems, hnext⟩ := h.body
  refine ⟨.object fields, content_of_read h.accepted h.full hbody described, ?_⟩
  rw [Rest.page, collection_of_shows hread hrecords hitems]
  change (nextStart (.object fields) >>= _) = _
  rw [nextStart_of_shows hnext]
  rfl

/-- An accepted reply with these members. -/
def rendered (fields : List (String × Json)) : Reply := ⟨200, (Json.object fields).render⟩

theorem read_rendered {v : Except Json.Failure Json} (h : Json.read (Json.object fields).write = v) :
    Json.read (rendered fields).body.toList = v := by
  rw [rendered, Json.render, String.toList_ofList]
  exact h

theorem showsPage_rendered (hbody : Json.read (Json.object fields).write = .ok (.object fields))
    (hrecords : fields.lookup name = some (.array records))
    (hitems : List.Forall₂ shows page.items records) (hnext : ShowsNext page.next fields) :
    ShowsPage shows name page (rendered fields) where
  accepted := (by decide : (200 : Int) < 400)
  full := (by decide : (200 : Int) ≠ 204)
  body := ⟨fields, records, read_rendered hbody, hrecords, hitems, hnext⟩

end VpcMachines.Rest
