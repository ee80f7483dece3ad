import VpcMachines.Proofs.Rest.Records
import VpcMachines.Proofs.Schema.Acceptance

/-!
# When a record is read

A record is read from a reply exactly if the JSON shows it (`named_eq_ok_iff`, `observedInstance_eq_ok_iff`,
`member_eq_ok_iff`). The steps of reading are inverted one by one: a member of an object, a member of a
member, and the fields that the rules of the model accept. A path ends at what is missing or falsy, and
then there is no text behind it.
-/

namespace VpcMachines.Rest

open Schema Schema.Verdict

variable {α β : Type} {fields : List (String × Json)} {s : Option String} {name : String} {v : Json}

/-! ## Fields that are accepted -/

theorem textOrNull_eq_accepted_iff : textOrNull (.ofJson v) = .accepted s ↔ ShowsText s (some v) := by
  rw [textOrNull, nullable_eq_accepted_iff nofun]
  cases s <;> simp [ShowsText, text_eq_accepted_iff]

/-- An integer in any of its spellings, or nothing or null in its place. -/
def ShowsInteger : Option Int → Option Json → Prop
  | some n, v => ∃ w, v = some w ∧ Schema.integer (.ofJson w) = .accepted n
  | none, v => v = none ∨ v = some .null

theorem integerOrNull_eq_accepted_iff {n : Option Int} :
    Check.nullable Schema.integer (.ofJson v) = .accepted n ↔ ShowsInteger n (some v) := by
  rw [nullable_eq_accepted_iff nofun]
  cases n <;> simp [ShowsInteger]

/-! ## What is read of an object -/

theorem bind_eq_ok_iff {x : Reading α} {f : α → Reading β} {b : β} :
    x >>= f = .ok b ↔ ∃ a, x = .ok a ∧ f a = .ok b := by
  cases x with
  | ok a => exact ⟨fun h ↦ ⟨a, rfl, h⟩, fun ⟨_, ha, h⟩ ↦ by cases ha; exact h⟩
  | error fault => exact ⟨nofun, fun ⟨_, ha, _⟩ ↦ by cases ha⟩

theorem get_eq_ok_iff {w : Json} :
    get name v = .ok w ↔ ∃ fields, v = .object fields ∧ w = (fields.lookup name).getD .null := by
  cases v <;> simp [get, Json.get, shaped, eq_comm]

theorem entry_eq_ok_iff {w : Json} :
    entry name v = .ok w ↔ ∃ fields, v = .object fields ∧ fields.lookup name = some w := by
  cases v with
  | object fields => cases hlookup : fields.lookup name <;> simp [entry, Json.entry, shaped, hlookup]
  | _ => simp [entry, Json.entry, shaped]

theorem build_eq_ok_iff {model : String} {check : Check α} {fields : List (String × Json)} {a : α} :
    build model check fields = .ok a ↔ check (.record (Datum.ofFields fields)) = .accepted a := by
  rw [build]
  cases check (.record (Datum.ofFields fields)) <;> simp [judged]

theorem showsText_getD : ShowsText s (some ((fields.lookup name).getD .null)) ↔
    ShowsText s (fields.lookup name) := by
  cases fields.lookup name <;> cases s <;> simp [ShowsText]

theorem showsInteger_getD {n : Option Int} :
    ShowsInteger n (some ((fields.lookup name).getD .null)) ↔ ShowsInteger n (fields.lookup name) := by
  have hnull : ∀ n, Schema.integer (.ofJson .null) ≠ .accepted n := nofun
  cases fields.lookup name <;> cases n <;> simp [ShowsInteger, hnull]

/-- A text at the end of a path through objects. What is missing or falsy ends the path, and there is no
text behind it. -/
def LiesAt : List String → Option String → Option Json → Prop
  | [], s, v => ShowsText s v
  | name :: path, s, v =>
    s = none ∧ (∀ w, v = some w → w.isFalsy = true) ∨
      ∃ fields, v = some (.object fields) ∧ LiesAt path s (fields.lookup name)

theorem liesAt_none_iff (path : List String) : LiesAt path s none ↔ s = none := by
  cases path with
  | nil => cases s <;> simp [LiesAt, ShowsText]
  | cons name path => simp [LiesAt]

theorem orEmpty_eq_object_iff {members : List (String × Json)} :
    v.orEmpty = .object members ↔ v.isFalsy = true ∧ members = [] ∨ v = .object members := by
  rw [Json.orEmpty]
  split
  · case isTrue hfalsy =>
    constructor
    · intro h
      cases h
      exact .inl ⟨hfalsy, rfl⟩
    · rintro (⟨-, rfl⟩ | rfl)
      · rfl
      · cases List.isEmpty_iff.mp hfalsy
        rfl
  · case isFalse hfilled => simp [hfilled]

/-- One step on a path leads to an object, which is empty where the path ends. -/
theorem liesAt_cons_iff {v : Option Json} {path : List String} :
    LiesAt (name :: path) s v ↔
      ∃ members, (v.getD .null).orEmpty = .object members ∧ LiesAt path s (members.lookup name) := by
  have hnull : (Json.null).isFalsy = true := rfl
  cases v with
  | none => simp [LiesAt, orEmpty_eq_object_iff, hnull, liesAt_none_iff]
  | some w =>
    simp [LiesAt, orEmpty_eq_object_iff, liesAt_none_iff, or_and_right, exists_or, and_comm]

theorem getInner_eq_ok_iff {outer inner : String} {w : Json} :
    getInner outer inner v = .ok w ↔
      ∃ fields members, v = .object fields ∧
        ((fields.lookup outer).getD .null).orEmpty = .object members ∧
        w = (members.lookup inner).getD .null := by
  simp only [getInner, bind_eq_ok_iff, get_eq_ok_iff]
  constructor
  · rintro ⟨_, ⟨fields, rfl, rfl⟩, members, hobject, rfl⟩
    exact ⟨fields, members, rfl, hobject, rfl⟩
  · rintro ⟨fields, members, rfl, hobject, rfl⟩
    exact ⟨_, ⟨fields, rfl, rfl⟩, members, hobject, rfl⟩

theorem liesAt_of_getInner {outer inner : String} {w : Json}
    (hget : getInner outer inner (.object fields) = .ok w) (hshows : ShowsText s (some w)) :
    LiesAt [inner] s (fields.lookup outer) := by
  obtain ⟨_, members, hfields, hobject, rfl⟩ := getInner_eq_ok_iff.mp hget
  cases hfields
  exact liesAt_cons_iff.mpr ⟨members, hobject, showsText_getD.mp hshows⟩

theorem exists_getInner_of_liesAt {outer inner : String} (h : LiesAt [inner] s (fields.lookup outer)) :
    ∃ w, getInner outer inner (.object fields) = .ok w ∧ ShowsText s (some w) := by
  obtain ⟨members, hobject, hshows⟩ := liesAt_cons_iff.mp h
  exact ⟨_, getInner_eq_ok_iff.mpr ⟨fields, members, rfl, hobject, rfl⟩, showsText_getD.mpr hshows⟩

/-! ## Records -/

theorem build_named_iff {id name : Json} {r : NamedResource} :
    build "NamedResource" NamedResource.check [("id", id), ("name", name)] = .ok r ↔
      id = .text r.id ∧ ShowsText r.name (some name) := by
  rw [build_eq_ok_iff]
  change NamedResource.mk <$> (text (.ofJson id)).under _ <*> (textOrNull (.ofJson name)).under _ =
    _ ↔ _
  simp only [seq_eq_accepted_iff, map_eq_accepted_iff, under_eq_accepted_iff, text_eq_accepted_iff,
    textOrNull_eq_accepted_iff]
  constructor
  · rintro ⟨_, name, ⟨id, hid, rfl⟩, hname, rfl⟩
    exact ⟨hid, hname⟩
  · rintro ⟨hid, hname⟩
    exact ⟨_, _, ⟨_, hid, rfl⟩, hname, rfl⟩

theorem named_eq_ok_iff (v : Json) (r : NamedResource) : named v = .ok r ↔ ShowsNamed r v := by
  simp only [named, bind_eq_ok_iff, build_named_iff, entry_eq_ok_iff, get_eq_ok_iff]
  constructor
  · rintro ⟨_, ⟨fields, rfl, hid⟩, _, ⟨_, hobject, rfl⟩, rfl, hname⟩
    cases hobject
    exact ⟨fields, rfl, hid, showsText_getD.mp hname⟩
  · rintro ⟨fields, rfl, hid, hname⟩
    exact ⟨_, ⟨fields, rfl, hid⟩, _, ⟨fields, rfl, rfl⟩, rfl, showsText_getD.mpr hname⟩

/-- The members of an object report an instance. A name that is missing is empty. -/
structure ReportsInstance (i : Instance) (fields : List (String × Json)) : Prop where
  id : fields.lookup "id" = some (.text i.id)
  name : fields.lookup "name" = some (.text i.name) ∨ fields.lookup "name" = none ∧ i.name = ""
  status : ShowsText i.status (fields.lookup "status")
  address : LiesAt ["primary_ip", "address"] i.primaryAddress
    (fields.lookup "primary_network_interface")
  zone : LiesAt ["name"] i.zone (fields.lookup "zone")
  profile : LiesAt ["name"] i.profile (fields.lookup "profile")

theorem build_instance_iff {id name status address zone profile : Json} {i : Instance} :
    build "ObservedInstance" Instance.check
        [("id", id), ("name", name), ("status", status), ("primary_address", address), ("zone", zone),
          ("profile", profile)] = .ok i ↔
      id = .text i.id ∧ name = .text i.name ∧ ShowsText i.status (some status) ∧
        ShowsText i.primaryAddress (some address) ∧ ShowsText i.zone (some zone) ∧
        ShowsText i.profile (some profile) := by
  rw [build_eq_ok_iff]
  change Instance.mk <$> (text (.ofJson id)).under _ <*> (text (.ofJson name)).under _
    <*> (textOrNull (.ofJson status)).under _ <*> (textOrNull (.ofJson address)).under _
    <*> (textOrNull (.ofJson zone)).under _ <*> (textOrNull (.ofJson profile)).under _ = _ ↔ _
  simp only [seq_eq_accepted_iff, map_eq_accepted_iff, under_eq_accepted_iff, text_eq_accepted_iff,
    textOrNull_eq_accepted_iff]
  constructor
  · rintro ⟨_, profile, ⟨_, zone, ⟨_, address, ⟨_, status, ⟨_, name, ⟨id, hid, rfl⟩, hname, rfl⟩,
      hstatus, rfl⟩, haddress, rfl⟩, hzone, rfl⟩, hprofile, rfl⟩
    exact ⟨hid, hname, hstatus, haddress, hzone, hprofile⟩
  · rintro ⟨hid, hname, hstatus, haddress, hzone, hprofile⟩
    exact ⟨_, _, ⟨_, _, ⟨_, _, ⟨_, _, ⟨_, _, ⟨_, hid, rfl⟩, hname, rfl⟩, hstatus, rfl⟩, haddress, rfl⟩,
      hzone, rfl⟩, hprofile, rfl⟩

theorem nameOf_eq_ok_iff {s : String} :
    nameOf (.object fields) = .ok (.text s) ↔
      fields.lookup "name" = some (.text s) ∨ fields.lookup "name" = none ∧ s = "" := by
  have hname : nameOf (.object fields) = .ok
      (if (fields.lookup "name").isSome then (fields.lookup "name").getD .null else .text "") := rfl
  rw [hname]
  cases fields.lookup "name" <;> simp [eq_comm]

theorem observedInstance_eq_ok_iff (v : Json) (i : Instance) :
    observedInstance v = .ok i ↔ ∃ fields, v = .object fields ∧ ReportsInstance i fields := by
  simp only [observedInstance, bind_eq_ok_iff, build_instance_iff]
  constructor
  · rintro ⟨interface, hinterface, address, haddress, id, hid, name, hname, status, hstatus, zone,
      hzone, profile, hprofile, rfl, rfl, hstatus', haddress', hzone', hprofile'⟩
    obtain ⟨fields, rfl, rfl⟩ := get_eq_ok_iff.mp hinterface
    refine ⟨fields, rfl, ?_, nameOf_eq_ok_iff.mp hname, ?_, ?_, liesAt_of_getInner hzone hzone',
      liesAt_of_getInner hprofile hprofile'⟩
    · obtain ⟨_, hfields, hid⟩ := entry_eq_ok_iff.mp hid
      cases hfields
      exact hid
    · obtain rfl := Except.ok.inj hstatus
      exact showsText_getD.mp hstatus'
    · obtain ⟨members, _, hobject, _⟩ := getInner_eq_ok_iff.mp haddress
      rw [hobject] at haddress
      exact liesAt_cons_iff.mpr ⟨members, hobject, liesAt_of_getInner haddress haddress'⟩
  · rintro ⟨fields, rfl, h⟩
    obtain ⟨members, hobject, haddress⟩ := liesAt_cons_iff.mp h.address
    obtain ⟨address, hinner, haddress⟩ := exists_getInner_of_liesAt haddress
    obtain ⟨zone, hzone, hzone'⟩ := exists_getInner_of_liesAt h.zone
    obtain ⟨profile, hprofile, hprofile'⟩ := exists_getInner_of_liesAt h.profile
    exact ⟨_, rfl, address, hobject ▸ hinner, _, entry_of_lookup h.id, _, nameOf_eq_ok_iff.mpr h.name,
      _, rfl, zone, hzone, profile, hprofile, rfl, rfl, showsText_getD.mpr h.status, haddress, hzone',
      hprofile'⟩

/-- The members of an object report a member of a pool. -/
structure ReportsMember (m : PoolMember) (fields : List (String × Json)) : Prop where
  id : fields.lookup "id" = some (.text m.id)
  address : LiesAt ["address"] m.address (fields.lookup "target")
  port : ShowsInteger m.port (fields.lookup "port")
  health : ShowsText m.health (fields.lookup "health")

theorem build_member_iff {id address port health : Json} {m : PoolMember} :
    build "PoolMember" PoolMember.check
        [("id", id), ("address", address), ("port", port), ("health", health)] = .ok m ↔
      id = .text m.id ∧ ShowsText m.address (some address) ∧ ShowsInteger m.port (some port) ∧
        ShowsText m.health (some health) := by
  rw [build_eq_ok_iff]
  change PoolMember.mk <$> (text (.ofJson id)).under _ <*> (textOrNull (.ofJson address)).under _
    <*> (Check.nullable Schema.integer (.ofJson port)).under _
    <*> (textOrNull (.ofJson health)).under _ = _ ↔ _
  simp only [seq_eq_accepted_iff, map_eq_accepted_iff, under_eq_accepted_iff, text_eq_accepted_iff,
    textOrNull_eq_accepted_iff, integerOrNull_eq_accepted_iff]
  constructor
  · rintro ⟨_, health, ⟨_, port, ⟨_, address, ⟨id, hid, rfl⟩, haddress, rfl⟩, hport, rfl⟩, hhealth, rfl⟩
    exact ⟨hid, haddress, hport, hhealth⟩
  · rintro ⟨hid, haddress, hport, hhealth⟩
    exact ⟨_, _, ⟨_, _, ⟨_, _, ⟨_, hid, rfl⟩, haddress, rfl⟩, hport, rfl⟩, hhealth, rfl⟩

theorem member_eq_ok_iff (v : Json) (m : PoolMember) :
    member v = .ok m ↔ ∃ fields, v = .object fields ∧ ReportsMember m fields := by
  simp only [member, bind_eq_ok_iff, build_member_iff]
  constructor
  · rintro ⟨id, hid, address, haddress, port, hport, health, hhealth, rfl, haddress', hport', hhealth'⟩
    obtain ⟨fields, rfl, hlookup⟩ := entry_eq_ok_iff.mp hid
    obtain rfl := Except.ok.inj hport
    obtain rfl := Except.ok.inj hhealth
    exact ⟨fields, rfl, hlookup, liesAt_of_getInner haddress haddress', showsInteger_getD.mp hport',
      showsText_getD.mp hhealth'⟩
  · rintro ⟨fields, rfl, h⟩
    obtain ⟨address, haddress, haddress'⟩ := exists_getInner_of_liesAt h.address
    exact ⟨_, entry_of_lookup h.id, address, haddress, _, rfl, _, rfl, rfl, haddress',
      showsInteger_getD.mpr h.port, showsText_getD.mpr h.health⟩

end VpcMachines.Rest
