import Mathlib.Data.List.Forall2
import VpcMachines.Proofs.Rest.Listings
import VpcMachines.Proofs.Rest.Readings

/-!
# Complete listings

A listing that is returned has exactly the records of the reply, in their order, and a reply that is
malformed, if only in one element, is refused (`returned_listing_complete`). Texts and objects can be
walked over as well as arrays, but what such a walk meets are texts, from which no record is read. So
reading a listing succeeds for the replies that list records, and for no others
(`collection_eq_ok_iff`, `malformed_iff`).
-/

namespace VpcMachines.Rest

variable {α β : Type} {fields : List (String × Json)} {name : String} {v : Json}

/-! ## Listings -/

/-- A reply lists exactly these records, in their order: they are shown by the items of the array that
stands under the name, or nothing is listed, and nothing stands there, or what is falsy. -/
def ListsExactly (shows : α → Json → Prop) (name : String) (items : List α) (v : Json) : Prop :=
  ∃ fields, v = .object fields ∧
    ((∃ records, fields.lookup name = some (.array records) ∧ List.Forall₂ shows items records) ∨
      items = [] ∧ ∀ w, fields.lookup name = some w → w.isFalsy = true)

/-- The ways in which a reply is malformed as a listing: it is no object, what stands under the name is no
array, or an item of it shows no record. -/
inductive Malformed (shows : α → Json → Prop) (name : String) : Json → Prop where
  | body {v : Json} (hbody : ∀ fields, v ≠ .object fields) : Malformed shows name v
  | field {fields : List (String × Json)} {w : Json} (hlookup : fields.lookup name = some w)
      (hfilled : w.isFalsy = false) (harray : ∀ records, w ≠ .array records) :
      Malformed shows name (.object fields)
  | element {fields : List (String × Json)} {records : List Json} {record : Json}
      (hlookup : fields.lookup name = some (.array records)) (hmem : record ∈ records)
      (hrecord : ∀ a, ¬shows a record) : Malformed shows name (.object fields)

variable {shows : α → Json → Prop} {read : Json → Reading α} {items : List α} {records : List Json}

theorem mapM_eq_ok_iff (hread : ∀ v a, read v = .ok a ↔ shows a v) :
    records.mapM read = .ok items ↔ List.Forall₂ shows items records := by
  constructor
  · intro h
    induction records generalizing items with
    | nil =>
      cases h
      exact .nil
    | cons record records ih =>
      rw [List.mapM_cons] at h
      obtain ⟨a, ha, hothers⟩ := bind_eq_ok_iff.mp h
      obtain ⟨others, hmap, hitems⟩ := bind_eq_ok_iff.mp hothers
      cases hitems
      exact .cons ((hread _ _).mp ha) (ih hmap)
  · exact mapM_of_shows fun a v ↦ (hread v a).mpr

/-- Records are objects, so neither characters nor names of members are taken for them. -/
def AreObjects (shows : α → Json → Prop) : Prop := ∀ a v, shows a v → ∃ fields, v = .object fields

theorem elements_of_falsy (h : v.isFalsy = true) : elements v = .ok [] := by
  unfold elements Json.elements
  rw [if_pos h]
  rfl

/-- What is falsy has no items, an array has its own, and what else has items has texts. -/
theorem elements_cases (v : Json) :
    (v.isFalsy = true ∧ elements v = .ok []) ∨
      (∃ records, v = .array records ∧ elements v = .ok records) ∨
      ∀ found, elements v = .ok found → ∃ s others, found = .text s :: others := by
  by_cases hfalsy : v.isFalsy = true
  · exact .inl ⟨hfalsy, elements_of_falsy hfalsy⟩
  refine .inr ?_
  unfold elements Json.elements
  rw [if_neg hfalsy]
  cases v with
  | array records => exact .inl ⟨records, rfl, rfl⟩
  | text s =>
    refine .inr fun found hfound ↦ ?_
    cases hchars : s.toList with
    | nil =>
      cases String.toList_eq_nil_iff.mp hchars
      exact absurd rfl hfalsy
    | cons c rest =>
      simp only [hchars] at hfound
      cases hfound
      exact ⟨_, _, rfl⟩
  | object fields =>
    refine .inr fun found hfound ↦ ?_
    cases fields with
    | nil => exact absurd rfl hfalsy
    | cons field fields =>
      cases hfound
      exact ⟨_, _, rfl⟩
  | _ => exact .inr nofun

theorem collection_eq_ok_iff (hread : ∀ v a, read v = .ok a ↔ shows a v)
    (hobjects : AreObjects shows) :
    collection read name v = .ok items ↔ ListsExactly shows name items v := by
  constructor
  · intro h
    obtain ⟨w, hget, hrest⟩ := bind_eq_ok_iff.mp h
    obtain ⟨found, hfound, hitems⟩ := bind_eq_ok_iff.mp hrest
    obtain ⟨fields, rfl, rfl⟩ := get_eq_ok_iff.mp hget
    refine ⟨fields, rfl, ?_⟩
    rcases elements_cases ((fields.lookup name).getD .null) with
      ⟨hfalsy, hnone⟩ | ⟨records, harray, hrecords⟩ | htexts
    · rw [hnone] at hfound
      cases hfound
      cases hitems
      refine .inr ⟨rfl, fun w hw ↦ ?_⟩
      rwa [hw, Option.getD_some] at hfalsy
    · rw [hrecords] at hfound
      cases hfound
      refine .inl ⟨found, ?_, (mapM_eq_ok_iff hread).mp hitems⟩
      cases hlookup : fields.lookup name with
      | none =>
        rw [hlookup] at harray
        cases harray
      | some w =>
        rw [hlookup] at harray
        exact congrArg some harray
    · obtain ⟨s, others, rfl⟩ := htexts found hfound
      cases (mapM_eq_ok_iff hread).mp hitems with
      | cons hfirst _ =>
        obtain ⟨fields, htext⟩ := hobjects _ _ hfirst
        cases htext
  · rintro ⟨fields, rfl, ⟨records, hlookup, hitems⟩ | ⟨rfl, hfalsy⟩⟩
    · exact collection_of_shows (fun a v ↦ (hread v a).mpr) hlookup hitems
    · have hnone : elements ((fields.lookup name).getD .null) = .ok [] := by
        have hw : ((fields.lookup name).getD .null).isFalsy = true := by
          cases hlookup : fields.lookup name with
          | none => rfl
          | some w => exact hfalsy w hlookup
        exact elements_of_falsy hw
      change (elements ((fields.lookup name).getD .null) >>= fun found ↦ found.mapM read) = _
      rw [hnone]
      rfl

theorem exists_items_iff :
    (∃ items, List.Forall₂ shows items records) ↔ ∀ record ∈ records, ∃ a, shows a record := by
  induction records with
  | nil => exact ⟨fun _ ↦ List.forall_mem_nil _, fun _ ↦ ⟨[], .nil⟩⟩
  | cons record records ih =>
    rw [List.forall_mem_cons, ← ih]
    constructor
    · rintro ⟨_, _ | ⟨hfirst, hothers⟩⟩
      exact ⟨⟨_, hfirst⟩, _, hothers⟩
    · rintro ⟨⟨a, ha⟩, items, hitems⟩
      exact ⟨a :: items, .cons ha hitems⟩

/-- A reply is malformed if it lists no records, and not even none. -/
theorem malformed_iff : Malformed shows name v ↔ ∀ items, ¬ListsExactly shows name items v := by
  constructor
  · rintro h items ⟨fields, rfl, hlists⟩
    cases h with
    | body hbody => exact hbody fields rfl
    | field hlookup hfilled harray =>
      rcases hlists with ⟨records, hrecords, _⟩ | ⟨_, hfalsy⟩
      · exact harray records (Option.some.inj (hlookup.symm.trans hrecords))
      · rw [hfalsy _ hlookup] at hfilled
        cases hfilled
    | element hlookup hmem hrecord =>
      rcases hlists with ⟨listed, hlisted, hshows⟩ | ⟨_, hfalsy⟩
      · cases hlookup.symm.trans hlisted
        obtain ⟨a, ha⟩ := exists_items_iff.mp ⟨items, hshows⟩ _ hmem
        exact hrecord a ha
      · cases List.isEmpty_iff.mp (hfalsy _ hlookup)
        cases hmem
  · intro h
    cases v with
    | object fields =>
      cases hlookup : fields.lookup name with
      | none => exact absurd ⟨fields, rfl, .inr ⟨rfl, by simp [hlookup]⟩⟩ (h [])
      | some w =>
        by_cases hfalsy : w.isFalsy = true
        · exact absurd ⟨fields, rfl, .inr ⟨rfl, by simpa [hlookup] using hfalsy⟩⟩ (h [])
        by_cases harray : ∃ records, w = .array records
        · obtain ⟨records, rfl⟩ := harray
          by_contra hsound
          have hall : ∀ record ∈ records, ∃ a, shows a record := by
            intro record hmem
            by_contra hrecord
            exact hsound (.element hlookup hmem (not_exists.mp hrecord))
          obtain ⟨items, hitems⟩ := exists_items_iff.mpr hall
          exact h items ⟨fields, rfl, .inl ⟨records, hlookup, hitems⟩⟩
        · exact .field hlookup (Bool.eq_false_iff.mpr hfalsy) (not_exists.mp harray)
    | _ => exact .body nofun

/-! ## Calls -/

/-- A call that lists records by one request. What it returns has exactly the records of the reply, in
their order, and it fails if the reply is malformed. -/
structure IsComplete (c : Connection) (call : Program Http β) (path : String)
    (filters : List (String × Option String)) (shows : α → Json → Prop) (name : String)
    (has : β → List α → Prop) : Prop where
  asked : c.token ≠ "" → ∀ answer, ∃ o, call.Runs [⟨c.request .get path filters none, answer⟩] o
  returned : ∀ t b, call.Runs t (.returned b) → ∃ reply v items,
    t = [⟨c.request .get path filters none, .ok reply⟩] ∧ content s!"GET {path}" reply = .ok v ∧
      has b items ∧ ListsExactly shows name items v
  failed : ∀ reply v, content s!"GET {path}" reply = .ok v → Malformed shows name v → ∀ o,
    call.Runs [⟨c.request .get path filters none, .ok reply⟩] o → ∃ fault, o = .failed fault

variable {c : Connection} {path : String} {filters : List (String × Option String)}
  {readAll : Json → Reading β} {has : β → List α → Prop}

theorem fetch_of_no_token (htoken : c.token = "") : fetch c path filters = .fail .noToken := by
  rw [fetch, exchange, if_pos htoken]

theorem reply_of_runs_fetch {t : List (Event Http)} (h : (fetch c path filters).Runs t (.returned v)) :
    ∃ reply, t = [⟨c.request .get path filters none, .ok reply⟩] ∧
      content s!"GET {path}" reply = .ok v := by
  have htoken : c.token ≠ "" := by
    intro htoken
    rw [fetch_of_no_token htoken] at h
    cases (Program.runs_fail_iff.mp h).2
  obtain ⟨answer, rfl, hcontent⟩ := runs_exchange htoken h
  cases answer with
  | ok reply =>
    have hv : Except.ok v = content s!"GET {path}" reply := Outcome.ofExcept_inj (hcontent reply rfl)
    exact ⟨reply, rfl, hv.symm⟩
  | error cause =>
    generalize ho : Outcome.returned v = o at h
    cases exchangeRun_of_runs h
    cases ho

theorem isComplete_of_read (hread : ∀ v a, read v = .ok a ↔ shows a v) (hobjects : AreObjects shows)
    (hhas : ∀ v b, readAll v = .ok b → ∃ items, collection read name v = .ok items ∧ has b items) :
    IsComplete c (fetch c path filters >>= fun v ↦ Program.ofExcept (readAll v)) path filters shows
      name has := by
  refine ⟨fun htoken answer ↦ ?_, fun t b h ↦ ?_, fun reply v hcontent hmalformed o h ↦ ?_⟩
  · let fixed : Handler Http Unit := ⟨fun _ s ↦ (answer, s)⟩
    have hruns := Program.runs_trace fixed
      (fetch c path filters >>= fun v ↦ Program.ofExcept (readAll v)) ()
    obtain ⟨answer', htrace, -⟩ := runs_fetch_read htoken hruns
    have hevent : ⟨c.request .get path filters none, answer'⟩ ∈ Program.trace fixed
        (fetch c path filters >>= fun v ↦ Program.ofExcept (readAll v)) () := by
      rw [htrace]
      exact List.mem_singleton_self _
    obtain ⟨_, rfl⟩ := Program.exists_answer_of_mem_trace hevent
    rw [htrace] at hruns
    exact ⟨_, hruns⟩
  · obtain ⟨_, v, _, rfl, hfetch, hread'⟩ := Program.runs_bind_returned_iff.mp h
    obtain ⟨reply, rfl, hcontent⟩ := reply_of_runs_fetch hfetch
    obtain ⟨rfl, hb⟩ := Program.runs_ofExcept_iff.mp hread'
    have hb : Except.ok b = readAll v := Outcome.ofExcept_inj hb
    obtain ⟨items, hitems, hhas⟩ := hhas v b hb.symm
    exact ⟨reply, v, items, rfl, hcontent, hhas, (collection_eq_ok_iff hread hobjects).mp hitems⟩
  · have htoken : c.token ≠ "" := by
      intro htoken
      rw [fetch_of_no_token htoken] at h
      cases (Program.runs_fail_iff.mp h).1
    obtain ⟨answer, htrace, hrest⟩ := runs_fetch_read htoken h
    cases htrace
    rw [hrest reply rfl, hcontent]
    cases hall : readAll v with
    | ok b =>
      obtain ⟨items, hitems, -⟩ := hhas v b hall
      exact absurd ((collection_eq_ok_iff hread hobjects).mp hitems) (malformed_iff.mp hmalformed items)
    | error fault => exact ⟨fault, congrArg Outcome.ofExcept hall⟩

theorem isComplete_page (hread : ∀ v a, read v = .ok a ↔ shows a v) (hobjects : AreObjects shows) :
    IsComplete c (fetch c path filters >>= fun v ↦ Program.ofExcept (page read name v)) path filters
      shows name fun found items ↦ found.items = items := by
  refine isComplete_of_read hread hobjects fun v found hpage ↦ ?_
  obtain ⟨items, hitems, hrest⟩ := bind_eq_ok_iff.mp hpage
  obtain ⟨next, -, hfound⟩ := bind_eq_ok_iff.mp hrest
  cases hfound
  exact ⟨items, hitems, rfl⟩

theorem isComplete_namedPage (start : Option String) :
    IsComplete c (namedPage c name start) s!"/{name}" [("start", start)] ShowsNamed name
      fun found items ↦ found.items = items :=
  isComplete_page named_eq_ok_iff fun _ _ ⟨fields, hv, _⟩ ↦ ⟨fields, hv⟩

/-- A listing that is returned is complete: it has exactly the records of the array in the reply, in their
order. A reply that is malformed, if only in one element, makes the call fail. -/
theorem returned_listing_complete (c : Connection) (pages : Nat) :
    let instances := fun i v ↦ ∃ fields, v = .object fields ∧ ReportsInstance i fields
    let members := fun m v ↦ ∃ fields, v = .object fields ∧ ReportsMember m fields
    (∀ name start, IsComplete c (serve c pages (.listInstances name start)) "/instances"
      [("name", name), ("start", start)] instances "instances" fun found items ↦ found.items = items) ∧
    (∀ start, IsComplete c (serve c pages (.listImages start)) "/images" [("start", start)] ShowsNamed
      "images" fun found items ↦ found.items = items) ∧
    (∀ start, IsComplete c (serve c pages (.listKeys start)) "/keys" [("start", start)] ShowsNamed
      "keys" fun found items ↦ found.items = items) ∧
    (∀ start, IsComplete c (namedPage c "subnets" start) "/subnets" [("start", start)] ShowsNamed
      "subnets" fun found items ↦ found.items = items) ∧
    (∀ start, IsComplete c (namedPage c "security_groups" start) "/security_groups"
      [("start", start)] ShowsNamed "security_groups" fun found items ↦ found.items = items) ∧
    ∀ loadBalancer pool, IsComplete c (serve c pages (.listPoolMembers loadBalancer pool))
      s!"/load_balancers/{loadBalancer}/pools/{pool}/members" [] members "members"
      fun found items ↦ found = some items := by
  intro instances members
  refine ⟨fun name start ↦ ?_, isComplete_namedPage, isComplete_namedPage, isComplete_namedPage,
    isComplete_namedPage, fun loadBalancer pool ↦ ?_⟩
  · exact isComplete_page observedInstance_eq_ok_iff fun _ _ ⟨fields, hv, _⟩ ↦ ⟨fields, hv⟩
  · rw [serve]
    simp only [map_ofExcept]
    refine isComplete_of_read member_eq_ok_iff (fun _ _ ⟨fields, hv, _⟩ ↦ ⟨fields, hv⟩)
      fun v found hfound ↦ ?_
    cases hitems : collection member "members" v with
    | ok items =>
      rw [hitems] at hfound
      exact ⟨items, rfl, (Except.ok.inj hfound).symm⟩
    | error fault =>
      rw [hitems] at hfound
      cases hfound

/-- Two images, the second without a name. -/
def soundMembers : List (String × Json) :=
  [("images", .array [.object [("id", .text "r-1"), ("name", .text "a")], .object [("id", .text "r-2")]])]

/-- Two images, the second without an ID. -/
def brokenMembers : List (String × Json) :=
  [("images", .array [.object [("id", .text "r-1")], .object [("name", .text "b")]])]

theorem images_listed_in_full_or_refused :
    let call := serve plainConnection 1 (.listImages none)
    let event := fun fields ↦
      (⟨plainConnection.request .get "/images" [("start", none)] none, .ok (rendered fields)⟩ : Event Http)
    (∃ found, call.Runs [event soundMembers] (.returned found) ∧
      ListsExactly ShowsNamed "images" found.items (.object soundMembers)) ∧
      ∃ fault, call.Runs [event brokenMembers] (.failed fault) := by
  intro call event
  have hcontent (described : String) {fields : List (String × Json)}
      (hbody : Json.read (Json.object fields).write = .ok (.object fields)) :
      content described (rendered fields) = .ok (.object fields) :=
    content_of_read (by decide : (200 : Int) < 400) (by decide : (200 : Int) ≠ 204)
      (read_rendered hbody) described
  have hsound : Json.read (Json.object soundMembers).write = .ok (.object soundMembers) := by
    decide +kernel
  have hbroken : Json.read (Json.object brokenMembers).write = .ok (.object brokenMembers) := by
    decide +kernel
  obtain ⟨-, himages, -⟩ := returned_listing_complete plainConnection 1
  have hcomplete := himages none
  constructor
  · obtain ⟨o, hruns⟩ := hcomplete.asked (by decide) (.ok (rendered soundMembers))
    obtain ⟨answer, htrace, hrest⟩ := runs_fetch_read (by decide) hruns
    cases htrace
    obtain rfl : o = .returned ⟨[⟨"r-1", some "a"⟩, ⟨"r-2", none⟩], none⟩ := by
      rw [hrest _ rfl, hcontent _ hsound]
      rfl
    obtain ⟨reply, v, items, htrace, hv, rfl, hlists⟩ := hcomplete.returned _ _ hruns
    cases htrace
    cases (hcontent _ hsound).symm.trans hv
    exact ⟨_, hruns, hlists⟩
  · obtain ⟨o, hruns⟩ := hcomplete.asked (by decide) (.ok (rendered brokenMembers))
    have hnamed : ∀ r, ¬ShowsNamed r (.object [("name", .text "b")]) := by
      rintro r ⟨fields, hv, hid, -⟩
      cases hv
      cases hid
    have hmalformed : Malformed ShowsNamed "images" (.object brokenMembers) :=
      .element rfl (List.mem_cons_of_mem _ (List.mem_singleton_self _)) hnamed
    obtain ⟨fault, rfl⟩ := hcomplete.failed _ _ (hcontent _ hbroken) hmalformed o hruns
    exact ⟨fault, hruns⟩

end VpcMachines.Rest
