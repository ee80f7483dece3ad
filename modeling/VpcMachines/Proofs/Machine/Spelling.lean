import VpcMachines.Machine.Basic
import VpcMachines.Proofs.Rest.Readings

/-!
# Spellings of references

Where a specification of a machine refers to a resource, a bare text is short for an object with this text
as the name. Spelling all of them out leaves the verdict on the specification as it is, be it a specification
or a list of issues, and every list of references that is accepted has a reference for each of its elements,
in their order (`bare_text_is_reference_by_name`).

A rule overlooks a rewriting if it cannot tell values from rewritten ones. Lists overlook what the rule for
their items does, and records what the rule for the rewritten member does.
-/

namespace VpcMachines

namespace Json

/-- A field of that name with its value rewritten; any other field as it is. -/
def onField (name : String) (f : Json → Json) (field : String × Json) : String × Json :=
  if field.1 = name then (field.1, f field.2) else field

/-- An object with the member of that name rewritten; any other value as it is. -/
def mapMember (name : String) (f : Json → Json) : Json → Json
  | .object fields => .object (fields.map (onField name f))
  | v => v

/-- An array with its elements rewritten; any other value as it is. -/
def mapElements (f : Json → Json) : Json → Json
  | .array items => .array (items.map f)
  | v => v

theorem lookup_onField (f : Json → Json) (fields : List (String × Json)) (name other : String) :
    (fields.map (onField other f)).lookup name =
      if name = other then (fields.lookup name).map f else fields.lookup name := by
  induction fields with
  | nil => simp
  | cons field rest ih =>
    obtain ⟨key, v⟩ := field
    by_cases hkey : name = key
    · by_cases hother : name = other <;> simp [onField, ← hkey, hother]
    · -- The head is passed over, rewritten or not.
      have hhead : (onField other f (key, v)).1 = key := by
        unfold onField
        split <;> rfl
      have hmiss : (name == key) = false := beq_eq_false_iff_ne.mpr hkey
      have hrewritten : (name == (onField other f (key, v)).1) = false := by rw [hhead, hmiss]
      rw [List.map_cons, List.lookup_cons, hrewritten, List.lookup_cons, hmiss]
      exact ih

end Json

namespace Schema

variable {α : Type} {check : Check α} {f : Json → Json} {name other : String}
  {fields : List (String × Json)}

/-- A rule cannot tell a value from what it is rewritten to. -/
def Overlooks (check : Check α) (f : Json → Json) : Prop :=
  ∀ v, check (.ofJson (f v)) = check (.ofJson v)

theorem required_eq {given : List (String × Datum)} :
    required given name check =
      (((given.lookup name).map check).map (Verdict.under (.field name))).getD
        (.rejected [⟨[.field name], .missing⟩]) := by
  unfold required
  cases given.lookup name <;> rfl

theorem optional_eq {given : List (String × Datum)} {default : α} :
    optional given name default check =
      (((given.lookup name).map check).map (Verdict.under (.field name))).getD
        (.accepted default) := by
  unfold optional
  cases given.lookup name <;> rfl

/-- A field is checked as before if another one is rewritten, or if its rule overlooks the rewriting. -/
theorem lookup_map_onField (h : name = other → Overlooks check f) :
    ((Datum.ofFields (fields.map (Json.onField other f))).lookup name).map check =
      ((Datum.ofFields fields).lookup name).map check := by
  rw [Datum.lookup_ofFields, Datum.lookup_ofFields, Json.lookup_onField]
  by_cases hname : name = other
  · rw [if_pos hname]
    cases fields.lookup name with
    | none => rfl
    | some v => exact congrArg some (h hname v)
  · rw [if_neg hname]

theorem required_onField (h : name = other → Overlooks check f) :
    required (Datum.ofFields (fields.map (Json.onField other f))) name check =
      required (Datum.ofFields fields) name check := by
  rw [required_eq, lookup_map_onField h, required_eq]

theorem optional_onField {default : α} (h : name = other → Overlooks check f) :
    optional (Datum.ofFields (fields.map (Json.onField other f))) name default check =
      optional (Datum.ofFields fields) name default check := by
  rw [optional_eq, lookup_map_onField h, optional_eq]

namespace Overlooks

theorem list (h : Overlooks check f) : Overlooks (Check.list check) (Json.mapElements f) := by
  have hitems (index : Nat) (items : List Json) :
      Check.itemsFrom check index (Datum.ofItems (items.map f)) =
        Check.itemsFrom check index (Datum.ofItems items) := by
    induction items generalizing index with
    | nil => rfl
    | cons item rest ih =>
      rw [List.map_cons, Datum.ofItems, Datum.ofItems, Check.itemsFrom, Check.itemsFrom, h item, ih]
  intro v
  cases v with
  | array items => exact hitems 0 items
  | _ => rfl

theorem member {model : String} {rule : List (String × Datum) → Verdict α}
    (h : ∀ fields, rule (Datum.ofFields (fields.map (Json.onField name f))) =
      rule (Datum.ofFields fields)) :
    Overlooks (Check.model model rule) (Json.mapMember name f) := by
  intro v
  cases v with
  | object fields => exact h fields
  | _ => rfl

end Overlooks

end Schema

open Schema

/-! ## Bare texts spelled out -/

namespace Reference

/-- A bare text as the object with this name; any other value as it is. -/
def spelledOut : Json → Json
  | .text name => .object [("name", .text name)]
  | v => v

theorem ofJson_spelledOut (v : Json) : Datum.ofJson (spelledOut v) = coerce (.ofJson v) := by
  cases v <;> rfl

theorem overlooks_spelledOut : Overlooks checkWritten spelledOut := by
  intro v
  rw [checkWritten, ofJson_spelledOut, coerce_coerce, checkWritten]

theorem nullable_overlooks_spelledOut :
    Overlooks (fun d ↦ check.nullable (coerce d)) spelledOut := by
  intro v
  dsimp only
  rw [ofJson_spelledOut, coerce_coerce]

theorem checkList_overlooks_spelledOut : Overlooks checkList (Json.mapElements spelledOut) := by
  rw [checkList_eq]
  exact overlooks_spelledOut.list

end Reference

namespace Placement

/-- A placement with the texts in it spelled out: that of the subnet and those of the security groups. -/
def spelledOut (v : Json) : Json :=
  (v.mapMember "subnet" Reference.spelledOut).mapMember "security_groups"
    (Json.mapElements Reference.spelledOut)

theorem overlooks_subnet : Overlooks check (Json.mapMember "subnet" Reference.spelledOut) := by
  apply Overlooks.member
  intro fields
  -- Only the field of this name is rewritten, and its rule overlooks that.
  simp [optional_onField, Reference.overlooks_spelledOut]

theorem overlooks_groups :
    Overlooks check (Json.mapMember "security_groups" (Json.mapElements Reference.spelledOut)) := by
  apply Overlooks.member
  intro fields
  simp [optional_onField, Reference.checkList_overlooks_spelledOut]

theorem overlooks_spelledOut : Overlooks check spelledOut := fun v ↦
  calc
    _ = check (.ofJson (v.mapMember "subnet" Reference.spelledOut)) := overlooks_groups _
    _ = _ := overlooks_subnet v

end Placement

namespace MachineSpec

/-- A specification with the texts in it spelled out: that of the image, those of the keys, and those of the
placement. -/
def spelledOut (v : Json) : Json :=
  ((v.mapMember "image" Reference.spelledOut).mapMember "ssh_keys"
    (Json.mapElements Reference.spelledOut)).mapMember "network" Placement.spelledOut

example : spelledOut (.object [("name", .text "machine"), ("ssh_keys", .array [.text "key", .null]),
      ("network", .object [("subnet", .text "subnet"), ("security_groups", .text "group")])]) =
    .object [("name", .text "machine"),
      ("ssh_keys", .array [.object [("name", .text "key")], .null]),
      ("network", .object [("subnet", .object [("name", .text "subnet")]),
        ("security_groups", .text "group")])] := by rfl

theorem overlooks_image : Overlooks check (Json.mapMember "image" Reference.spelledOut) := by
  apply Overlooks.member
  intro fields
  simp [required_onField, optional_onField, Reference.nullable_overlooks_spelledOut]

theorem overlooks_keys :
    Overlooks check (Json.mapMember "ssh_keys" (Json.mapElements Reference.spelledOut)) := by
  apply Overlooks.member
  intro fields
  simp [required_onField, optional_onField, Reference.checkList_overlooks_spelledOut]

theorem overlooks_network : Overlooks check (Json.mapMember "network" Placement.spelledOut) := by
  apply Overlooks.member
  intro fields
  simp [required_onField, optional_onField, Placement.overlooks_spelledOut]

theorem overlooks_spelledOut : Overlooks check spelledOut := fun v ↦
  calc
    _ = check (.ofJson ((v.mapMember "image" Reference.spelledOut).mapMember "ssh_keys"
          (Json.mapElements Reference.spelledOut))) := overlooks_network _
    _ = check (.ofJson (v.mapMember "image" Reference.spelledOut)) := overlooks_keys _
    _ = _ := overlooks_image v

end MachineSpec

/-! ## Lists of references -/

namespace Reference

variable {v : Json} {r : Reference} {refs : List Reference} {fields : List (String × Json)}
  {name : String}

/-- A value spells a reference: its name as a bare text, or an object with its ID and its name, where what
is not set is null or left out. -/
inductive Spells : Json → Reference → Prop
  | bare (name : String) : Spells (.text name) ⟨none, some name⟩
  | object {fields : List (String × Json)} {r : Reference}
      (id : Rest.ShowsText r.id (fields.lookup "id"))
      (name : Rest.ShowsText r.name (fields.lookup "name")) : Spells (.object fields) r

theorem takes_text_iff {s : Option String} :
    Takes (Datum.ofFields fields) name textOrNull none s ↔ Rest.ShowsText s (fields.lookup name) := by
  rw [takes_ofFields_iff]
  cases fields.lookup name with
  | none => cases s <;> simp [Rest.ShowsText]
  | some v => simp [Rest.textOrNull_eq_accepted_iff]

theorem check_object_iff :
    check (.ofJson (.object fields)) = .accepted r ↔
      Rest.ShowsText r.id (fields.lookup "id") ∧ Rest.ShowsText r.name (fields.lookup "name") := by
  rw [check, model_ofJson_eq_accepted_iff]
  simp only [Verdict.seq_eq_accepted_iff, Verdict.map_eq_accepted_iff, optional_eq_accepted_iff,
    takes_text_iff]
  constructor
  · rintro ⟨_, hobject, _, _, ⟨_, hid, rfl⟩, hname, rfl⟩
    cases hobject
    exact ⟨hid, hname⟩
  · rintro ⟨hid, hname⟩
    exact ⟨_, rfl, _, _, ⟨_, hid, rfl⟩, hname, rfl⟩

theorem checkWritten_eq_accepted_iff : checkWritten (.ofJson v) = .accepted r ↔ Spells v r := by
  constructor
  · intro h
    cases v with
    | text name =>
      cases h
      exact .bare name
    | object fields =>
      obtain ⟨hid, hname⟩ := check_object_iff.mp h
      exact .object hid hname
    | _ => cases h
  · intro h
    cases h with
    | bare name => rfl
    | object hid hname => exact check_object_iff.mpr ⟨hid, hname⟩

/-- References are listed: for each element of an array the reference that it spells, in their order, and
none at all if there is no list. -/
def ListedIn (refs : List Reference) : Option Json → Prop
  | none => refs = []
  | some v => ∃ items, v = .array items ∧ List.Forall₂ Spells items refs

theorem takes_checkList_iff :
    Takes (Datum.ofFields fields) name checkList [] refs ↔ ListedIn refs (fields.lookup name) := by
  rw [takes_ofFields_iff, checkList_eq]
  cases fields.lookup name with
  | none => simp [ListedIn]
  | some v => simp [ListedIn, list_ofJson_eq_accepted_iff, checkWritten_eq_accepted_iff]

end Reference

theorem Placement.groups_listed {v : Json} {p : Placement} (h : check (.ofJson v) = .accepted p) :
    Reference.ListedIn p.securityGroups (v.member? "security_groups") := by
  obtain ⟨fields, rfl, hfields⟩ := model_ofJson_eq_accepted_iff.mp h
  simp only [Verdict.seq_eq_accepted_iff, Verdict.map_eq_accepted_iff, optional_eq_accepted_iff,
    Reference.takes_checkList_iff] at hfields
  obtain ⟨_, _, ⟨_, _, rfl⟩, hgroups, rfl⟩ := hfields
  exact hgroups

namespace MachineSpec

variable {v : Json} {s : MachineSpec}

theorem keys_and_groups_listed (h : check (.ofJson v) = .accepted s) :
    Reference.ListedIn s.sshKeys (v.member? "ssh_keys") ∧
      Reference.ListedIn s.network.securityGroups
        ((v.member? "network").bind (Json.member? "security_groups")) := by
  obtain ⟨fields, rfl, hfields⟩ := model_ofJson_eq_accepted_iff.mp h
  simp only [Verdict.seq_eq_accepted_iff, Verdict.map_eq_accepted_iff, optional_eq_accepted_iff,
    Reference.takes_checkList_iff] at hfields
  -- Of the eight fields, the keys and the placement are kept.
  obtain ⟨_, _, ⟨_, _, ⟨_, _, ⟨_, network, ⟨_, keys, ⟨_, _, ⟨_, _, ⟨_, _, rfl⟩, _, rfl⟩, _, rfl⟩, hkeys,
    rfl⟩, hnetwork, rfl⟩, _, rfl⟩, _, rfl⟩, _, rfl⟩ := hfields
  refine ⟨hkeys, ?_⟩
  change Reference.ListedIn network.securityGroups ((fields.lookup "network").bind _)
  rcases takes_ofFields_iff.mp hnetwork with ⟨hnone, rfl⟩ | ⟨w, hsome, haccepted⟩
  · rw [hnone]
    rfl
  · rw [hsome]
    exact Placement.groups_listed haccepted

/-- A bare text is a reference by name wherever a specification refers to a resource: the verdict on the
specification with all such texts spelled out is the verdict on the specification, with the same issues at
the same places if it is rejected. If it is accepted, its keys and its security groups are those listed, one
for each element and in the same order. -/
theorem bare_text_is_reference_by_name (v : Json) :
    check (.ofJson (spelledOut v)) = check (.ofJson v) ∧
      ∀ s, check (.ofJson v) = .accepted s →
        Reference.ListedIn s.sshKeys (v.member? "ssh_keys") ∧
          Reference.ListedIn s.network.securityGroups
            ((v.member? "network").bind (Json.member? "security_groups")) :=
  ⟨overlooks_spelledOut v, fun _ h ↦ keys_and_groups_listed h⟩

/-- Texts among objects, one of them twice, and a reference to nothing. -/
theorem mixed_lists_read_in_order :
    let v : Json := .object
      [("name", .text "machine"),
        ("ssh_keys", .array [.text "key", .object [("id", .text "id")], .text "key"]),
        ("network", .object [("subnet", .text "subnet"),
          ("security_groups", .array [.object [("name", .null)], .text "group"])])]
    let s : MachineSpec :=
      { name := "machine", profile := "", image := none,
        sshKeys := [⟨none, some "key"⟩, ⟨some "id", none⟩, ⟨none, some "key"⟩],
        network := ⟨⟨none, some "subnet"⟩, [.empty, ⟨none, some "group"⟩]⟩, zone := none,
        secretNamespace := "default", bootstrapSecret := none }
    check (.ofJson v) = .accepted s ∧ check (.ofJson (spelledOut v)) = .accepted s ∧
      Reference.ListedIn s.sshKeys (v.member? "ssh_keys") ∧
      Reference.ListedIn s.network.securityGroups
        ((v.member? "network").bind (Json.member? "security_groups")) := by
  intro v s
  have haccepted : check (.ofJson v) = .accepted s := rfl
  obtain ⟨hsame, hlisted⟩ := bare_text_is_reference_by_name v
  exact ⟨haccepted, hsame.trans haccepted, hlisted s haccepted⟩

end MachineSpec

end VpcMachines
