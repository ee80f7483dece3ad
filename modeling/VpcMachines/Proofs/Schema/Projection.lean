import VpcMachines.Listing.Page
import VpcMachines.Machine.Basic
import VpcMachines.Pool.Basic
import VpcMachines.Proofs.Schema.Written
import VpcMachines.Proofs.Settings.Validity

/-!
# Checking is a projection

Every kind of record is accepted in the form that it is written in, as the record that was written. So
checking brings data into this form, in whatever spelling they were given, and changes nothing in data that
have it: what is accepted, written out and checked again is the same record, and records that are written
alike are the same (`checking_is_projection`). Settings have a written form that is accepted only if their
port is one, which it is as soon as they were accepted at all; pages inherit the property from their items.
-/

namespace VpcMachines

open Schema

/-! ## Records as they are written -/

namespace Reference

theorem check_toJson (r : Reference) : check (.ofJson r.toJson) = .accepted r := by
  simp [check, toJson, Datum.ofFields]

/-- No written reference is a bare text. -/
theorem checkWritten_toJson (r : Reference) : checkWritten (.ofJson r.toJson) = .accepted r :=
  r.check_toJson

theorem checkList_array (refs : List Reference) :
    checkList (.ofJson (.array (refs.map toJson))) = .accepted refs := by
  rw [checkList_eq]
  exact list_array fun r _ ↦ r.checkWritten_toJson

/-- An image that is written is null or an object, so nothing is done to it before it is checked. -/
theorem nullable_coerce_getD (r : Option Reference) :
    check.nullable (coerce (.ofJson ((r.map toJson).getD .null))) = .accepted r := by
  have hcoerce : coerce (.ofJson ((r.map toJson).getD .null)) = .ofJson ((r.map toJson).getD .null) := by
    cases r <;> rfl
  rw [hcoerce]
  exact nullable_getD nofun fun r _ ↦ r.check_toJson

end Reference

theorem Placement.check_toJson (p : Placement) : check (.ofJson p.toJson) = .accepted p := by
  simp [check, toJson, Datum.ofFields, Reference.checkWritten_toJson, Reference.checkList_array]

theorem MachineSpec.check_toJson (s : MachineSpec) : check (.ofJson s.toJson) = .accepted s := by
  simp [check, toJson, Datum.ofFields, Reference.nullable_coerce_getD, Reference.checkList_array,
    Placement.check_toJson]

theorem ResourceStatus.check_toJson (s : ResourceStatus) : check (.ofJson s.toJson) = .accepted s := by
  simp [check, toJson, Datum.ofFields]

theorem NetworkStatus.check_toJson (s : NetworkStatus) : check (.ofJson s.toJson) = .accepted s := by
  have hstatus (r : Option ResourceStatus) :
      ResourceStatus.check.nullable (.ofJson ((r.map ResourceStatus.toJson).getD .null)) =
        .accepted r := nullable_getD nofun fun r _ ↦ r.check_toJson
  have htable (table : List (String × ResourceStatus)) :=
    mapping_object table fun entry _ ↦ entry.2.check_toJson
  simp [check, toJson, Datum.ofFields, hstatus, htable]

theorem MachineStatus.check_toJson (s : MachineStatus) : check (.ofJson s.toJson) = .accepted s := by
  simp [check, toJson, Datum.ofFields]

theorem NamedResource.check_toJson (r : NamedResource) : check (.ofJson r.toJson) = .accepted r := by
  simp [check, toJson, Datum.ofFields]

theorem Instance.check_toJson (i : Instance) : check (.ofJson i.toJson) = .accepted i := by
  simp [check, toJson, Datum.ofFields]

theorem Prototype.check_toJson (p : Prototype) : check (.ofJson p.toJson) = .accepted p := by
  simp [check, toJson, Datum.ofFields]

theorem PoolReference.check_toJson (p : PoolReference) : check (.ofJson p.toJson) = .accepted p := by
  simp [check, toJson, Datum.ofFields]

theorem LoadBalancer.check_toJson (b : LoadBalancer) : check (.ofJson b.toJson) = .accepted b := by
  have hpools : Check.list PoolReference.check (.ofJson (.array (b.pools.map PoolReference.toJson))) =
      .accepted b.pools := list_array fun p _ ↦ p.check_toJson
  simp [check, toJson, Datum.ofFields, hpools]

theorem PoolMember.check_toJson (m : PoolMember) : check (.ofJson m.toJson) = .accepted m := by
  have hport : Check.nullable integer (.ofJson ((m.port.map Json.int).getD .null)) =
      .accepted m.port := nullable_getD nofun fun _ _ ↦ rfl
  simp [check, toJson, Datum.ofFields, hport]

theorem ProviderIdLayout.check_text (l : ProviderIdLayout) :
    check (.ofJson (.text l.text)) = .accepted l := by
  cases l <;> rfl

theorem Settings.check_toJson (s : Settings) (h : 1 ≤ s.apiServerPort ∧ s.apiServerPort ≤ 65535) :
    check (.ofJson s.toJson) = .accepted s := by
  have hport : integerBetween 1 65535 (.ofJson (.int s.apiServerPort)) = .accepted s.apiServerPort :=
    integerBetween_eq_accepted_iff.mpr ⟨rfl, h⟩
  simp [check, toJson, Datum.ofFields, ProviderIdLayout.check_text, hport]

namespace Datum

mutual

theorem toJson_ofJson (v : Json) : (ofJson v).toJson = v := by
  cases v <;> simp [ofJson, toJson, toItems_ofItems, toFields_ofFields]

theorem toItems_ofItems (items : List Json) : toItems (ofItems items) = items := by
  cases items <;> simp [ofItems, toItems, toJson_ofJson, toItems_ofItems]

theorem toFields_ofFields (fields : List (String × Json)) : toFields (ofFields fields) = fields := by
  cases fields with
  | nil => rfl
  | cons field rest => simp [ofFields, toFields, toJson_ofJson, toFields_ofFields]

end

end Datum

/-! ## What is accepted is written so that it is accepted again -/

namespace Schema

variable {α : Type} {check : Check α} {write : α → Json}

/-- Whatever a rule accepts of JSON, it accepts again in its written form. -/
def IsProjection (check : Check α) (write : α → Json) : Prop :=
  ∀ v a, check (.ofJson v) = .accepted a → check (.ofJson (write a)) = .accepted a

namespace IsProjection

theorem of_written (h : ∀ a, check (.ofJson (write a)) = .accepted a) : IsProjection check write :=
  fun _ a _ ↦ h a

/-- Values that were accepted are told apart by their written forms. -/
theorem eq_of_write {v w : Json} {a b : α} (h : IsProjection check write)
    (ha : check (.ofJson v) = .accepted a) (hb : check (.ofJson w) = .accepted b)
    (hwrite : write b = write a) : b = a := by
  have hagain := h w b hb
  rw [hwrite, h v a ha] at hagain
  exact (Verdict.accepted.inj hagain).symm

theorem forall_written (h : IsProjection check write) {v : Json} {values : List α}
    (hlist : Check.list check (.ofJson v) = .accepted values) :
    ∀ a ∈ values, check (.ofJson (write a)) = .accepted a := by
  obtain ⟨items, rfl, hitems⟩ := list_ofJson_eq_accepted_iff.mp hlist
  induction hitems with
  | nil => exact List.forall_mem_nil _
  | cons haccepted hrest ih =>
    refine List.forall_mem_cons.mpr ⟨h _ _ haccepted, ih ?_⟩
    exact list_ofJson_eq_accepted_iff.mpr ⟨_, rfl, hrest⟩

theorem page (h : IsProjection check write) :
    IsProjection (Page.check check) (Page.toJson write) := by
  intro v p hp
  obtain ⟨fields, rfl, hfields⟩ := model_ofJson_eq_accepted_iff.mp hp
  simp only [Verdict.seq_eq_accepted_iff, Verdict.map_eq_accepted_iff, optional_eq_accepted_iff,
    takes_ofFields_iff] at hfields
  obtain ⟨_, next, ⟨items, hitems, rfl⟩, _, rfl⟩ := hfields
  -- The items were accepted one by one, or left out and then there are none.
  have hwritten : ∀ a ∈ items, check (.ofJson (write a)) = .accepted a := by
    rcases hitems with ⟨_, rfl⟩ | ⟨w, _, hlist⟩
    · exact List.forall_mem_nil _
    · exact h.forall_written hlist
  have hlist := list_array hwritten
  simp [Page.check, Page.toJson, Datum.ofFields, hlist]

end IsProjection

end Schema

theorem Settings.isProjection : IsProjection check toJson :=
  fun _ s h ↦ s.check_toJson (port_bounds_of_check h)

theorem Datum.isProjection : IsProjection Verdict.accepted toJson := by
  intro v d h
  cases h
  rw [toJson_ofJson]

/-! ## All kinds of records -/

/-- What data are checked as: taken as they are, a record of one kind, or a page of items. -/
inductive Model where
  | anything
  | reference
  | placement
  | machineSpec
  | resourceStatus
  | networkStatus
  | machineStatus
  | namedResource
  | observedInstance
  | prototype
  | poolReference
  | loadBalancer
  | poolMember
  | settings
  | page (item : Model)

namespace Model

abbrev Value : Model → Type
  | anything => Datum
  | reference => Reference
  | placement => Placement
  | machineSpec => MachineSpec
  | resourceStatus => ResourceStatus
  | networkStatus => NetworkStatus
  | machineStatus => MachineStatus
  | namedResource => NamedResource
  | observedInstance => Instance
  | prototype => Prototype
  | poolReference => PoolReference
  | loadBalancer => LoadBalancer
  | poolMember => PoolMember
  | settings => Settings
  | page item => Page item.Value

def check : (m : Model) → Check m.Value
  | anything => .accepted
  | reference => Reference.check
  | placement => Placement.check
  | machineSpec => MachineSpec.check
  | resourceStatus => ResourceStatus.check
  | networkStatus => NetworkStatus.check
  | machineStatus => MachineStatus.check
  | namedResource => NamedResource.check
  | observedInstance => Instance.check
  | prototype => Prototype.check
  | poolReference => PoolReference.check
  | loadBalancer => LoadBalancer.check
  | poolMember => PoolMember.check
  | settings => Settings.check
  | page item => Page.check item.check

/-- The written form of a record, with all its fields. -/
def toJson : (m : Model) → m.Value → Json
  | anything => Datum.toJson
  | reference => Reference.toJson
  | placement => Placement.toJson
  | machineSpec => MachineSpec.toJson
  | resourceStatus => ResourceStatus.toJson
  | networkStatus => NetworkStatus.toJson
  | machineStatus => MachineStatus.toJson
  | namedResource => NamedResource.toJson
  | observedInstance => Instance.toJson
  | prototype => Prototype.toJson
  | poolReference => PoolReference.toJson
  | loadBalancer => LoadBalancer.toJson
  | poolMember => PoolMember.toJson
  | settings => Settings.toJson
  | page item => Page.toJson item.toJson

theorem isProjection (m : Model) : IsProjection m.check m.toJson := by
  induction m with
  | anything => exact Datum.isProjection
  | reference => exact .of_written Reference.check_toJson
  | placement => exact .of_written Placement.check_toJson
  | machineSpec => exact .of_written MachineSpec.check_toJson
  | resourceStatus => exact .of_written ResourceStatus.check_toJson
  | networkStatus => exact .of_written NetworkStatus.check_toJson
  | machineStatus => exact .of_written MachineStatus.check_toJson
  | namedResource => exact .of_written NamedResource.check_toJson
  | observedInstance => exact .of_written Instance.check_toJson
  | prototype => exact .of_written Prototype.check_toJson
  | poolReference => exact .of_written PoolReference.check_toJson
  | loadBalancer => exact .of_written LoadBalancer.check_toJson
  | poolMember => exact .of_written PoolMember.check_toJson
  | settings => exact Settings.isProjection
  | page item ih => exact ih.page

/-- What was accepted as a record, in whatever spelling, is accepted as the same record in its written form;
and whatever else is accepted as a record that is written alike was accepted as this very record. -/
theorem checking_is_projection (m : Model) (v : Json) (a : m.Value)
    (h : m.check (.ofJson v) = .accepted a) :
    m.check (.ofJson (m.toJson a)) = .accepted a ∧
      ∀ w b, m.check (.ofJson w) = .accepted b → m.toJson b = m.toJson a → b = a := by
  refine ⟨m.isProjection v a h, ?_⟩
  intro w b hb hwrite
  exact m.isProjection.eq_of_write h hb hwrite

/-- A port as text beside a field of no settings, and the same port as a number beside a field at its
default. -/
theorem spelled_port_is_port :
    let spelled : Json := .object [("api_server_port", .text "+0_80.00"), ("colour", .text "blue")]
    let plain : Json := .object [("region", .text "us-south"), ("api_server_port", .int 80)]
    let s : Settings := { Settings.default with apiServerPort := 80 }
    settings.check (.ofJson spelled) = .accepted s ∧
      settings.check (.ofJson s.toJson) = .accepted s ∧
      ∀ b, settings.check (.ofJson plain) = .accepted b → settings.toJson b = s.toJson → b = s := by
  intro spelled plain s
  have haccepted : settings.check (.ofJson spelled) = .accepted s := rfl
  obtain ⟨hagain, hsame⟩ := checking_is_projection settings spelled s haccepted
  exact ⟨haccepted, hagain, hsame plain⟩

end Model

end VpcMachines
