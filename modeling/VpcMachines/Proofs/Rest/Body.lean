import VpcMachines.Proofs.Schema.Written
import VpcMachines.Rest.Record

/-!
# The body of a request for an instance

The body shows the prototype that it was made from: what has to be there is under its name as it stands, and
of what may be unset there is a section exactly if it is set to something (`showsPrototype_instanceBody`).
A rule for bodies reads the prototype back, with what was set to nothing left unset, so two prototypes have
the same body exactly if they agree up to this (`body_determines_prototype`).
-/

namespace VpcMachines

namespace Prototype

/-- The prototype with what is set to nothing left unset. -/
def settled (p : Prototype) : Prototype :=
  { p with
    zone := filled p.zone
    vpcId := filled p.vpcId
    resourceGroupId := filled p.resourceGroupId
    userData := filled p.userData }

end Prototype

namespace Rest

open Schema

/-! ## What is in a body -/

theorem lookup_part (sought name : String) (value : Option String) (wrap : String → Json) :
    (part name value wrap).lookup sought =
      if sought = name then (filled value).map wrap else none := by
  unfold part
  cases filled value with
  | none => simp
  | some s =>
    by_cases h : sought = name
    · simp [h]
    · simp [h, List.lookup_cons, beq_eq_false_iff_ne.mpr h]

theorem part_filled (name : String) (value : Option String) (wrap : String → Json) :
    part name (filled value) wrap = part name value wrap := by
  unfold part
  rw [filled_filled]

/-- The fields of a body show a prototype, each under its name. -/
structure ShowsPrototype (p : Prototype) (fields : List (String × Json)) : Prop where
  name : fields.lookup "name" = some (.text p.name)
  profile : fields.lookup "profile" = some (byName p.profile)
  image : fields.lookup "image" = some (byId p.imageId)
  keys : fields.lookup "keys" = some (.array (p.keyIds.map byId))
  interface : fields.lookup "primary_network_interface" = some (.object (interfaceFields p))
  zone : fields.lookup "zone" = (filled p.zone).map byName
  vpc : fields.lookup "vpc" = (filled p.vpcId).map byId
  resourceGroup : fields.lookup "resource_group" = (filled p.resourceGroupId).map byId
  userData : fields.lookup "user_data" = (filled p.userData).map .text

theorem showsPrototype_instanceBody (p : Prototype) :
    ∃ fields, instanceBody p = .object fields ∧ ShowsPrototype p fields := by
  refine ⟨_, rfl, ?_⟩
  constructor <;> simp [frontFields, List.lookup_append, List.lookup_cons, lookup_part]

/-! ## Reading a body -/

/-- An object with a text under one name. -/
def textUnder (name : String) : Check String :=
  Check.model "reference" fun given ↦ required given name text

/-- The subnet and the security groups of a network interface. -/
def interfaceRule : Check (Option String × List String) :=
  Check.model "interface" fun given ↦
    Prod.mk
      <$> required given "subnet" (Check.model "reference" fun inner ↦ required inner "id" textOrNull)
      <*> optional given "security_groups" [] (Check.list (textUnder "id"))

/-- A section that may be left out. -/
def unlessLeftOut (given : List (String × Datum)) (name : String) (rule : Check String) :
    Verdict (Option String) :=
  optional given name none fun d ↦ (rule d).map some

/-- The prototype that a body asks for. A section that is left out is unset. -/
def prototypeRule : Check Prototype :=
  Check.model "body" fun given ↦
    (fun name profile imageId keyIds interface zone vpcId resourceGroupId userData ↦
        ⟨name, profile, imageId, keyIds, interface.1, interface.2, zone, vpcId, resourceGroupId,
          userData⟩)
      <$> required given "name" text <*> required given "profile" (textUnder "name")
      <*> required given "image" (textUnder "id") <*> required given "keys" (Check.list (textUnder "id"))
      <*> required given "primary_network_interface" interfaceRule
      <*> unlessLeftOut given "zone" (textUnder "name") <*> unlessLeftOut given "vpc" (textUnder "id")
      <*> unlessLeftOut given "resource_group" (textUnder "id") <*> unlessLeftOut given "user_data" text

def prototype? (body : Json) : Option Prototype := (prototypeRule (.ofJson body)).value?

theorem textUnder_byId (id : String) : textUnder "id" (.ofJson (byId id)) = .accepted id := rfl

theorem textUnder_byName (name : String) : textUnder "name" (.ofJson (byName name)) = .accepted name := rfl

theorem list_byId (ids : List String) :
    Check.list (textUnder "id") (.ofJson (.array (ids.map byId))) = .accepted ids :=
  list_array fun id _ ↦ textUnder_byId id

theorem interfaceRule_interfaceFields (p : Prototype) :
    interfaceRule (.ofJson (.object (interfaceFields p))) =
      .accepted (p.subnetId, p.securityGroupIds) := by
  by_cases hgroups : p.securityGroupIds = []
  · simp [interfaceRule, interfaceFields, hgroups, Datum.ofFields]
  · simp [interfaceRule, interfaceFields, hgroups, Datum.ofFields, list_byId]

/-- What is written by `wrap` if it is set, and left out otherwise, is read by a rule that undoes `wrap`. -/
theorem unlessLeftOut_of_lookup {fields : List (String × Json)} {name : String} {value : Option String}
    {wrap : String → Json} {rule : Check String} (h : fields.lookup name = value.map wrap)
    (hrule : ∀ s, rule (.ofJson (wrap s)) = .accepted s) :
    unlessLeftOut (Datum.ofFields fields) name rule = .accepted value := by
  unfold unlessLeftOut Schema.optional
  rw [Datum.lookup_ofFields, h]
  cases value with
  | none => rfl
  | some s =>
    rw [Option.map_some, Option.map_some]
    dsimp only
    rw [hrule s]
    rfl

theorem prototypeRule_of_shows {p : Prototype} {fields : List (String × Json)}
    (h : ShowsPrototype p fields) : prototypeRule (.ofJson (.object fields)) = .accepted p.settled := by
  rw [prototypeRule, model_object, required_of_lookup h.name (text_text _),
    required_of_lookup h.profile (textUnder_byName _), required_of_lookup h.image (textUnder_byId _),
    required_of_lookup h.keys (list_byId _),
    required_of_lookup h.interface (interfaceRule_interfaceFields p),
    unlessLeftOut_of_lookup h.zone textUnder_byName, unlessLeftOut_of_lookup h.vpc textUnder_byId,
    unlessLeftOut_of_lookup h.resourceGroup textUnder_byId, unlessLeftOut_of_lookup h.userData text_text]
  rfl

theorem prototype?_instanceBody (p : Prototype) : prototype? (instanceBody p) = some p.settled := by
  obtain ⟨fields, hbody, hshows⟩ := showsPrototype_instanceBody p
  rw [prototype?, hbody, prototypeRule_of_shows hshows, Verdict.value?]

/-! ## Equal bodies -/

/-- What is set to nothing leaves no trace in the body. -/
theorem instanceBody_settled (p : Prototype) : instanceBody p.settled = instanceBody p := by
  rw [instanceBody, instanceBody]
  simp only [Prototype.settled, part_filled]
  rfl

/-- A body has a section exactly if there is something for it. -/
structure OmitsUnset (p : Prototype) (body : Json) : Prop where
  zone : (body.member? "zone").isSome ↔ (filled p.zone).isSome
  vpc : (body.member? "vpc").isSome ↔ (filled p.vpcId).isSome
  resourceGroup : (body.member? "resource_group").isSome ↔ (filled p.resourceGroupId).isSome
  userData : (body.member? "user_data").isSome ↔ (filled p.userData).isSome
  securityGroups :
    ((body.member? "primary_network_interface").bind (Json.member? "security_groups")).isSome ↔
      p.securityGroupIds ≠ []

theorem omitsUnset_instanceBody (p : Prototype) : OmitsUnset p (instanceBody p) := by
  obtain ⟨fields, hbody, hshows⟩ := showsPrototype_instanceBody p
  rw [hbody]
  constructor
  · rw [Json.member?, hshows.zone, Option.isSome_map]
  · rw [Json.member?, hshows.vpc, Option.isSome_map]
  · rw [Json.member?, hshows.resourceGroup, Option.isSome_map]
  · rw [Json.member?, hshows.userData, Option.isSome_map]
  · rw [Json.member?, hshows.interface, Option.bind_some, Json.member?, interfaceFields]
    by_cases hgroups : p.securityGroupIds = []
    · simp [hgroups]
    · simp [hgroups]

/-- The body of a request tells the prototype, except that what is set to nothing is read as unset. Two
prototypes have the same body exactly if they differ at most in this, and a section for what may be unset is
there exactly if it is set to something. -/
theorem body_determines_prototype (p : Prototype) :
    prototype? (instanceBody p) = some p.settled ∧
      (∀ q, instanceBody q = instanceBody p ↔ q.settled = p.settled) ∧
      OmitsUnset p (instanceBody p) := by
  refine ⟨prototype?_instanceBody p, fun q ↦ ⟨fun h ↦ ?_, fun h ↦ ?_⟩, omitsUnset_instanceBody p⟩
  · have hread : some q.settled = some p.settled :=
      calc
        some q.settled = prototype? (instanceBody q) := (prototype?_instanceBody q).symm
        _ = prototype? (instanceBody p) := by rw [h]
        _ = some p.settled := prototype?_instanceBody p
    exact Option.some.inj hread
  · calc
      instanceBody q = instanceBody q.settled := (instanceBody_settled q).symm
      _ = instanceBody p.settled := by rw [h]
      _ = instanceBody p := instanceBody_settled p

end Rest

end VpcMachines
