import VpcMachines.Proofs.Schema.Acceptance
import VpcMachines.Reference.Basic

/-!
# Written forms are accepted

A value that is written as JSON by its kind is accepted by the rule for this kind as this very value: texts,
booleans and what may be null as they stand, a list if this holds of its values (`list_array`), and so for a
table (`mapping_object`). A rule for a record looks its fields up one by one, and in a record that is
written out each of them is found where it stands.
-/

namespace VpcMachines.Schema

variable {α β : Type} {a : α} {check : Check α} {given : List (String × Datum)} {name : String}
  {default : α} {d : Datum}

namespace Verdict

@[simp] theorem under_accepted {step : Step} : (accepted a).under step = .accepted a := rfl

@[simp] theorem map_accepted {f : α → β} : f <$> accepted a = .accepted (f a) := rfl

@[simp] theorem seq_accepted {f : α → β} : accepted f <*> accepted a = .accepted (f a) := rfl

end Verdict

/-! ## Fields of a record that is written out -/

@[simp] theorem model_object {model : String} {rule : List (String × Datum) → Verdict α}
    {fields : List (String × Json)} :
    Check.model model rule (.ofJson (.object fields)) = rule (Datum.ofFields fields) := by
  rw [Datum.ofJson, Check.model]

@[simp] theorem required_cons_self :
    required ((name, d) :: given) name check = (check d).under (.field name) := by
  simp [required]

@[simp] theorem required_cons_of_ne {other : String} (h : name ≠ other) :
    required ((other, d) :: given) name check = required given name check := by
  simp [required, List.lookup_cons, beq_eq_false_iff_ne.mpr h]

@[simp] theorem optional_nil : optional [] name default check = .accepted default := rfl

@[simp] theorem optional_cons_self :
    optional ((name, d) :: given) name default check = (check d).under (.field name) := by
  simp [optional]

@[simp] theorem optional_cons_of_ne {other : String} (h : name ≠ other) :
    optional ((other, d) :: given) name default check = optional given name default check := by
  simp [optional, List.lookup_cons, beq_eq_false_iff_ne.mpr h]

theorem required_of_lookup {fields : List (String × Json)} {v : Json}
    (h : fields.lookup name = some v) (hv : check (.ofJson v) = .accepted a) :
    required (Datum.ofFields fields) name check = .accepted a := by
  unfold required
  rw [Datum.lookup_ofFields, h]
  exact congrArg (Verdict.under _) hv

/-! ## Values -/

@[simp] theorem text_text (s : String) : text (.ofJson (.text s)) = .accepted s := rfl

@[simp] theorem textOrNull_ofOption (s : Option String) :
    textOrNull (.ofJson (.ofOption s)) = .accepted s := by
  cases s <;> rfl

@[simp] theorem boolean_bool (b : Bool) : boolean (.ofJson (.bool b)) = .accepted b := rfl

theorem nullable_getD {write : α → Json} {a : Option α} (hnull : ∀ a, check .null ≠ .accepted a)
    (h : ∀ b ∈ a, check (.ofJson (write b)) = .accepted b) :
    check.nullable (.ofJson ((a.map write).getD .null)) = .accepted a := by
  rw [nullable_eq_accepted_iff hnull]
  cases a with
  | none => exact .inl ⟨rfl, rfl⟩
  | some b => exact .inr ⟨b, rfl, h b rfl⟩

theorem list_array {write : α → Json} {values : List α}
    (h : ∀ a ∈ values, check (.ofJson (write a)) = .accepted a) :
    Check.list check (.ofJson (.array (values.map write))) = .accepted values := by
  refine list_eq_accepted_iff.mpr ⟨_, by rw [Datum.ofJson, Datum.ofItems_eq_map, List.map_map], ?_⟩
  rw [List.forall₂_map_left_iff]
  exact List.forall₂_same.mpr h

@[simp] theorem list_texts (texts : List String) :
    Check.list text (.ofJson (.array (texts.map .text))) = .accepted texts :=
  list_array fun _ _ ↦ rfl

theorem mapping_object {write : α → Json} (entries : List (String × α))
    (h : ∀ entry ∈ entries, check (.ofJson (write entry.2)) = .accepted entry.2) :
    Check.mapping check (.ofJson (.object (entries.map fun (name, a) ↦ (name, write a)))) =
      .accepted entries := by
  change Check.entriesOf check (Datum.ofFields _) = _
  induction entries with
  | nil => rfl
  | cons entry rest ih =>
    rw [List.forall_mem_cons] at h
    rw [List.map_cons, Datum.ofFields, Check.entriesOf, h.1, ih h.2]
    rfl

end VpcMachines.Schema
