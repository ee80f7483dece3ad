import Mathlib.Data.List.Forall2
import VpcMachines.Schema.Scalar

/-!
# What is accepted

Verdicts are inverted part by part: a record is accepted exactly if each of its fields is, a field that may
be left out if it is left out or accepted (`optional_eq_accepted_iff`), a list if its items are accepted one
by one (`list_eq_accepted_iff`), and an integer with bounds if it is accepted as an integer between them
(`integerBetween_eq_accepted_iff`).
-/

namespace VpcMachines

namespace Datum

theorem ofItems_eq_map (items : List Json) : ofItems items = items.map ofJson := by
  induction items with
  | nil => rfl
  | cons item rest ih => rw [ofItems, ih, List.map_cons]

theorem lookup_ofFields (fields : List (String × Json)) (name : String) :
    (ofFields fields).lookup name = (fields.lookup name).map ofJson := by
  induction fields with
  | nil => rfl
  | cons field rest ih =>
    obtain ⟨other, v⟩ := field
    by_cases h : name = other
    · simp [ofFields, h]
    · simp [ofFields, List.lookup_cons, beq_eq_false_iff_ne.mpr h, ih]

end Datum

namespace Schema

variable {α β : Type} {a : α} {b : β}

namespace Verdict

theorem map_eq_accepted_iff {f : α → β} {v : Verdict α} :
    f <$> v = .accepted b ↔ ∃ a, v = .accepted a ∧ f a = b := by
  cases v <;> simp [Functor.map, map]

theorem seq_eq_accepted_iff {f : Verdict (α → β)} {v : Verdict α} :
    f <*> v = .accepted b ↔ ∃ g a, f = .accepted g ∧ v = .accepted a ∧ g a = b := by
  cases f <;> cases v <;> simp [Seq.seq, apply]

theorem under_eq_accepted_iff {step : Step} {v : Verdict α} :
    v.under step = .accepted a ↔ v = .accepted a := by
  cases v <;> simp [under]

end Verdict

variable {given : List (String × Datum)} {name : String} {check : Check α} {default : α}

/-- A field takes a value: it is left out and the value is its default, or what is given for it is accepted
as the value. -/
def Takes (given : List (String × Datum)) (name : String) (check : Check α) (default value : α) :
    Prop :=
  given.lookup name = none ∧ value = default ∨
    ∃ d, given.lookup name = some d ∧ check d = .accepted value

theorem optional_eq_accepted_iff :
    optional given name default check = .accepted a ↔ Takes given name check default a := by
  unfold optional Takes
  cases given.lookup name with
  | none => simp [eq_comm]
  | some d => simp [Verdict.under_eq_accepted_iff]

theorem itemsFrom_eq_accepted_iff {items : List Datum} {values : List α} (index : Nat) :
    Check.itemsFrom check index items = .accepted values ↔
      List.Forall₂ (fun item a ↦ check item = .accepted a) items values := by
  induction items generalizing index values with
  | nil => cases values <;> simp [Check.itemsFrom]
  | cons item rest ih =>
    simp only [Check.itemsFrom, Verdict.seq_eq_accepted_iff, Verdict.map_eq_accepted_iff,
      Verdict.under_eq_accepted_iff, ih, List.forall₂_cons_left_iff]
    constructor
    · rintro ⟨_, values, ⟨a, ha, rfl⟩, hrest, rfl⟩
      exact ⟨a, values, ha, hrest, rfl⟩
    · rintro ⟨a, values, ha, hrest, rfl⟩
      exact ⟨_, values, ⟨a, ha, rfl⟩, hrest, rfl⟩

theorem list_eq_accepted_iff {d : Datum} {values : List α} :
    Check.list check d = .accepted values ↔
      ∃ items, d = .list items ∧
        List.Forall₂ (fun item a ↦ check item = .accepted a) items values := by
  cases d <;> simp [Check.list, Verdict.refuse, itemsFrom_eq_accepted_iff]

/-- Bounds are looked at behind everything that makes a datum an integer. -/
theorem integerBetween_eq_accepted_iff {least most : Nat} {d : Datum} {n : Int} :
    integerBetween least most d = .accepted n ↔
      integer d = .accepted n ∧ (least : Int) ≤ n ∧ n ≤ (most : Int) := by
  unfold integerBetween
  cases integer d with
  | rejected issues => simp
  | accepted m =>
    dsimp only
    split
    · case isTrue hbelow =>
      simp only [Verdict.refuse, reduceCtorEq, Verdict.accepted.injEq, false_iff]
      omega
    split
    · case isTrue habove =>
      simp only [Verdict.refuse, reduceCtorEq, Verdict.accepted.injEq, false_iff]
      omega
    · simp only [Verdict.accepted.injEq]
      omega

theorem model_eq_accepted_iff {model : String} {fields : List (String × Datum) → Verdict α}
    {d : Datum} :
    Check.model model fields d = .accepted a ↔
      ∃ given, d = .record given ∧ fields given = .accepted a := by
  cases d <;> simp [Check.model, Verdict.refuse]

/-! ## Data given as JSON -/

theorem text_eq_accepted_iff {v : Json} {s : String} :
    text (.ofJson v) = .accepted s ↔ v = .text s := by
  cases v <;> simp [Datum.ofJson, text, Verdict.refuse]

theorem nullable_eq_accepted_iff (hnull : ∀ a, check .null ≠ .accepted a)
    {v : Json} {a : Option α} :
    check.nullable (.ofJson v) = .accepted a ↔
      a = none ∧ v = .null ∨ ∃ b, a = some b ∧ check (.ofJson v) = .accepted b := by
  have hother (d : Datum) : (check d).map some = .accepted a ↔
      ∃ b, a = some b ∧ check d = .accepted b := by
    cases check d <;> simp [Verdict.map, eq_comm]
  cases v with
  | null => cases a <;> simp [Datum.ofJson, Check.nullable, hnull]
  | _ => simpa [Check.nullable, Datum.ofJson] using hother _

theorem list_ofJson_eq_accepted_iff {v : Json} {values : List α} :
    Check.list check (.ofJson v) = .accepted values ↔
      ∃ items, v = .array items ∧
        List.Forall₂ (fun item a ↦ check (.ofJson item) = .accepted a) items values := by
  rw [list_eq_accepted_iff]
  cases v <;> simp [Datum.ofJson, Datum.ofItems_eq_map, List.forall₂_map_left_iff]

theorem model_ofJson_eq_accepted_iff {model : String} {rule : List (String × Datum) → Verdict α}
    {v : Json} :
    Check.model model rule (.ofJson v) = .accepted a ↔
      ∃ fields, v = .object fields ∧ rule (Datum.ofFields fields) = .accepted a := by
  rw [model_eq_accepted_iff]
  cases v <;> simp [Datum.ofJson]

theorem takes_ofFields_iff {fields : List (String × Json)} :
    Takes (Datum.ofFields fields) name check default a ↔
      fields.lookup name = none ∧ a = default ∨
        ∃ v, fields.lookup name = some v ∧ check (.ofJson v) = .accepted a := by
  rw [Takes, Datum.lookup_ofFields]
  cases fields.lookup name <;> simp

end Schema

end VpcMachines
