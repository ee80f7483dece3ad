import VpcMachines.Schema.Scalar

/-!
# References to cloud resources

A reference names a resource by its ID, by its name, or by both. In written form a bare text is a
reference by name.
-/

namespace VpcMachines

open Schema (Check optional required)

inductive ResourceKind where
  | image
  | sshKey
  | subnet
  | securityGroup
  deriving DecidableEq, Repr

def ResourceKind.text : ResourceKind → String
  | .image => "image"
  | .sshKey => "ssh_key"
  | .subnet => "subnet"
  | .securityGroup => "security_group"

/-- A text that is there and not empty. -/
def filled (s : Option String) : Option String := s.filter (· ≠ "")

theorem filled_none : filled none = none := rfl

theorem filled_eq_some_iff {s : Option String} {a : String} :
    filled s = some a ↔ s = some a ∧ a ≠ "" := by
  simp [filled, Option.filter_eq_some_iff]

theorem filled_filled (s : Option String) : filled (filled s) = filled s := by
  simp [filled, Option.filter_filter]

/-- A rule for a text or null. -/
def textOrNull : Check (Option String) := Check.nullable Schema.text

structure Reference where
  id : Option String
  name : Option String
  deriving DecidableEq, Repr

namespace Reference

def empty : Reference := ⟨none, none⟩

def isSet (r : Reference) : Bool := (filled r.id).isSome || (filled r.name).isSome

/-- The ID if there is one, else the name. -/
def text (r : Reference) : String := ((filled r.id).or (filled r.name)).getD "<empty>"

def check : Check Reference :=
  Check.model "ResourceReference" fun given ↦
    Reference.mk <$> optional given "id" none textOrNull <*> optional given "name" none textOrNull

/-- A bare text as a reference by name; other data as they are. -/
def coerce : Datum → Datum
  | .text name => .record [("name", .text name)]
  | d => d

/-- The items of a list, each as a reference. -/
def coerceItems : Datum → Datum
  | .list items => .list (items.map coerce)
  | d => d

/-- A reference in either form. -/
def checkWritten : Check Reference := fun d ↦ check (coerce d)

def checkList : Check (List Reference) := fun d ↦ Check.list check (coerceItems d)

theorem coerce_coerce (d : Datum) : coerce (coerce d) = coerce d := by
  cases d <;> rfl

/-- Rewriting all items and then checking them is checking each in its rewritten form. -/
theorem checkList_eq : checkList = Check.list checkWritten := by
  have hitems (index : Nat) (items : List Datum) :
      Check.itemsFrom check index (items.map coerce) = Check.itemsFrom checkWritten index items := by
    induction items generalizing index with
    | nil => rfl
    | cons item rest ih => rw [List.map_cons, Check.itemsFrom, Check.itemsFrom, ih, checkWritten]
  funext d
  cases d with
  | list items => exact hitems 0 items
  | _ => rfl

def toJson (r : Reference) : Json :=
  .object [("id", .ofOption r.id), ("name", .ofOption r.name)]

end Reference

end VpcMachines
