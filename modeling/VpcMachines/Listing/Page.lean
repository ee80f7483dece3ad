import VpcMachines.Instance

/-!
# Pages of a listing

A page holds items and, unless it is the last, the cursor of the page behind it. An empty cursor is
none.
-/

namespace VpcMachines

open Schema (Check optional)

structure Page (α : Type) where
  items : List α
  next : Option String
  deriving Repr

namespace Page

variable {α : Type}

def empty : Page α := ⟨[], none⟩

def check (item : Check α) : Check (Page α) :=
  Check.model "Page" fun given ↦
    Page.mk <$> optional given "items" [] (Check.list item)
      <*> optional given "next_start" none textOrNull

def toJson (item : α → Json) (p : Page α) : Json :=
  .object [("items", .array (p.items.map item)), ("next_start", .ofOption p.next)]

end Page

end VpcMachines
