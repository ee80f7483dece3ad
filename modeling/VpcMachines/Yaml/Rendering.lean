import VpcMachines.Yaml.Document
import VpcMachines.Yaml.NumberOrder

/-!
# Documents as text

A value inside a document has a plain form, which for a text is the text itself, and a quoted form, in
which it stands inside collections. Collections have one form: their parts in quoted form between
brackets. A collection that comes back inside itself is written as three points between its brackets.
-/

namespace VpcMachines.Yaml.Document

def between (left right : String) (parts : List String) : String :=
  left ++ String.intercalate ", " parts ++ right

def listForm (parts : List String) : String := between "[" "]" parts

def mapForm (parts : List String) : String := between "\x7b" "\x7d" parts

/-- The quoted form of a node's value inside some collections. -/
def quotedFormIn (d : Document) : (fuel : Nat) → (above : List Ref) → Ref → Except Fault String
  | 0, _, _ => .error .tooDeepToWrite
  | fuel + 1, above, r =>
    let form := d.quotedFormIn fuel (r :: above)
    match d.value r with
    | .atom a => a.quotedForm
    | .list items => do
      if above.contains r then return "[...]"
      return listForm (← items.mapM form)
    | .map entries => do
      if above.contains r then return "\x7b...\x7d"
      return mapForm (← entries.mapM fun (key, value) ↦ do
        let key ← key.atom.quotedForm
        return key ++ ": " ++ (← form value))
    | .set [] => .ok "set()"
    | .set members => do
      return mapForm (← (NumberOrder.arrange Key.atom members).mapM fun key ↦ key.atom.quotedForm)
    | .pairs items => do
      if above.contains r then return "[...]"
      return listForm (← items.mapM fun (first, second) ↦ do
        let first ← form first
        return "(" ++ first ++ ", " ++ (← form second) ++ ")")

def quotedForm (d : Document) (r : Ref) : Except Fault String :=
  d.quotedFormIn Graph.depthLimit [] r

/-- The form of a node's value on its own. -/
def plainForm (d : Document) (r : Ref) : Except Fault String :=
  match d.value r with
  | .atom a => a.plainForm
  | _ => d.quotedForm r

end VpcMachines.Yaml.Document
