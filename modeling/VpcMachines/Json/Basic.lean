/-!
# JSON values

Integers and numbers with a fraction or an exponent are told apart. The members of an object keep the
order in which their names first appeared.
-/

namespace VpcMachines

inductive Json where
  | null
  | bool (b : Bool)
  | int (n : Int)
  | float (x : Float)
  | text (s : String)
  | array (items : List Json)
  | object (fields : List (String × Json))
  deriving Inhabited

namespace Json

/-- The members with one more: a name that is there already keeps its place and gets the new value. -/
def insertField {α : Type} (name : String) (value : α) : List (String × α) → List (String × α)
  | [] => [(name, value)]
  | field :: rest =>
    if field.1 = name then (name, value) :: rest else field :: insertField name value rest

/-- The member of that name, if the value is an object that has one. -/
def member? (name : String) : Json → Option Json
  | .object fields => fields.lookup name
  | _ => none

/-- Null, `false`, zero, and what is empty. -/
def isFalsy : Json → Bool
  | .null => true
  | .bool b => !b
  | .int n => n == 0
  | .float x => x == 0.0
  | .text s => s == ""
  | .array items => items.isEmpty
  | .object fields => fields.isEmpty

def ofOption : Option String → Json
  | none => .null
  | some s => .text s

end Json

end VpcMachines
