import VpcMachines.Json.Basic
import VpcMachines.Text.Quoted

/-!
# Taking JSON apart

Reading a member, an entry or the items of a value that may turn out to be of another kind. Where a
member is allowed to be missing, any empty value in its place counts as missing too.
-/

namespace VpcMachines

open Text

/-- How a value fails to have the shape that was expected. -/
inductive Misshape where
  | noMember (kind name : String)
  | noKey (key : String)
  | notSubscriptable (kind : String)
  | listBySubscript
  | textBySubscript
  | notIterable (kind : String)
  deriving DecidableEq, Repr

def Misshape.message : Misshape → String
  | .noMember kind name => s!"'{kind}' object has no attribute '{name}'"
  | .noKey key => quote key
  | .notSubscriptable kind => s!"'{kind}' object is not subscriptable"
  | .listBySubscript => "list indices must be integers or slices, not str"
  | .textBySubscript => "string indices must be integers, not 'str'"
  | .notIterable kind => s!"'{kind}' object is not iterable"

namespace Json

def kindName : Json → String
  | .null => "NoneType"
  | .bool _ => "bool"
  | .int _ => "int"
  | .float _ => "float"
  | .text _ => "str"
  | .array _ => "list"
  | .object _ => "dict"

/-- The member of an object, null if it has none of that name. -/
def get (name : String) : Json → Except Misshape Json
  | .object fields => .ok ((fields.lookup name).getD .null)
  | v => .error (.noMember v.kindName "get")

/-- The entry of an object, which has to be there. -/
def entry (name : String) : Json → Except Misshape Json
  | .object fields =>
    match fields.lookup name with
    | some v => .ok v
    | none => .error (.noKey name)
  | .array _ => .error .listBySubscript
  | .text _ => .error .textBySubscript
  | v => .error (.notSubscriptable v.kindName)

/-- The value, or the empty object if it is falsy. -/
def orEmpty (v : Json) : Json := if v.isFalsy then .object [] else v

/-- What a walk over the value meets: items, names, or characters. A falsy value has none. -/
def elements (v : Json) : Except Misshape (List Json) :=
  if v.isFalsy then .ok []
  else
    match v with
    | .array items => .ok items
    | .object fields => .ok (fields.map fun field ↦ .text field.1)
    | .text s => .ok (s.toList.map fun c ↦ .text (String.singleton c))
    | v => .error (.notIterable v.kindName)

end Json

end VpcMachines
