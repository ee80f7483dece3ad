import VpcMachines.Json.Basic
import VpcMachines.Yaml.Document

/-!
# Data to be checked

What a record may be built from, whether it came as JSON or as YAML: JSON values, byte strings, and
values of kinds that fit no field.
-/

namespace VpcMachines

inductive Datum where
  | null
  | bool (b : Bool)
  | int (n : Int)
  | float (x : Float)
  | text (s : String)
  | bytes (b : List UInt8)
  | list (items : List Datum)
  | record (fields : List (String × Datum))
  | other
  deriving Inhabited

namespace Datum

mutual

def ofJson : Json → Datum
  | .null => .null
  | .bool b => .bool b
  | .int n => .int n
  | .float x => .float x
  | .text s => .text s
  | .array items => .list (ofItems items)
  | .object fields => .record (ofFields fields)

def ofItems : List Json → List Datum
  | [] => []
  | item :: rest => ofJson item :: ofItems rest

def ofFields : List (String × Json) → List (String × Datum)
  | [] => []
  | (name, value) :: rest => (name, ofJson value) :: ofFields rest

end

/-- The datum of an atom. -/
def ofAtom : Yaml.Atom → Datum
  | .null => .null
  | .bool b => .bool b
  | .int n => .int n
  | .float x => .float x
  | .nan => .float (0.0 / 0.0)
  | .text s => .text s
  | .bytes b => .bytes b
  | _ => .other

/-- The kind of a YAML value as a datum. The parts of collections are left out, which keeps those that
are part of themselves finite. -/
def kindOf : Yaml.Value → Datum
  | .atom a => ofAtom a
  | .list _ => .list []
  | .map _ => .record []
  | .set _ => .other
  | .pairs _ => .list []

/-- The fields that the text keys of a mapping name. -/
def ofEntries (d : Yaml.Document) : List (Yaml.Key × Yaml.Ref) → List (String × Datum)
  | [] => []
  | (key, value) :: rest =>
    match key.atom with
    | .text name => (name, kindOf (d.value value)) :: ofEntries d rest
    | _ => ofEntries d rest

/-- The datum of a document whose fields are no collections. -/
def ofYaml (d : Yaml.Document) : Datum :=
  match d.content with
  | .map entries => .record (ofEntries d entries)
  | value => kindOf value

mutual

/-- The JSON form of a datum, as far as it has one. -/
def toJson : Datum → Json
  | .null => .null
  | .bool b => .bool b
  | .int n => .int n
  | .float x => .float x
  | .text s => .text s
  | .bytes _ => .null
  | .list items => .array (toItems items)
  | .record fields => .object (toFields fields)
  | .other => .null

def toItems : List Datum → List Json
  | [] => []
  | item :: rest => toJson item :: toItems rest

def toFields : List (String × Datum) → List (String × Json)
  | [] => []
  | (name, value) :: rest => (name, toJson value) :: toFields rest

end

end Datum

end VpcMachines
