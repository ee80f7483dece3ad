import VpcMachines.Decimal.Layout
import VpcMachines.Text.Base64
import VpcMachines.Yaml.Number
import VpcMachines.Yaml.Resolution

/-!
# Atoms

The values of scalars. The tag of a scalar says how its text is read. An atom has a plain form, which
for a text is the text itself, and a quoted form, in which it stands inside collections.
-/

namespace VpcMachines.Yaml

open Text

inductive Atom where
  | null
  | bool (b : Bool)
  | int (n : Int)
  | float (x : Float)
  /-- What the word for it stands for: no number, but one and the same wherever the word is written. -/
  | nan
  | text (s : String)
  | bytes (b : List UInt8)
  | date (d : Calendar.Date)
  | moment (m : Calendar.Moment)

/-- Whether a tag asks for an atom. -/
def Tag.isScalar : Tag → Bool
  | .null | .bool | .int | .float | .binary | .timestamp | .text => true
  | _ => false

/-- Whether a tag asks for a collection. -/
def Tag.isCollection : Tag → Bool
  | .sequence | .mapping | .set | .omap | .pairs => true
  | _ => false

namespace Atom

def timestampOf (text : String) : Except Fault Atom :=
  match Timestamp.read (withoutFinalBreak text.toList) with
  | none => .error .notTimestamp
  | some t =>
    let found : Except Calendar.Fault Atom :=
      match t.time with
      | none => t.date.check.map .date
      | some (hour, minute, second, microsecond, offset) =>
        (Calendar.Moment.check ⟨t.date, hour, minute, second, microsecond, offset⟩).map .moment
    match found with
    | .ok v => .ok v
    | .error fault => .error (.calendar fault)

def binaryOf (text : String) : Except Fault Atom :=
  if text.toList.all fun c ↦ c.toNat < 0x80 then
    match Base64.decodeLenient text.toList with
    | .ok b => .ok (.bytes b)
    | .error _ => .error .malformed
  else .error .malformed

/-- The atom that a text stands for. -/
def ofText (tag : Tag) (text : String) : Except Fault Atom :=
  match tag with
  | .null => .ok .null
  | .bool => (booleanOf text).map .bool
  | .int => (integerOf text).map .int
  | .float => if isNanWord text then .ok .nan else (numberOf text).map .float
  | .binary => binaryOf text
  | .timestamp => timestampOf text
  | .text => .ok (.text text)
  | _ => .error .malformed

/-- A number for comparison: an integer, or a number that is none. -/
inductive Numeric where
  | integer (n : Int)
  | other (x : Float)

/-- What an atom counts as among numbers. -/
def numeric? : Atom → Option Numeric
  | .bool b => some (.integer (if b then 1 else 0))
  | .int n => some (.integer n)
  | .float x =>
    match Decimal.integrality x with
    | .integer n => some (.integer n)
    | _ => some (.other x)
  | _ => none

/-- Whether two atoms are equal. Numbers are compared by value, whatever their type. -/
def coincides (a b : Atom) : Bool :=
  match numeric? a, numeric? b with
  | some (.integer m), some (.integer n) => m == n
  | some (.other x), some (.other y) => x == y
  | some _, _ => false
  | _, some _ => false
  | none, none =>
    match a, b with
    | .null, .null => true
    | .nan, .nan => true
    | .text s, .text t => s == t
    | .bytes s, .bytes t => s == t
    | .date d, .date e => d == e
    | .moment m, .moment n => m.coincides n
    | _, _ => false

/-- Null, `false`, zero, and what is empty. -/
def isFalsy : Atom → Bool
  | .null => true
  | .bool b => !b
  | .int n => n == 0
  | .float x => x == 0.0
  | .text s => s == ""
  | .bytes b => b.isEmpty
  | _ => false

/-- How many digits an integer may have to be written. -/
def digitLimit : Nat := 4300

def integerForm (n : Int) : Except Fault String :=
  if n.natAbs < Nat.pow 10 digitLimit then .ok (toString n) else .error .unwritable

/-- The form of an atom inside a collection. -/
def quotedForm : Atom → Except Fault String
  | .null => .ok "None"
  | .bool b => .ok (if b then "True" else "False")
  | .int n => integerForm n
  | .float x => .ok (Decimal.standardLayout.write x)
  | .nan => .ok "nan"
  | .text s => .ok (quote s)
  | .bytes b => .ok (quoteBytes b)
  | .date d => .ok d.constructorForm
  | .moment m => .ok m.constructorForm

/-- The form of an atom on its own. -/
def plainForm : Atom → Except Fault String
  | .text s => .ok s
  | .date d => .ok d.text
  | .moment m => .ok m.text
  | a => a.quotedForm

end Atom

end VpcMachines.Yaml
