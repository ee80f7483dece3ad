import VpcMachines.Decimal.Reading
import VpcMachines.Schema.IntegerText
import VpcMachines.Schema.Verdict
import VpcMachines.Text.Utf8

/-!
# Rules for single values

Texts are taken as they are. Integers and booleans are also recognised in other spellings: integers as
booleans, as numbers without a fractional part and as text, booleans as one and zero and as words.
-/

namespace VpcMachines.Schema

open Text

/-- A text, or bytes that are one in UTF-8. -/
def text : Check String
  | .text s => .accepted s
  | .bytes b =>
    match Utf8.decodeWhole b with
    | .ok s => .accepted s
    | .error _ => .refuse .notUnicode
  | _ => .refuse .notText

/-- A reading of a text, which must not have halves of surrogate pairs. -/
def ofWholeText {α : Type} (s : String) (read : Verdict α) : Verdict α :=
  if (letters s.toList).any Letter.isHalf then .refuse .notUnicode else read

def integerOfText (s : String) : Verdict Int :=
  ofWholeText s <|
    match IntegerText.read s.toList with
    | .ok n => .accepted n
    | .error .tooLong => .refuse .tooLarge
    | .error .noInteger => .refuse .notIntegerText

/-- The least number that no integer of 64 bits reaches. -/
def beyondInt64 : Nat := Nat.pow 2 63

/-- An integer. A number has to be strictly inside the range of 64-bit integers. -/
def integer : Check Int
  | .int n => .accepted n
  | .bool b => .accepted (if b then 1 else 0)
  | .float x =>
    match Decimal.integrality x with
    | .notFinite => .refuse .notFinite
    | .fractional => .refuse .fractional
    | .integer n => if n.natAbs < beyondInt64 then .accepted n else .refuse .tooLarge
  | .text s => integerOfText s
  | .bytes b =>
    match Utf8.decodeWhole b with
    | .ok s => integerOfText s
    | .error _ => .refuse .notIntegerText
  | _ => .refuse .notInteger

/-- An integer between two bounds. -/
def integerBetween (least most : Nat) (d : Datum) : Verdict Int :=
  match integer d with
  | .rejected issues => .rejected issues
  | .accepted n =>
    if n < least then .refuse (.below least)
    else if most < n then .refuse (.above most)
    else .accepted n

def trueWords : List String := ["true", "t", "yes", "y", "on", "1"]

def falseWords : List String := ["false", "f", "no", "n", "off", "0"]

def booleanOfText (s : String) : Verdict Bool :=
  ofWholeText s <|
    let word := String.ofList (s.toList.map Char.toLower)
    if trueWords.contains word then .accepted true
    else if falseWords.contains word then .accepted false
    else .refuse .notBooleanText

def booleanOfInteger (n : Int) : Verdict Bool :=
  if n = 1 then .accepted true
  else if n = 0 then .accepted false
  else if n < -beyondInt64 ∨ beyondInt64 ≤ n then .refuse .notBoolean
  else .refuse .notBooleanText

/-- A boolean. Integers outside the range of 64 bits, and numbers that are no such integer, are not
even taken for attempts at one. -/
def boolean : Check Bool
  | .bool b => .accepted b
  | .int n => booleanOfInteger n
  | .float x =>
    match Decimal.integrality x with
    | .integer n => if n = -beyondInt64 then .refuse .notBoolean else booleanOfInteger n
    | _ => .refuse .notBoolean
  | .text s => booleanOfText s
  | .bytes b =>
    match Utf8.decodeWhole b with
    | .ok s => booleanOfText s
    | .error _ => .refuse .notBooleanText
  | _ => .refuse .notBoolean

end VpcMachines.Schema
