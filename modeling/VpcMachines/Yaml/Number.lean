import VpcMachines.Decimal.Reading
import VpcMachines.Text.Blank
import VpcMachines.Text.Lowercase
import VpcMachines.Text.Split
import VpcMachines.Yaml.Fault

/-!
# Numbers in YAML

Underscores in a number do not count. Integers are written in decimal, with a leading zero in octal,
with `0x` or `0b` in the bases sixteen or two, or as parts of sixty with colons between them. Numbers
with a point may have parts of sixty too. A tag may put the type of number on a text that is not
written so; such a text is read as leniently as possible.
-/

namespace VpcMachines.Yaml

open Text

/-- The code points of the digit zero in each script that has decimal digits. -/
def zeros : List Nat :=
  [0x30, 0x660, 0x6F0, 0x7C0, 0x966, 0x9E6, 0xA66, 0xAE6, 0xB66, 0xBE6, 0xC66, 0xCE6, 0xD66, 0xDE6,
   0xE50, 0xED0, 0xF20, 0x1040, 0x1090, 0x17E0, 0x1810, 0x1946, 0x19D0, 0x1A80, 0x1A90, 0x1B50,
   0x1BB0, 0x1C40, 0x1C50, 0xA620, 0xA8D0, 0xA900, 0xA9D0, 0xA9F0, 0xAA50, 0xABF0, 0xFF10, 0x104A0,
   0x10D30, 0x11066, 0x110F0, 0x11136, 0x111D0, 0x112F0, 0x11450, 0x114D0, 0x11650, 0x116C0, 0x11730,
   0x118E0, 0x11950, 0x11C50, 0x11D50, 0x11DA0, 0x16A60, 0x16AC0, 0x16B50, 0x1D7CE, 0x1D7D8, 0x1D7E2,
   0x1D7EC, 0x1D7F6, 0x1E140, 0x1E2F0, 0x1E950, 0x1FBF0]

/-- A decimal digit of any script as an ASCII digit; other characters as they are. -/
def plainDigit (c : Char) : Char :=
  if c.toNat < 0x80 then c
  else
    match zeros.find? fun least ↦ least ≤ c.toNat && c.toNat ≤ least + 9 with
    | some least => Char.ofNat (0x30 + (c.toNat - least))
    | none => c

def digitIn? (base : Nat) (c : Char) : Option Nat :=
  (hexDigit? c).filter (· < base)

/-- A sign at the front, and what is behind it. -/
def signed (s : List Char) : Bool × List Char :=
  match s with
  | '-' :: rest => (true, rest)
  | '+' :: rest => (false, rest)
  | _ => (false, s)

/-- The letter that may follow a leading zero in a base. -/
def baseLetter? : Nat → Option Char
  | 2 => some 'b'
  | 8 => some 'o'
  | 16 => some 'x'
  | _ => none

def withoutBaseLetter (base : Nat) (s : List Char) : List Char :=
  match s with
  | '0' :: letter :: rest => if baseLetter? base = some letter.toLower then rest else s
  | _ => s

/-- A sign and digits in a base, with white space around them. -/
def readInteger (base : Nat) (s : List Char) : Except Fault Int :=
  let (negative, magnitude) := signed (trimBlank (s.map plainDigit))
  let digits := withoutBaseLetter base magnitude
  match digits.mapM (digitIn? base) with
  | none => .error (.notInteger base (String.ofList s))
  | some values =>
    if values.isEmpty then .error (.notInteger base (String.ofList s))
    else if base = 10 ∧ 4300 < values.length then .error (.tooManyDigits values.length)
    else .ok (if negative then -(valueOf base values : Int) else valueOf base values)

/-- The value of parts of sixty, the last part first. -/
def sixtieths : List Int → Int
  | [] => 0
  | part :: larger => part + 60 * sixtieths larger

/-- The integer that a scalar tagged as one stands for. -/
def integerOf (text : String) : Except Fault Int := do
  let s := text.toList.filter (· != '_')
  let (negative, magnitude) := signed s
  let n ← match magnitude with
    | [] => .error .emptyNumber
    | ['0'] => .ok 0
    | '0' :: 'b' :: digits => readInteger 2 digits
    | '0' :: 'x' :: digits => readInteger 16 digits
    | '0' :: digits => readInteger 8 ('0' :: digits)
    | c :: rest =>
      if (c :: rest).contains ':' then do
        let parts ← (splitAt ':' (c :: rest)).mapM (readInteger 10)
        Except.ok (sixtieths parts.reverse)
      else readInteger 10 (c :: rest)
  return if negative then -n else n

/-- The digits of a decimal with an optional point, as one number, and how many follow the point. -/
def mantissa (s : List Char) : Option (Nat × Nat) :=
  let (whole, fraction) := cutAt '.' s
  let digits := whole ++ fraction.getD []
  if digits.isEmpty then none
  else (digits.mapM digit?).map fun values ↦ (valueOf 10 values, (fraction.getD []).length)

/-- A decimal with an optional exponent, or a word for a number that is not finite, with white space
around it. -/
def readNumber (s : List Char) : Option Float := do
  let (negative, magnitude) := signed (trimBlank (s.map plainDigit))
  let word := magnitude.map Char.toLower
  if word = "inf".toList ∨ word = "infinity".toList then
    return if negative then -1.0 / 0.0 else 1.0 / 0.0
  else if word = "nan".toList then return 0.0 / 0.0
  else
    let (written, exponent) := cutAt 'e' word
    let (digits, places) ← mantissa written
    let power : Int ← match exponent with
      | none => some 0
      | some e =>
        let (below, size) := signed e
        if size.isEmpty then none
        else (size.mapM digit?).map fun values ↦
          if below then -(valueOf 10 values : Int) else valueOf 10 values
    return Decimal.nearest negative digits (power - places)

/-- The least whole number that is rounded to no float, but to an infinity. -/
def floatLimit : Nat := Nat.pow 2 1024 - Nat.pow 2 970

/-- The sum of parts of sixty, the last part first; `unit` is the weight of the first, a whole number that
has to become a float. -/
def sixtiethsFrom (unit : Nat) (sum : Float) : List Float → Except Fault Float
  | [] => .ok sum
  | part :: larger =>
    if floatLimit ≤ unit then .error .weightTooLarge
    else sixtiethsFrom (unit * 60) (sum + part * Decimal.nearest false unit 0) larger

/-- The sign of a scalar tagged as a number, and what is behind it. -/
def signedNumber (text : String) : Bool × List Char :=
  signed (lower (text.toList.filter (· != '_')))

/-- Whether a text is the word for what is no number, with or without a sign. -/
def isNanWord (text : String) : Bool := (signedNumber text).2 == ".nan".toList

/-- The number that any other scalar tagged as one stands for. -/
def numberOf (text : String) : Except Fault Float := do
  let (negative, magnitude) := signedNumber text
  let read (part : List Char) : Except Fault Float :=
    match readNumber part with
    | some x => .ok x
    | none => .error (.notNumber (String.ofList part))
  if text.toList.all (· == '_') then .error .emptyNumber
  else if magnitude = ".inf".toList then return if negative then -1.0 / 0.0 else 1.0 / 0.0
  else
    let x ←
      if magnitude.contains ':' then do
        let parts ← (splitAt ':' magnitude).mapM read
        sixtiethsFrom 1 0.0 parts.reverse
      else read magnitude
    return if negative then -x else x

/-- The boolean of a word, in any case. -/
def booleanOf (text : String) : Except Fault Bool :=
  let word := String.ofList (lower text.toList)
  if ["yes", "true", "on"].contains word then .ok true
  else if ["no", "false", "off"].contains word then .ok false
  else .error (.notBoolean word)

example : integerOf "0x1_F" = .ok 31 := by rfl
example : integerOf "-1:30" = .ok (-90) := by rfl

end VpcMachines.Yaml
