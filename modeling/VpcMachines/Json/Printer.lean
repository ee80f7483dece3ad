import VpcMachines.Decimal.Layout
import VpcMachines.Json.Basic
import VpcMachines.Text.Quoted

/-!
# Writing JSON

Values are written on one line in ASCII, with a blank behind each comma and colon. Characters beyond
ASCII are written as escapes of their UTF-16 units.
-/

namespace VpcMachines.Json

open Text

def numberLayout : Decimal.Layout := ⟨-4, 16, 2, "Infinity", "NaN"⟩

def writeUnit (n : Nat) : List Char := '\\' :: 'u' :: hex 4 n

def writeChar (c : Char) : List Char :=
  if c = '"' ∨ c = '\\' then ['\\', c]
  else if c = '\n' then ['\\', 'n']
  else if c = '\r' then ['\\', 'r']
  else if c = '\t' then ['\\', 't']
  else if c = '\x08' then ['\\', 'b']
  else if c = '\x0c' then ['\\', 'f']
  else if 0x20 ≤ c.toNat ∧ c.toNat < 0x7F then [c]
  else if c.toNat < 0x10000 then writeUnit c.toNat
  else
    let n := c.toNat - 0x10000
    writeUnit (0xD800 + n / 0x400) ++ writeUnit (0xDC00 + n % 0x400)

def writeLetter : Letter → List Char
  | .char c => writeChar c
  | .half h => writeUnit h.code

def writeText (s : String) : List Char :=
  '"' :: ((letters s.toList).flatMap writeLetter ++ ['"'])

mutual

def write : Json → List Char
  | .null => "null".toList
  | .bool b => (if b then "true" else "false").toList
  | .int n => (toString n).toList
  | .float x => (numberLayout.write x).toList
  | .text s => writeText s
  | .array items => '[' :: writeItems true items
  | .object fields => '{' :: writeFields true fields

/-- The items that are left and the closing bracket. -/
def writeItems (atFront : Bool) : List Json → List Char
  | [] => [']']
  | item :: rest => (if atFront then [] else [',', ' ']) ++ write item ++ writeItems false rest

/-- The members that are left and the closing brace. -/
def writeFields (atFront : Bool) : List (String × Json) → List Char
  | [] => ['}']
  | (name, item) :: rest =>
    (if atFront then [] else [',', ' ']) ++ writeText name ++ ':' :: ' ' :: write item ++
      writeFields false rest

end

def render (value : Json) : String := String.ofList value.write

end VpcMachines.Json
