/-!
# Base64

The standard alphabet with padding. The strict decoder refuses every character outside the alphabet,
data behind padding, and a text that ends inside a group; the lenient one passes over characters that
do not belong. Both leave padding that comes too early in a group without effect.
-/

namespace VpcMachines.Text.Base64

/-- The character of a six-bit digit. -/
def digitChar (n : Nat) : Char :=
  if n < 26 then Char.ofNat (65 + n)
  else if n < 52 then Char.ofNat (71 + n)
  else if n < 62 then Char.ofNat (n - 4)
  else if n = 62 then '+'
  else '/'

/-- The six-bit digit of a character. -/
def digit? (c : Char) : Option Nat :=
  if 'A' ≤ c ∧ c ≤ 'Z' then some (c.toNat - 65)
  else if 'a' ≤ c ∧ c ≤ 'z' then some (c.toNat - 71)
  else if '0' ≤ c ∧ c ≤ '9' then some (c.toNat + 4)
  else if c = '+' then some 62
  else if c = '/' then some 63
  else none

def encode : List UInt8 → List Char
  | [] => []
  | [a] => [digitChar (a.toNat / 4), digitChar (a.toNat % 4 * 16), '=', '=']
  | [a, b] =>
    [digitChar (a.toNat / 4), digitChar (a.toNat % 4 * 16 + b.toNat / 16),
      digitChar (b.toNat % 16 * 4), '=']
  | a :: b :: c :: rest =>
    digitChar (a.toNat / 4) :: digitChar (a.toNat % 4 * 16 + b.toNat / 16) ::
      digitChar (b.toNat % 16 * 4 + c.toNat / 64) :: digitChar (c.toNat % 64) :: encode rest

inductive Fault where
  | strayCharacter
  | earlyPadding
  | dataAfterPadding
  | unfinishedGroup
  deriving DecidableEq, Repr

/-- How far the current group of four has come: digits read, the bits not yet written out, padding
marks since the last digit, and whether padding was seen at all. -/
structure Group where
  digits : Nat
  carry : Nat
  marks : Nat
  padded : Bool

def Group.empty : Group := ⟨0, 0, 0, false⟩

/-- Adds a digit. Every digit but the first of a group completes a byte. -/
def Group.push (g : Group) (d : Nat) : Option UInt8 × Group :=
  match g.digits with
  | 0 => (none, ⟨1, d, 0, g.padded⟩)
  | 1 => (some (UInt8.ofNat (g.carry * 4 + d / 16)), ⟨2, d % 16, 0, g.padded⟩)
  | 2 => (some (UInt8.ofNat (g.carry * 16 + d / 4)), ⟨3, d % 4, 0, g.padded⟩)
  | _ => (some (UInt8.ofNat (g.carry * 64 + d)), ⟨0, 0, 0, g.padded⟩)

def decodeFrom (strict : Bool) (g : Group) : List Char → Except Fault (List UInt8)
  | [] => if g.digits = 0 then .ok [] else .error .unfinishedGroup
  | '=' :: rest =>
    if 2 ≤ g.digits ∧ 4 ≤ g.digits + g.marks + 1 then
      if strict ∧ rest ≠ [] then .error .dataAfterPadding else .ok []
    else
      let marks := if 2 ≤ g.digits then g.marks + 1 else g.marks
      decodeFrom strict { g with marks := marks, padded := true } rest
  | c :: rest =>
    match digit? c with
    | none => if strict then .error .strayCharacter else decodeFrom strict g rest
    | some d =>
      if strict ∧ g.padded then .error .dataAfterPadding
      else
        match g.push d with
        | (none, g') => decodeFrom strict g' rest
        | (some b, g') => (decodeFrom strict g' rest).map (b :: ·)

/-- Strict decoding. -/
def decode (s : List Char) : Except Fault (List UInt8) :=
  match s with
  | '=' :: _ => .error .earlyPadding
  | _ => decodeFrom true .empty s

/-- Decoding that passes over characters outside the alphabet. -/
def decodeLenient (s : List Char) : Except Fault (List UInt8) := decodeFrom false .empty s

example : decode "aGk=".toList = .ok [0x68, 0x69] := by rfl
example : decode "aGk=aGk=".toList = .error .dataAfterPadding := by rfl

end VpcMachines.Text.Base64
