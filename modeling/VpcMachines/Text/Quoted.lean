import VpcMachines.Text.Halves
import VpcMachines.Text.Shown

/-!
# Quoted texts

A text is quoted with single quotes, or with double quotes if it holds a single quote and no double
one. Inside, the backslash, the quote that was chosen, and the characters that cannot be shown are
written as escapes.
-/

namespace VpcMachines.Text

/-- The hexadecimal digits of `n`, at least `width` of them, in lower case. -/
def hex (width n : Nat) : List Char :=
  let digits := Nat.toDigits 16 n
  List.replicate (width - digits.length) '0' ++ digits

/-- An escape by a code point, in the shortest of the three widths that holds it. -/
def escapeCode (code : Nat) : List Char :=
  if code < 0x100 then '\\' :: 'x' :: hex 2 code
  else if code < 0x10000 then '\\' :: 'u' :: hex 4 code
  else '\\' :: 'U' :: hex 8 code

def escapeChar (mark c : Char) : List Char :=
  if c = mark ∨ c = '\\' then ['\\', c]
  else if c = '\n' then ['\\', 'n']
  else if c = '\r' then ['\\', 'r']
  else if c = '\t' then ['\\', 't']
  else if isShown c then [c]
  else escapeCode c.toNat

def escapeLetter (mark : Char) : Letter → List Char
  | .char c => escapeChar mark c
  | .half h => escapeCode h.code

/-- The quotation mark that a text is put into. -/
def markFor (s : List Char) : Char :=
  if s.contains '\'' && !s.contains '"' then '"' else '\''

/-- The quoted form of a text. -/
def quote (s : String) : String :=
  let mark := markFor s.toList
  String.ofList (mark :: ((letters s.toList).flatMap (escapeLetter mark) ++ [mark]))

/-- The quoted form of a byte string: bytes outside printable ASCII are written by their codes. -/
def quoteBytes (bytes : List UInt8) : String :=
  let chars := bytes.map fun b ↦ Char.ofNat b.toNat
  let mark := markFor chars
  let one (c : Char) : List Char :=
    if c.toNat < 0x7F then escapeChar mark c else '\\' :: 'x' :: hex 2 c.toNat
  String.ofList ('b' :: mark :: (chars.flatMap one ++ [mark]))

example : quote "it's" = "\"it's\"" := by decide +kernel
example : quote "tab\there" = "'tab\\there'" := by decide +kernel
example : quote "\u200b" = "'\\u200b'" := by decide +kernel

end VpcMachines.Text
