/-!
# Halves of surrogate pairs

Escapes can name half of a surrogate pair that stands alone. That is no character, so a text consists of
letters: characters and such halves. It is kept as a string, in which a half is a mark and a character of
a private block behind it. Where marks stand in front of such a character, their number is doubled, and
one more of them makes it a half; everywhere else they are characters as all others. In this way strings
and texts correspond one to one, and a string without marks is the text of its characters.
-/

namespace VpcMachines.Text

/-- Half of a surrogate pair, by its place among all of them. -/
abbrev Half := Fin 0x800

namespace Half

def code (h : Half) : Nat := 0xD800 + h

def ofCode? (code : Nat) : Option Half :=
  if h : 0xD800 ≤ code ∧ code < 0xE000 then some ⟨code - 0xD800, by omega⟩ else none

/-- The character of a half, which is one only behind a mark. -/
def char (h : Half) : Char := Char.ofNat (0xE000 + h)

def ofChar? (c : Char) : Option Half :=
  if h : 0xE000 ≤ c.toNat ∧ c.toNat < 0xE800 then some ⟨c.toNat - 0xE000, by omega⟩ else none

/-- Whether a half can stand for a byte that is part of no character. -/
def isByte (h : Half) : Bool := 0xDC80 ≤ h.code && h.code < 0xDD00

/-- The mark in front of the character of a half. It is a code point for no character. -/
def mark : Char := '\uFFFF'

end Half

def isHighHalf (code : Nat) : Bool := 0xD800 ≤ code && code < 0xDC00

def isLowHalf (code : Nat) : Bool := 0xDC00 ≤ code && code < 0xE000

inductive Letter where
  | char (c : Char)
  | half (h : Half)
  deriving DecidableEq, Repr

namespace Letter

/-- The letter of a code point. -/
def ofCode (code : Nat) : Letter :=
  match Half.ofCode? code with
  | some h => .half h
  | none => .char (Char.ofNat code)

def code : Letter → Nat
  | .char c => c.toNat
  | .half h => h.code

def isHalf : Letter → Bool
  | .char _ => false
  | .half _ => true

end Letter

/-- The letters of a string, behind some marks. -/
def lettersFrom (marks : Nat) : List Char → List Letter
  | [] => List.replicate marks (.char Half.mark)
  | c :: rest =>
    if c = Half.mark then lettersFrom (marks + 1) rest
    else
      match Half.ofChar? c with
      | none => List.replicate marks (.char Half.mark) ++ .char c :: lettersFrom 0 rest
      | some h =>
        List.replicate (marks / 2) (.char Half.mark) ++
          (if marks % 2 = 1 then .half h else .char c) :: lettersFrom 0 rest

/-- The letters of the text that a string keeps. -/
def letters (s : List Char) : List Letter := lettersFrom 0 s

/-- The string that keeps letters, behind some marks among them. -/
def ofLettersFrom (marks : Nat) : List Letter → List Char
  | [] => List.replicate marks Half.mark
  | .half h :: rest => List.replicate (2 * marks + 1) Half.mark ++ h.char :: ofLettersFrom 0 rest
  | .char c :: rest =>
    if c = Half.mark then ofLettersFrom (marks + 1) rest
    else
      match Half.ofChar? c with
      | none => List.replicate marks Half.mark ++ c :: ofLettersFrom 0 rest
      | some _ => List.replicate (2 * marks) Half.mark ++ c :: ofLettersFrom 0 rest

/-- The string that keeps a text. -/
def ofLetters (s : List Letter) : List Char := ofLettersFrom 0 s

/-- A text without halves, given by its characters, as it is kept. -/
def kept (s : String) : String := String.ofList (ofLetters (s.toList.map .char))

example : letters "\uFFFF\ue000".toList = [Letter.ofCode 0xD800] := by decide
example : letters "\uFFFF\uFFFF\ue000".toList = [.char '\uFFFF', .char '\ue000'] := by decide

end VpcMachines.Text
