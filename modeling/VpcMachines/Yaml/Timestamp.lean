import VpcMachines.Calendar
import VpcMachines.Text.Split

/-!
# Timestamps in YAML

A day, optionally followed by a time of day with a fraction of a second and an offset from universal
time. The parts are taken as written; whether they name a day that exists is a question for the
calendar.
-/

namespace VpcMachines.Yaml

open Text

/-- What a timestamp says, and whether month and day are written with two digits. -/
structure Timestamp where
  date : Calendar.Date
  isPadded : Bool
  time : Option (Nat × Nat × Nat × Nat × Option Int)

/-- Between `least` and `most` digits at the front: their value and how many they are. -/
def digitsAt (least most : Nat) (s : List Char) : Option (Nat × Nat) :=
  let digits := (s.takeWhile Char.isDigit).take most
  if least ≤ digits.length then some (valueOf 10 (digits.filterMap digit?), digits.length) else none

def after (mark : Char) : List Char → Option (List Char)
  | [] => none
  | c :: rest => if c = mark then some rest else none

/-- The microseconds that the digits of a fraction stand for; digits behind the sixth do not count. -/
def microseconds (digits : List Char) : Nat :=
  let kept := digits.take 6
  valueOf 10 (kept.filterMap digit?) * Nat.pow 10 (6 - kept.length)

/-- An offset up to the end of the text. -/
def offsetAt (s : List Char) : Option (Option Int) :=
  match s.dropWhile fun c ↦ c == ' ' || c == '\t' with
  | [] => if s.isEmpty then some none else none
  | ['Z'] => some (some 0)
  | sign :: rest => do
    let negative ← if sign = '-' then some true else if sign = '+' then some false else none
    let (hours, size) ← digitsAt 1 2 rest
    let minutes ← match rest.drop size with
      | [] => some 0
      | ':' :: rest => do
        let (minutes, size) ← digitsAt 2 2 rest
        if (rest.drop size).isEmpty then some minutes else none
      | _ => none
    let total : Int := hours * 60 + minutes
    return some (if negative then -total else total)

/-- A time of day up to the end of the text. -/
def timeAt (s : List Char) : Option (Nat × Nat × Nat × Nat × Option Int) := do
  let (hour, size) ← digitsAt 1 2 s
  let s ← after ':' (s.drop size)
  let (minute, size) ← digitsAt 2 2 s
  let s ← after ':' (s.drop size)
  let (second, size) ← digitsAt 2 2 s
  let s := s.drop size
  let (fraction, s) : List Char × List Char :=
    match s with
    | '.' :: rest => rest.span Char.isDigit
    | _ => ([], s)
  let offset ← offsetAt s
  return (hour, minute, second, microseconds fraction, offset)

def Timestamp.read (s : List Char) : Option Timestamp := do
  let (year, size) ← digitsAt 4 4 s
  let s ← after '-' (s.drop size)
  let (month, monthSize) ← digitsAt 1 2 s
  let s ← after '-' (s.drop monthSize)
  let (day, daySize) ← digitsAt 1 2 s
  let s := s.drop daySize
  let time ← match s with
    | [] => some none
    | c :: rest =>
      if c = 'T' ∨ c = 't' then (timeAt rest).map some
      else if c = ' ' ∨ c = '\t' then
        (timeAt (rest.dropWhile fun c ↦ c == ' ' || c == '\t')).map some
      else none
  return ⟨⟨year, month, day⟩, monthSize = 2 ∧ daySize = 2, time⟩

/-- Whether a text without a tag is taken for a timestamp: a day alone must be written in full. -/
def isTimestamp (s : List Char) : Bool :=
  (Timestamp.read s).any fun t ↦ t.time.isSome || t.isPadded

end VpcMachines.Yaml
