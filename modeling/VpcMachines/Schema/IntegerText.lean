import VpcMachines.Text.Blank
import VpcMachines.Text.Split

/-!
# Integers written as text

A text is taken for an integer if it is written as in JSON: a minus sign or none, and digits without a
zero in front. Any other text is tidied once and then tried again: white space around it, a plus sign,
zeros in front, a fraction of zeros, and underscores between digits are taken away. Zeros and
underscores in front are passed over up to the first other digit or minus sign, so the sign may also
stand behind them.

Only a text that is too long as it stands is told apart from one that is no integer.
-/

namespace VpcMachines.Schema.IntegerText

open Text

inductive Problem where
  | tooLong
  | noInteger
  deriving DecidableEq, Repr

/-- How many characters an integer may have, with its sign. -/
def limit : Nat := 4300

/-- An integer as in JSON. Its length is looked at before what follows the digits. -/
def readStrict (s : List Char) : Except Problem Int :=
  let (negative, magnitude) : Bool × List Char :=
    match s with
    | '-' :: rest => (true, rest)
    | _ => (false, s)
  let digits := magnitude.takeWhile Char.isDigit
  match digits with
  | [] => .error .noInteger
  | '0' :: _ => if magnitude = ['0'] then .ok 0 else .error .noInteger
  | _ =>
    if limit < digits.length + (if negative then 1 else 0) then .error .tooLong
    else if digits.length < magnitude.length then .error .noInteger
    else
      let n : Int := valueOf 10 (digits.filterMap digit?)
      .ok (if negative then -n else n)

def isOtherDigit (c : Char) : Bool := '1' ≤ c && c ≤ '9'

/-- What is left behind zeros and underscores, of which `last` was the last. Before a point it stays, and
so it does at the end. -/
def behindZeros (last : Char) : List Char → Option (List Char)
  | [] => some [last]
  | c :: rest =>
    if c = '0' ∨ c = '_' then behindZeros c rest
    else if isOtherDigit c ∨ c = '-' then some (c :: rest)
    else if c = '.' then some (last :: c :: rest)
    else none

/-- The text without zeros in front. It has to begin with a digit. -/
def withoutZeros : List Char → Option (List Char)
  | [] => none
  | c :: rest =>
    if c = '0' then behindZeros c rest
    else if isOtherDigit c then some (c :: rest)
    else none

/-- The text without a point and the zeros behind it, if it ends in them. -/
def withoutFraction (s : List Char) : List Char :=
  match cutAt '.' s with
  | (whole, some zeros) => if !zeros.isEmpty && zeros.all (· == '0') then whole else s
  | (_, none) => s

/-- The text without underscores, if they stand alone and between other characters. -/
def withoutUnderscores (s : List Char) : List Char :=
  if (splitAt '_' s).all fun piece ↦ !piece.isEmpty then s.filter (· != '_') else s

/-- The sign that is kept, and what follows it. Two signs are none. -/
def signed : List Char → Option (List Char × List Char)
  | '+' :: rest => if rest.head? = some '-' then none else some ([], rest)
  | '-' :: rest =>
    if rest.head? = some '-' ∨ rest.head? = some '+' then none else some (['-'], rest)
  | s => some ([], s)

def tidied (s : List Char) : Option (List Char) := do
  let (sign, magnitude) ← signed (trimBlank s)
  let digits ← withoutZeros magnitude
  return sign ++ withoutUnderscores (withoutFraction digits)

/-- The integer that a text stands for. -/
def read (s : List Char) : Except Problem Int :=
  match readStrict s with
  | .error .noInteger =>
    match (tidied s).map readStrict with
    | some (.ok n) => .ok n
    | _ => .error .noInteger
  | found => found

example : read "+0_80.00".toList = .ok 80 := by rfl
example : read "8__0".toList = .error .noInteger := by rfl
example : read "0__8".toList = .ok 8 := by rfl
example : read "0-1".toList = .ok (-1) := by rfl

end VpcMachines.Schema.IntegerText
