import VpcMachines.Decimal.Reading
import VpcMachines.Json.Basic
import VpcMachines.Text.Halves
import VpcMachines.Text.Split

/-!
# Reading JSON

The reader takes the standard grammar and the three words for numbers that are not finite. Of several
members of one name the last counts. A text that cannot be read is refused at a position, given by
line, column and offset.
-/

namespace VpcMachines.Json

open Text

inductive Problem where
  | byteOrderMark
  | expectingValue
  | expectingName
  | expectingColon
  | expectingComma
  | extraData
  | unterminatedText
  | controlCharacter
  | unknownEscape
  | badCodeEscape
  deriving DecidableEq, Repr

def Problem.message : Problem → String
  | .byteOrderMark => "Unexpected UTF-8 BOM (decode using utf-8-sig)"
  | .expectingValue => "Expecting value"
  | .expectingName => "Expecting property name enclosed in double quotes"
  | .expectingColon => "Expecting ':' delimiter"
  | .expectingComma => "Expecting ',' delimiter"
  | .extraData => "Extra data"
  | .unterminatedText => "Unterminated string starting at"
  | .controlCharacter => "Invalid control character at"
  | .unknownEscape => "Invalid \\escape"
  | .badCodeEscape => "Invalid \\uXXXX escape"

/-- Why reading failed. Integers are limited in their number of digits, and arrays and objects in how
deep they may lie inside each other. -/
inductive Failure where
  | malformed (problem : Problem) (offset : Nat)
  | tooManyDigits (count : Nat)
  | arrayTooDeep
  | objectTooDeep
  deriving DecidableEq, Repr

/-- What is left of the text, and how many characters were read before it. -/
structure Cursor where
  offset : Nat
  rest : List Char

def Cursor.skip (c : Cursor) (count : Nat) : Cursor := ⟨c.offset + count, c.rest.drop count⟩

def Cursor.fail {α : Type} (c : Cursor) (problem : Problem) : Except Failure α :=
  .error (.malformed problem c.offset)

def isSpace (c : Char) : Bool := c == ' ' || c == '\t' || c == '\n' || c == '\r'

def Cursor.skipSpace (c : Cursor) : Cursor := c.skip (c.rest.takeWhile isSpace).length

/-- The character of a one-letter escape. -/
def escaped? : Char → Option Char
  | '"' => some '"'
  | '\\' => some '\\'
  | '/' => some '/'
  | 'b' => some '\x08'
  | 'f' => some '\x0c'
  | 'n' => some '\n'
  | 'r' => some '\r'
  | 't' => some '\t'
  | _ => none

def hexFour (a b c d : Char) : Option Nat := do
  let digits ← [a, b, c, d].mapM hexDigit?
  return valueOf 16 digits

def ofPair (high low : Nat) : Char :=
  Char.ofNat (0x10000 + (high - 0xD800) * 0x400 + (low - 0xDC00))

/-- The letters up to the closing quote. `start` is where the text began. -/
def textFrom (start offset : Nat) : List Char → Except Failure (List Letter × Cursor)
  | [] => .error (.malformed .unterminatedText start)
  | '"' :: rest => .ok ([], ⟨offset + 1, rest⟩)
  | ['\\'] => .error (.malformed .unterminatedText start)
  | '\\' :: 'u' :: a :: b :: c :: d :: '\\' :: 'u' :: e :: f :: g :: h :: next :: rest =>
    match hexFour a b c d with
    | none => .error (.malformed .badCodeEscape (offset + 1))
    | some high =>
      if isHighHalf high then
        match hexFour e f g h with
        | none => .error (.malformed .badCodeEscape (offset + 7))
        | some low =>
          if isLowHalf low then
            (textFrom start (offset + 12) (next :: rest)).map fun (s, c) ↦ (.char (ofPair high low) :: s, c)
          else
            (textFrom start (offset + 6) ('\\' :: 'u' :: e :: f :: g :: h :: next :: rest)).map
              fun (s, c) ↦ (.ofCode high :: s, c)
      else
        (textFrom start (offset + 6) ('\\' :: 'u' :: e :: f :: g :: h :: next :: rest)).map
          fun (s, c) ↦ (.ofCode high :: s, c)
  | '\\' :: 'u' :: a :: b :: c :: d :: next :: rest =>
    match hexFour a b c d with
    | none => .error (.malformed .badCodeEscape (offset + 1))
    | some unit =>
      (textFrom start (offset + 6) (next :: rest)).map fun (s, c) ↦ (.ofCode unit :: s, c)
  | '\\' :: 'u' :: _ => .error (.malformed .badCodeEscape (offset + 1))
  | '\\' :: e :: rest =>
    match escaped? e with
    | none => .error (.malformed .unknownEscape offset)
    | some c => (textFrom start (offset + 2) rest).map fun (s, k) ↦ (.char c :: s, k)
  | c :: rest =>
    if c.toNat < 0x20 then .error (.malformed .controlCharacter offset)
    else (textFrom start (offset + 1) rest).map fun (s, k) ↦ (.char c :: s, k)

/-- The digits at the front of a text. -/
def digitsOf (s : List Char) : List Char := s.takeWhile Char.isDigit

/-- How many digits an integer may have. -/
def digitLimit : Nat := 4300

/-- The digits behind a decimal point, if there are any. -/
def fractionOf : List Char → List Char
  | '.' :: rest => digitsOf rest
  | _ => []

/-- An exponent: how many characters it takes, and its value. -/
def exponentOf : List Char → Option (Nat × Int)
  | e :: rest =>
    if e = 'e' ∨ e = 'E' then
      let (sign, body) : Int × List Char :=
        match rest with
        | '-' :: body => (-1, body)
        | '+' :: body => (1, body)
        | _ => (1, rest)
      let digits := digitsOf body
      if digits.isEmpty then none
      else some (1 + (rest.length - body.length) + digits.length,
        sign * valueOf 10 (digits.filterMap digit?))
    else none
  | [] => none

/-- A number at the front of the text. -/
def number (c : Cursor) : Except Failure (Json × Cursor) :=
  let (negative, unsigned) : Bool × List Char :=
    match c.rest with
    | '-' :: rest => (true, rest)
    | _ => (false, c.rest)
  let whole :=
    match unsigned with
    | '0' :: _ => ['0']
    | _ => digitsOf unsigned
  if whole.isEmpty then c.fail .expectingValue
  else
    let fraction := fractionOf (unsigned.drop whole.length)
    let fractionSize := if fraction.isEmpty then 0 else fraction.length + 1
    let exponent := exponentOf (unsigned.drop (whole.length + fractionSize))
    let size := (if negative then 1 else 0) + whole.length + fractionSize +
      (exponent.map Prod.fst).getD 0
    let digits := valueOf 10 ((whole ++ fraction).filterMap digit?)
    if fraction.isEmpty && exponent.isNone then
      if digitLimit < whole.length then .error (.tooManyDigits whole.length)
      else .ok (.int (if negative then -digits else digits), c.skip size)
    else
      let power := (exponent.map Prod.snd).getD 0 - fraction.length
      .ok (.float (Decimal.nearest negative digits power), c.skip size)

/-- The words that stand for values. -/
def words : List (List Char × Json) :=
  [("null".toList, .null), ("true".toList, .bool true), ("false".toList, .bool false),
   ("NaN".toList, .float (0.0 / 0.0)), ("Infinity".toList, .float (1.0 / 0.0)),
   ("-Infinity".toList, .float (-1.0 / 0.0))]

/-- A word or a number at the front of the text. -/
def scalar (c : Cursor) : Except Failure (Json × Cursor) :=
  match words.find? fun word ↦ word.1.isPrefixOf c.rest with
  | some (word, value) => .ok (value, c.skip word.length)
  | none => number c

mutual

/-- A value at the front of the text, inside which arrays and objects may lie `room` deep. -/
def value : (fuel room : Nat) → Cursor → Except Failure (Json × Cursor)
  | 0, _, c => c.fail .expectingValue
  | fuel + 1, room, c =>
    match c.rest with
    | '"' :: rest => do
      let (s, c) ← textFrom c.offset (c.offset + 1) rest
      return (.text (String.ofList (ofLetters s)), c)
    | '{' :: _ =>
      if room = 0 then .error .objectTooDeep
      else
        let c := (c.skip 1).skipSpace
        match c.rest with
        | '}' :: _ => .ok (.object [], c.skip 1)
        | _ => do
          let (fields, c) ← fieldsFrom fuel (room - 1) c
          return (.object (fields.foldl (fun known f ↦ insertField f.1 f.2 known) []), c)
    | '[' :: _ =>
      if room = 0 then .error .arrayTooDeep
      else
        let c := (c.skip 1).skipSpace
        match c.rest with
        | ']' :: _ => .ok (.array [], c.skip 1)
        | _ => do
          let (items, c) ← itemsFrom fuel (room - 1) c
          return (.array items, c)
    | _ => scalar c
termination_by structural fuel => fuel

/-- The items of an array up to its closing bracket, at least one. -/
def itemsFrom : (fuel room : Nat) → Cursor → Except Failure (List Json × Cursor)
  | 0, _, c => c.fail .expectingValue
  | fuel + 1, room, c => do
    let (item, c) ← value fuel room c
    let c := c.skipSpace
    match c.rest with
    | ']' :: _ => return ([item], c.skip 1)
    | ',' :: _ =>
      let (items, c) ← itemsFrom fuel room (c.skip 1).skipSpace
      return (item :: items, c)
    | _ => c.fail .expectingComma
termination_by structural fuel => fuel

/-- The members of an object up to its closing brace, at least one, as written. -/
def fieldsFrom : (fuel room : Nat) → Cursor → Except Failure (List (String × Json) × Cursor)
  | 0, _, c => c.fail .expectingName
  | fuel + 1, room, c =>
    match c.rest with
    | '"' :: rest => do
      let (letters, c) ← textFrom c.offset (c.offset + 1) rest
      let name := String.ofList (ofLetters letters)
      let c := c.skipSpace
      match c.rest with
      | ':' :: _ =>
        let (item, c) ← value fuel room (c.skip 1).skipSpace
        let c := c.skipSpace
        match c.rest with
        | '}' :: _ => return ([(name, item)], c.skip 1)
        | ',' :: _ =>
          let (fields, c) ← fieldsFrom fuel room (c.skip 1).skipSpace
          return ((name, item) :: fields, c)
        | _ => c.fail .expectingComma
      | _ => c.fail .expectingColon
    | _ => c.fail .expectingName
termination_by structural fuel => fuel

end

/-- Reads a whole text, in which arrays and objects may lie `room` deep inside each other. Every second
step takes a character, so the fuel is enough. -/
def readWithin (room : Nat) (s : List Char) : Except Failure Json := do
  if s.head? = some '\uFEFF' then .error (.malformed .byteOrderMark 0)
  let (item, c) ← value (2 * s.length + 2) room (Cursor.skipSpace ⟨0, s⟩)
  let c := c.skipSpace
  if c.rest.isEmpty then return item else c.fail .extraData

/-- How deep arrays and objects may usually lie inside each other. -/
def nestingLimit : Nat := 980

/-- Reads a whole text within the usual limit. -/
def read (s : List Char) : Except Failure Json := readWithin nestingLimit s

/-- The text of a failure to read `s`. -/
def Failure.message (s : List Char) : Failure → String
  | .malformed problem offset =>
    let before := s.take offset
    let line := before.count '\n' + 1
    let column := (before.reverse.takeWhile (· != '\n')).length + 1
    s!"{problem.message}: line {line} column {column} (char {offset})"
  | .tooManyDigits count =>
    s!"Exceeds the limit ({digitLimit} digits) for integer string conversion: value has {count} digits; use sys.set_int_max_str_digits() to increase the limit"
  | .arrayTooDeep =>
    "maximum recursion depth exceeded while decoding a JSON array from a unicode string"
  | .objectTooDeep =>
    "maximum recursion depth exceeded while decoding a JSON object from a unicode string"

end VpcMachines.Json
