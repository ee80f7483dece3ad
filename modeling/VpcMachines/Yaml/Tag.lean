import VpcMachines.Text.Split
import VpcMachines.Text.Utf8
import VpcMachines.Yaml.Fault
import VpcMachines.Yaml.Line

/-!
# Written tags and directives

A tag is written with a handle, which stands for the beginning of its name, and the rest; or with its
whole name between angle brackets. Names are URIs, in which a percent sign begins a byte of UTF-8.
-/

namespace VpcMachines.Yaml

open Text

def isUriChar (c : Char) : Bool := c.isAlphanum || "-;/?:@&=+$,_.!~*'()[]%".toList.contains c

/-- The bytes written by percent signs at the front, and the size. A percent sign without two
hexadecimal digits is an error. -/
def uriBytes : List Char → Except Fault (List UInt8 × Nat)
  | '%' :: a :: b :: rest =>
    match hexDigit? a, hexDigit? b with
    | some high, some low =>
      (uriBytes rest).map fun (bytes, size) ↦ (UInt8.ofNat (high * 16 + low) :: bytes, size + 3)
    | _, _ => .error .malformed
  | '%' :: _ => .error .malformed
  | _ => .ok ([], 0)

def uriFrom : Nat → List Char → Except Fault (List Char × Nat)
  | 0, _ => .error .malformed
  | _, [] => .ok ([], 0)
  | fuel + 1, c :: rest =>
    if c = '%' then do
      let (bytes, size) ← uriBytes (c :: rest)
      match Utf8.decode bytes with
      | .error _ => .error .malformed
      | .ok piece =>
        let (text, more) ← uriFrom fuel ((c :: rest).drop size)
        return (piece.toList ++ text, size + more)
    else if isUriChar c then
      (uriFrom fuel rest).map fun (text, size) ↦ (c :: text, size + 1)
    else .ok ([], 0)

/-- A URI of at least one character, and its size. -/
def uri (s : List Char) : Except Fault (String × Nat) := do
  let (text, size) ← uriFrom (s.length + 1) s
  if size = 0 then .error .malformed else return (String.ofList text, size)

/-- A handle at the front: an exclamation mark, or a name between two. -/
def handle (s : List Char) : Except Fault (String × Nat) :=
  match s with
  | '!' :: rest =>
    if rest.head? = some ' ' then .ok ("!", 1)
    else
      let name := rest.takeWhile isNameChar
      if (rest.drop name.length).head? = some '!' then
        .ok (String.ofList ('!' :: (name ++ ['!'])), name.length + 2)
      else .error .malformed
  | _ => .error .malformed

/-- Whether the text up to the next blank holds an exclamation mark. -/
def hasHandle : List Char → Bool
  | [] => false
  | c :: rest =>
    if c == ' ' || isBreak c then false
    else if c == '!' then true
    else hasHandle rest

/-- A tag at the front: its handle, the rest of its name, and its size. -/
def writtenTag (s : List Char) : Except Fault (Option String × String × Nat) := do
  let body := s.drop 1
  let (found, name, size) ←
    if body.head? = some '<' then do
      let (name, size) ← uri (body.drop 1)
      if (body.drop (1 + size)).head? = some '>' then
        Except.ok ((none : Option String), name, size + 3)
      else .error .malformed
    else if atGap body then .ok (none, "!", 1)
    else if hasHandle body then do
      let (found, skipped) ← handle s
      let (name, size) ← uri (s.drop skipped)
      .ok (some found, name, skipped + size)
    else do
      let (name, size) ← uri body
      .ok (some "!", name, size + 1)
  if atBlank (s.drop size) then return (found, name, size) else .error .malformed

/-- What a directive says. -/
inductive Directive where
  | version (major : Nat)
  | tagHandle (handle uri : String)
  | unknown
  deriving DecidableEq, Repr

/-- Digits at the front, at least one. -/
def versionNumber (s : List Char) : Except Fault (Nat × Nat) :=
  let digits := s.takeWhile Char.isDigit
  if digits.isEmpty then .error .malformed
  else if 4300 < digits.length then .error (.tooManyDigits digits.length)
  else .ok (valueOf 10 (digits.filterMap digit?), digits.length)

def blanks (s : List Char) : Nat := (s.takeWhile (· == ' ')).length

def versionValue (s : List Char) : Except Fault (Directive × Nat) := do
  let skipped := blanks s
  let (major, size) ← versionNumber (s.drop skipped)
  match s.drop (skipped + size) with
  | '.' :: rest =>
    let (_, more) ← versionNumber rest
    if atBlank (rest.drop more) then return (.version major, skipped + size + 1 + more)
    else .error .malformed
  | _ => .error .malformed

def tagHandleValue (s : List Char) : Except Fault (Directive × Nat) := do
  let skipped := blanks s
  let (found, size) ← handle (s.drop skipped)
  let rest := s.drop (skipped + size)
  if rest.head? = some ' ' then
    let between := blanks rest
    let (name, more) ← uri (rest.drop between)
    if atBlank (rest.drop (between + more)) then
      return (.tagHandle found name, skipped + size + between + more)
    else .error .malformed
  else .error .malformed

/-- A directive behind its percent sign, and its size without the line end. -/
def directive (s : List Char) : Except Fault (Directive × Nat) := do
  let name := s.takeWhile isNameChar
  let rest := s.drop name.length
  if name.isEmpty || !atBlank rest then .error .malformed
  let (found, size) ←
    if name = "YAML".toList then versionValue rest
    else if name = "TAG".toList then tagHandleValue rest
    else Except.ok (Directive.unknown, (rest.takeWhile fun c ↦ !isBreak c).length)
  let behind := rest.drop size
  let comment := commentSize behind
  if atLineEnd (behind.drop comment) then return (found, name.length + size + comment)
  else .error .malformed

end VpcMachines.Yaml
