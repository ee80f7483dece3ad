import VpcMachines.Link.Host
import VpcMachines.Text.Utf8

/-!
# The query of a link

A link is split into its parts, and its query into fields. A field is a name, the first equals sign,
and a value; in both, a plus sign stands for a space and a percent sign with two hexadecimal digits
for a byte of UTF-8. Fields without an equals sign or with an empty value do not count.
-/

namespace VpcMachines.Link

open Text

/-- Control characters and blanks at the front are passed over, and so are line ends and tabs
anywhere. -/
def tidy (link : List Char) : List Char :=
  (link.dropWhile fun c ↦ c.toNat ≤ 0x20).filter fun c ↦ c != '\t' && c != '\r' && c != '\n'

def isSchemeChar (c : Char) : Bool := c.isAlphanum || c == '+' || c == '-' || c == '.'

/-- What follows the scheme and its colon; the whole link if it has no scheme. -/
def behindScheme (link : List Char) : List Char :=
  match cutAt ':' link with
  | (c :: scheme, some rest) => if c.isAlpha && scheme.all isSchemeChar then rest else link
  | _ => link

def endsAuthority (c : Char) : Bool := c == '/' || c == '?' || c == '#'

/-- The authority, which two slashes announce, and what follows it. -/
def authority (rest : List Char) : List Char × List Char :=
  match rest with
  | '/' :: '/' :: rest => rest.span fun c ↦ !endsAuthority c
  | _ => ([], rest)

/-- The query of a link, as it is written. The fragment is not part of it. -/
def queryOf (link : List Char) : Except HostFault (List Char) := do
  let (host, rest) := authority (behindScheme (tidy link))
  checkBrackets host
  let query := (cutAt '?' (cutAt '#' rest).1).2.getD []
  checkMarks host
  return query

/-- The bytes that a written name or value stands for. -/
def unescape : List Char → List UInt8
  | [] => []
  | '%' :: a :: b :: rest =>
    match hexDigit? a, hexDigit? b with
    | some high, some low => UInt8.ofNat (high * 16 + low) :: unescape rest
    | _, _ => 0x25 :: unescape (a :: b :: rest)
  | c :: rest => String.utf8EncodeChar (if c = '+' then ' ' else c) ++ unescape rest

/-- The text of a written name or value in clear, behind some of its characters. A half of a surrogate pair
stands for itself, whatever is escaped around it. -/
def clearFrom (run : List Char) : List Letter → List Letter
  | [] => (Utf8.decodeLossy (unescape run)).toList.map .char
  | .char c :: rest => clearFrom (run ++ [c]) rest
  | .half h :: rest =>
    (Utf8.decodeLossy (unescape run)).toList.map .char ++ .half h :: clearFrom [] rest

/-- A name or value in clear. -/
def decodeField (written : List Char) : String :=
  String.ofList (ofLetters (clearFrom [] (letters written)))

/-- The name and the value of a written field that counts. -/
def readField (written : List Char) : Option (String × String) :=
  match cutAt '=' written with
  | (name, some (c :: value)) => some (decodeField name, decodeField (c :: value))
  | _ => none

def fields (query : List Char) : List (String × String) :=
  (splitAt '&' query).filterMap readField

/-- The first value that a link gives to a name. -/
def value? (link name : String) : Except HostFault (Option String) :=
  (queryOf link.toList).map fun query ↦ (fields query).lookup name

example : (value? "https://h/v1/images?limit=1&start=a%20b+c#top" "start").toOption
    = some (some "a b c") := by decide +kernel

end VpcMachines.Link
