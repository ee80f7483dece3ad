import VpcMachines.Yaml.Line
import VpcMachines.Yaml.Timestamp

/-!
# Tags of nodes

A plain scalar without a tag gets the tag that its text looks like. All other nodes without a tag are
texts, sequences or mappings.
-/

namespace VpcMachines.Yaml

inductive Tag where
  | null
  | bool
  | int
  | float
  | binary
  | timestamp
  | omap
  | pairs
  | set
  | text
  | sequence
  | mapping
  /-- The key that merges other mappings into the one it stands in. -/
  | merge
  /-- The key under which a mapping keeps the value that it stands for. -/
  | default
  | other
  deriving DecidableEq, Repr

def standardUri : String := "tag:yaml.org,2002:"

def Tag.ofUri (uri : String) : Tag :=
  let known : List (String × Tag) :=
    [("null", .null), ("bool", .bool), ("int", .int), ("float", .float), ("binary", .binary),
     ("timestamp", .timestamp), ("omap", .omap), ("pairs", .pairs), ("set", .set), ("str", .text),
     ("seq", .sequence), ("map", .mapping), ("merge", .merge), ("value", .default)]
  match known.find? fun entry ↦ standardUri ++ entry.1 = uri with
  | some entry => entry.2
  | none => .other

def isIn (words : List String) (s : List Char) : Bool := words.contains (String.ofList s)

def isBoolWord : List Char → Bool :=
  isIn ["yes", "Yes", "YES", "no", "No", "NO", "true", "True", "TRUE", "false", "False", "FALSE",
    "on", "On", "ON", "off", "Off", "OFF"]

def isNullWord : List Char → Bool := isIn ["", "~", "null", "Null", "NULL"]

/-- The text behind an optional sign. -/
def unsign : List Char → List Char
  | '-' :: rest => rest
  | '+' :: rest => rest
  | s => s

def isSpacedDigit (c : Char) : Bool := c.isDigit || c == '_'

/-- One or two digits up to 59. -/
def isSixtieth : List Char → Bool
  | [a] => a.isDigit
  | [a, b] => '0' ≤ a && a ≤ '5' && b.isDigit
  | _ => false

def isDecimal : List Char → Bool
  | c :: rest => c.isDigit && c != '0' && rest.all isSpacedDigit
  | [] => false

/-- An integer in decimal, octal, or with a base, or in parts of sixty. -/
def isInteger (s : List Char) : Bool :=
  match unsign s with
  | ['0'] => true
  | '0' :: 'b' :: digits => !digits.isEmpty && digits.all fun c ↦ c == '0' || c == '1' || c == '_'
  | '0' :: 'x' :: digits =>
    !digits.isEmpty && digits.all fun c ↦ (Text.hexDigit? c).isSome || c == '_'
  | '0' :: digits => digits.all fun c ↦ ('0' ≤ c && c ≤ '7') || c == '_'
  | digits =>
    match Text.splitAt ':' digits with
    | [] => false
    | whole :: parts => isDecimal whole && parts.all isSixtieth

/-- A signed exponent, or nothing. -/
def isExponent : List Char → Bool
  | [] => true
  | e :: sign :: digits =>
    (e == 'e' || e == 'E') && (sign == '-' || sign == '+') && !digits.isEmpty &&
      digits.all Char.isDigit
  | _ => false

/-- Digits behind a point and an optional exponent. -/
def isFraction (s : List Char) : Bool := isExponent (s.dropWhile isSpacedDigit)

def isDigits : List Char → Bool
  | c :: rest => c.isDigit && rest.all isSpacedDigit
  | [] => false

/-- A number with a point, in decimal or in parts of sixty, or a word for one that is not finite. -/
def isNumber (s : List Char) : Bool :=
  let magnitude := unsign s
  isIn [".inf", ".Inf", ".INF"] magnitude || isIn [".nan", ".NaN", ".NAN"] s ||
  match Text.cutAt '.' magnitude with
  | (_, none) => false
  | ([], some fraction) =>
    magnitude == s && (fraction.head?.any Char.isDigit) && isFraction fraction
  | (whole, some fraction) =>
    match Text.splitAt ':' whole with
    | [] => false
    | [digits] => isDigits digits && isFraction fraction
    | digits :: parts =>
      isDigits digits && parts.all isSixtieth && fraction.all isSpacedDigit

/-- A line end at the very end does not change what a text looks like. -/
def withoutFinalBreak (s : List Char) : List Char :=
  if s.getLast? = some '\n' then s.dropLast else s

/-- The tag that a text looks like. -/
def resolve (text : String) : Tag :=
  let whole := text.toList
  let s := if whole = ['\n'] then whole else withoutFinalBreak whole
  if isBoolWord s then .bool
  else if isNumber s then .float
  else if isInteger s then .int
  else if s = ['<', '<'] then .merge
  else if isNullWord s then .null
  else if isTimestamp s then .timestamp
  else if s = ['='] then .default
  else if isIn ["!", "&", "*"] s then .other
  else .text

example : resolve "1e3" = .text := by decide +kernel
example : resolve "1.0e+3" = .float := by decide +kernel
example : resolve "2024-04-30" = .timestamp := by decide +kernel

end VpcMachines.Yaml
