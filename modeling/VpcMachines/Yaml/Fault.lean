import VpcMachines.Calendar
import VpcMachines.Text.Quoted

/-!
# Why a YAML document cannot be read

Whatever violates the language itself is one cause: the document is malformed. The others arise when
a scalar does not fit its tag, or an escape names no character.
-/

namespace VpcMachines.Yaml

open Text

inductive Fault where
  | malformed
  /-- An escape beyond the last code point. -/
  | codePoint
  /-- An escape that does not even fit a signed word of 32 bits. -/
  | codeTooLarge
  | notBoolean (text : String)
  | emptyNumber
  | notInteger (base : Nat) (text : String)
  | tooManyDigits (count : Nat)
  | notNumber (text : String)
  /-- A part of sixty whose weight is beyond all floats. -/
  | weightTooLarge
  | notTimestamp
  /-- A mapping that stands for a text where only a text will do. -/
  | notPlainText
  /-- Nodes inside each other without end, or too many of them. -/
  | tooDeep
  /-- The same where values are written. -/
  | tooDeepToWrite
  /-- An integer with too many digits to be written. -/
  | unwritable
  | calendar (fault : Calendar.Fault)
  deriving DecidableEq, Repr

/-- The first `limit` characters of a text. -/
def cut (limit : Nat) (s : String) : String := String.ofList (s.toList.take limit)

/-- How much of a text that is no integer is shown. -/
def shownLimit : Nat := 200

def Fault.message : Fault → String
  | .malformed => "<YAMLError>"
  | .codePoint => "chr() arg not in range(0x110000)"
  | .codeTooLarge => "Python int too large to convert to C int"
  | .notBoolean text => quote text
  | .emptyNumber => "string index out of range"
  | .notInteger base text =>
    s!"invalid literal for int() with base {base}: {cut shownLimit (quote text)}"
  | .tooManyDigits count =>
    s!"Exceeds the limit (4300 digits) for integer string conversion: value has {count} digits; use sys.set_int_max_str_digits() to increase the limit"
  | .notNumber text => s!"could not convert string to float: {quote text}"
  | .weightTooLarge => "int too large to convert to float"
  | .notTimestamp => "'NoneType' object has no attribute 'groupdict'"
  | .notPlainText => "expected string or bytes-like object, got 'list'"
  | .tooDeep => "maximum recursion depth exceeded"
  | .tooDeepToWrite => "maximum recursion depth exceeded while getting the repr of an object"
  | .unwritable =>
    "Exceeds the limit (4300 digits) for integer string conversion; use sys.set_int_max_str_digits() to increase the limit"
  | .calendar fault => fault.message

end VpcMachines.Yaml
