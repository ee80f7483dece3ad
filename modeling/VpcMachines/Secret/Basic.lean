import VpcMachines.Text.Utf8

/-!
# Secrets

A secret is a list of values by key. Values are byte strings, or plain values that stand for the text
that is written for them.
-/

namespace VpcMachines

open Text

inductive SecretValue where
  | bytes (b : List UInt8)
  | text (s : String)
  | integer (n : Int)
  | flag (b : Bool)
  | null
  deriving DecidableEq, Repr

/-- The values of a secret by key. -/
abbrev Secret := List (String × SecretValue)

/-- The text of a value; bytes have to be UTF-8. -/
def SecretValue.asText : SecretValue → Except Utf8.Fault String
  | bytes b => Utf8.decodeWhole b
  | text s => .ok s
  | integer n => .ok (toString n)
  | flag b => .ok (if b then "True" else "False")
  | null => .ok "None"

/-- The value of a key; null counts as missing. -/
def Secret.value? (secret : Secret) (key : String) : Option SecretValue :=
  (secret.lookup key).filter (· ≠ .null)

end VpcMachines
