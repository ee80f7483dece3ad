import VpcMachines.Json.Reader

/-!
# Comparing JSON values

Two values are compared part by part. Equality of values can be decided with this, and so can what is
read from a given text.
-/

namespace VpcMachines.Json

mutual

def same : Json → Json → Bool
  | .null, .null => true
  | .bool a, .bool b => a == b
  | .int m, .int n => m == n
  | .float x, .float y => decide (x = y)
  | .text s, .text t => s == t
  | .array items, .array others => sameItems items others
  | .object fields, .object others => sameFields fields others
  | _, _ => false

def sameItems : List Json → List Json → Bool
  | [], [] => true
  | item :: items, other :: others => same item other && sameItems items others
  | _, _ => false

def sameFields : List (String × Json) → List (String × Json) → Bool
  | [], [] => true
  | (name, item) :: fields, (key, other) :: others =>
    name == key && same item other && sameFields fields others
  | _, _ => false

end

mutual

theorem same_iff (v w : Json) : same v w = true ↔ v = w := by
  cases v <;> cases w <;> simp [same, sameItems_iff, sameFields_iff]

theorem sameItems_iff (items others : List Json) :
    sameItems items others = true ↔ items = others := by
  cases items <;> cases others <;> simp [sameItems, same_iff, sameItems_iff]

theorem sameFields_iff (fields others : List (String × Json)) :
    sameFields fields others = true ↔ fields = others := by
  cases fields with
  | nil => cases others <;> simp [sameFields]
  | cons field fields =>
    cases others with
    | nil => simp [sameFields]
    | cons other others =>
      obtain ⟨name, item⟩ := field
      obtain ⟨key, value⟩ := other
      simp [sameFields, same_iff, sameFields_iff]

end

instance : DecidableEq Json := fun v w ↦ decidable_of_iff _ (same_iff v w)

instance (result : Except Failure Json) (v : Json) : Decidable (result = .ok v) :=
  match result with
  | .ok w => decidable_of_iff (w = v) (by simp)
  | .error _ => isFalse nofun

example : read "\x7b\"a\": [1, null], \"a\": true\x7d".toList = .ok (.object [("a", .bool true)]) := by
  decide +kernel

end VpcMachines.Json
