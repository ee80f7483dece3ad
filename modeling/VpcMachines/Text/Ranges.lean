/-!
# Sets of characters as ranges

A property of characters is kept as a list of closed ranges of code points. Looking a character up is
one test per range.
-/

namespace VpcMachines.Text

/-- Closed ranges of code points, ascending and apart. -/
abbrev Ranges := List (Nat × Nat)

def Ranges.contains (ranges : Ranges) (c : Char) : Bool :=
  ranges.any fun r ↦ r.1 ≤ c.toNat && c.toNat ≤ r.2

/-- How many code points the ranges hold. -/
def Ranges.size (ranges : Ranges) : Nat :=
  ranges.foldr (fun r size ↦ r.2 + 1 - r.1 + size) 0

end VpcMachines.Text
