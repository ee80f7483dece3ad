import VpcMachines.Text.Ranges

/-!
# White space

The Unicode property `White_Space`, and trimming by it. The property has not changed since
Unicode 6.3.
-/

namespace VpcMachines.Text

def blankRanges : Ranges :=
  [(0x09, 0x0D), (0x20, 0x20), (0x85, 0x85), (0xA0, 0xA0), (0x1680, 0x1680), (0x2000, 0x200A),
   (0x2028, 0x2029), (0x202F, 0x202F), (0x205F, 0x205F), (0x3000, 0x3000)]

def isBlank (c : Char) : Bool := blankRanges.contains c

/-- The text without the white space at either end. -/
def trimBlank (s : List Char) : List Char :=
  ((s.dropWhile isBlank).reverse.dropWhile isBlank).reverse

example : blankRanges.size = 25 := by decide

end VpcMachines.Text
