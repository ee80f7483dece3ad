/-!
# Line ends

Files may end their lines with a line feed, a carriage return, or both. Readers see line feeds only.
-/

namespace VpcMachines.Text

/-- The text with every line end as one line feed. -/
def unifyNewlines : List Char → List Char
  | [] => []
  | '\r' :: '\n' :: rest => '\n' :: unifyNewlines rest
  | '\r' :: rest => '\n' :: unifyNewlines rest
  | c :: rest => c :: unifyNewlines rest

end VpcMachines.Text
