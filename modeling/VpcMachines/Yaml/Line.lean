/-!
# Lines of a YAML document

Line ends, what may stand behind an indicator, and the marks between documents.
-/

namespace VpcMachines.Yaml

def isBreak (c : Char) : Bool :=
  c == '\n' || c == '\r' || c == '\x85' || c == '\u2028' || c == '\u2029'

/-- A line end as it is kept in a value: all but the two separators count as a line feed. -/
def keptBreak (c : Char) : Char := if c == '\u2028' || c == '\u2029' then c else '\n'

def isGap (c : Char) : Bool := c == ' ' || c == '\t'

def isGapOrBreak (c : Char) : Bool := isGap c || isBreak c

/-- Whether the text is at a blank, a tab, a line end, or its end. -/
def atGap : List Char → Bool
  | [] => true
  | c :: _ => isGapOrBreak c

/-- Whether the text is at a blank, a line end, or its end. -/
def atBlank : List Char → Bool
  | [] => true
  | c :: _ => c == ' ' || isBreak c

/-- Whether the text is at a line end or its end. -/
def atLineEnd : List Char → Bool
  | [] => true
  | c :: _ => isBreak c

/-- Whether the text begins with three times `mark` and a gap. -/
def isMark (mark : Char) : List Char → Bool
  | a :: b :: c :: rest => a == mark && b == mark && c == mark && atGap rest
  | _ => false

/-- Whether the text, at the start of a line, begins or ends a document. -/
def isSeparator (s : List Char) : Bool := isMark '-' s || isMark '.' s

/-- Characters that may stand in a document. -/
def isAllowed (c : Char) : Bool :=
  c == '\t' || c == '\n' || c == '\r' || (0x20 ≤ c.toNat && c.toNat ≤ 0x7E) || c == '\x85' ||
    (0xA0 ≤ c.toNat && c.toNat ≤ 0xD7FF) || (0xE000 ≤ c.toNat && c.toNat ≤ 0xFFFD) ||
    0x10000 ≤ c.toNat

def isNameChar (c : Char) : Bool := c.isAlphanum || c == '-' || c == '_'

/-- The rest of a line that may only hold blanks and a comment: how many characters it has, without
the line end. -/
def commentSize (s : List Char) : Nat :=
  let blanks := (s.takeWhile (· == ' ')).length
  match s.drop blanks with
  | '#' :: rest => blanks + 1 + (rest.takeWhile fun c ↦ !isBreak c).length
  | _ => blanks

end VpcMachines.Yaml
