import VpcMachines.Text.Split
import VpcMachines.Yaml.Fault
import VpcMachines.Yaml.Line

/-!
# Block scalars

A block scalar is the lines that are indented by the same number of blanks. In the literal style the
line ends between them are kept; in the folded style one line end between two lines that begin with
text becomes a blank. The header may fix the indentation, and says what happens to the line ends at
the end: one is kept, or all, or none.
-/

namespace VpcMachines.Yaml

open Text

inductive Chomping where
  | strip
  | clip
  | keep
  deriving DecidableEq, Repr

structure BlockHeader where
  chomping : Chomping
  /-- The indentation relative to the surrounding node. -/
  increment : Option Nat
  size : Nat

def chomping? : Char → Option Chomping
  | '+' => some .keep
  | '-' => some .strip
  | _ => none

/-- Reads the indicators behind the one that announces the scalar. They may come in either order. -/
def BlockHeader.indicators : List Char → BlockHeader
  | a :: b :: _ =>
    match chomping? a, digit? a with
    | some chomping, _ =>
      match digit? b with
      | some n => ⟨chomping, some n, 2⟩
      | none => ⟨chomping, none, 1⟩
    | none, some n =>
      match chomping? b with
      | some chomping => ⟨chomping, some n, 2⟩
      | none => ⟨.clip, some n, 1⟩
    | none, none => ⟨.clip, none, 0⟩
  | [a] =>
    match chomping? a, digit? a with
    | some chomping, _ => ⟨chomping, none, 1⟩
    | none, some n => ⟨.clip, some n, 1⟩
    | none, none => ⟨.clip, none, 0⟩
  | [] => ⟨.clip, none, 0⟩

/-- Reads the whole header line, with its line end. -/
def BlockHeader.read (s : List Char) : Except Fault BlockHeader :=
  let header := indicators s
  let rest := s.drop header.size
  if header.increment = some 0 || !atBlank rest then .error .malformed
  else
    let comment := commentSize rest
    match rest.drop comment with
    | [] => .ok { header with size := header.size + comment }
    | c :: _ =>
      if isBreak c then .ok { header with size := header.size + comment + 1 }
      else .error .malformed

/-- Blank lines at the front: the line ends kept, the size, the greatest column that blanks reach,
and the column where they stop. -/
def leadingBlanks (column : Nat) : List Char → List Char × Nat × Nat × Nat
  | [] => ([], 0, 0, column)
  | c :: rest =>
    if c = ' ' then
      let (breaks, size, widest, stop) := leadingBlanks (column + 1) rest
      (breaks, size + 1, max widest (column + 1), stop)
    else if isBreak c then
      let (breaks, size, widest, stop) := leadingBlanks 0 rest
      (keptBreak c :: breaks, size + 1, widest, stop)
    else ([], 0, 0, column)

/-- Line ends, each with up to `indent` blanks behind it: those kept, the size, and the column where
they stop. -/
def blankLines (indent column : Nat) : List Char → List Char × Nat × Nat
  | [] => ([], 0, column)
  | c :: rest =>
    if c = ' ' ∧ column < indent then
      let (breaks, size, stop) := blankLines indent (column + 1) rest
      (breaks, size + 1, stop)
    else if isBreak c then
      let (breaks, size, stop) := blankLines indent 0 rest
      (keptBreak c :: breaks, size + 1, stop)
    else ([], 0, column)

/-- The lines of a scalar as one text, its last line end, the line ends behind that, and the size. -/
structure BlockLines where
  text : List Char
  lastBreak : List Char
  trailing : List Char
  size : Nat

def startsWithText : List Char → Bool
  | [] => true
  | c :: _ => !isGap c

/-- Reads lines from the first character behind the indentation. -/
def BlockLines.read (folded : Bool) (indent : Nat) : Nat → List Char → BlockLines
  | 0, _ => ⟨[], [], [], 0⟩
  | fuel + 1, s =>
    let line := s.takeWhile fun c ↦ !isBreak c
    let (lineEnd, behind) : List Char × List Char :=
      match s.drop line.length with
      | [] => ([], [])
      | c :: rest => ([keptBreak c], rest)
    let (breaks, blanks, column) := blankLines indent 0 behind
    let size := line.length + lineEnd.length + blanks
    let rest := s.drop size
    if column = indent ∧ rest ≠ [] then
      let joint :=
        if folded && lineEnd == ['\n'] && startsWithText s && startsWithText rest then
          if breaks.isEmpty then [' '] else []
        else lineEnd
      let more := BlockLines.read folded indent fuel rest
      { more with text := line ++ joint ++ breaks ++ more.text, size := size + more.size }
    else ⟨line, lineEnd, breaks, size⟩

/-- Reads a block scalar behind its indicator: its value and its size. `least` is the smallest
indentation that it may have. -/
def blockScalar (folded : Bool) (least : Nat) (s : List Char) : Except Fault (List Char × Nat) := do
  let header ← BlockHeader.read s
  let body := s.drop header.size
  let (indent, breaks, blanks, column) : Nat × List Char × Nat × Nat :=
    match header.increment with
    | none =>
      let (breaks, size, widest, column) := leadingBlanks 0 body
      (max least widest, breaks, size, column)
    | some increment =>
      let indent := least + increment - 1
      let (breaks, size, column) := blankLines indent 0 body
      (indent, breaks, size, column)
  let rest := body.drop blanks
  let lines : BlockLines :=
    if column = indent ∧ rest ≠ [] then
      let lines := BlockLines.read folded indent s.length rest
      { lines with text := breaks ++ lines.text }
    else ⟨[], [], breaks, 0⟩
  let ending :=
    match header.chomping with
    | .strip => []
    | .clip => lines.lastBreak
    | .keep => lines.lastBreak ++ lines.trailing
  return (lines.text ++ ending, header.size + blanks + lines.size)

end VpcMachines.Yaml
