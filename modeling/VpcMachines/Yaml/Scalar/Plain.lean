import VpcMachines.Yaml.Line

/-!
# Plain scalars

A plain scalar is a sequence of runs of characters with blanks or line ends between them. A run ends
at a gap, at a colon in front of a gap, and in a flow collection at its punctuation. Between two runs,
blanks are kept, one line end becomes a blank, and of several line ends all but the first are kept.
-/

namespace VpcMachines.Yaml

def isFlowMark (c : Char) : Bool := c == ',' || c == '[' || c == ']' || c == '{' || c == '}'

/-- Whether a colon in front of this text ends a run. -/
def endsAtColon (inFlow : Bool) : List Char → Bool
  | [] => true
  | c :: _ => isGapOrBreak c || (inFlow && isFlowMark c)

/-- The run of characters at the front of a text. -/
def plainRun (inFlow : Bool) : List Char → List Char
  | [] => []
  | c :: rest =>
    if isGapOrBreak c || (c == ':' && endsAtColon inFlow rest) ||
        (inFlow && (isFlowMark c || c == '?')) then []
    else c :: plainRun inFlow rest

/-- The blanks and line ends behind the first line end: the line ends that are kept, how many
characters there are, and whether they lead to a mark between documents. -/
def plainBreaks : List Char → List Char × Nat × Bool
  | [] => ([], 0, false)
  | c :: rest =>
    if c = ' ' then
      let (kept, size, separated) := plainBreaks rest
      (kept, size + 1, separated)
    else if isBreak c then
      if isSeparator rest then ([], 1, true)
      else
        let (kept, size, separated) := plainBreaks rest
        (keptBreak c :: kept, size + 1, separated)
    else ([], 0, false)

/-- What stands between two runs. Nothing is kept where the scalar ends. -/
structure Between where
  kept : List Char
  size : Nat
  brokeLine : Bool
  /-- Blanks since the last line end. -/
  column : Nat

def Between.read (s : List Char) : Between :=
  let blanks := s.takeWhile (· == ' ')
  match s.drop blanks.length with
  | [] => ⟨blanks, blanks.length, false, 0⟩
  | c :: rest =>
    if isBreak c then
      if isSeparator rest then ⟨[], blanks.length + 1, true, 0⟩
      else
        let (breaks, size, separated) := plainBreaks rest
        let column := ((rest.take size).reverse.takeWhile (· == ' ')).length
        let kept :=
          if separated then []
          else if keptBreak c ≠ '\n' then keptBreak c :: breaks
          else if breaks.isEmpty then [' ']
          else breaks
        ⟨kept, blanks.length + 1 + size, true, column⟩
    else ⟨blanks, blanks.length, false, 0⟩

/-- A plain scalar, how many characters it takes, and whether a line end follows its last run. -/
structure Plain where
  text : List Char
  size : Nat
  brokeLine : Bool

/-- Reads a plain scalar. Outside flow collections it ends in front of a line that is indented less
than `indent`. -/
def Plain.read (inFlow : Bool) (indent : Nat) : Nat → List Char → Plain
  | 0, _ => ⟨[], 0, false⟩
  | fuel + 1, s =>
    let run := plainRun inFlow s
    if run.isEmpty then ⟨[], 0, false⟩
    else
      let between := Between.read (s.drop run.length)
      let size := run.length + between.size
      let rest := s.drop size
      let outdented := !inFlow && between.brokeLine && between.column < indent
      if between.kept.isEmpty || rest.head? == some '#' || outdented then
        ⟨run, size, between.brokeLine⟩
      else
        let more := Plain.read inFlow indent fuel rest
        if more.text.isEmpty then ⟨run, size, between.brokeLine⟩
        else ⟨run ++ between.kept ++ more.text, size + more.size, more.brokeLine⟩

end VpcMachines.Yaml
