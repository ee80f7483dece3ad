import VpcMachines.Yaml.Scalar.Block
import VpcMachines.Yaml.Scalar.Plain
import VpcMachines.Yaml.Scalar.Quoted
import VpcMachines.Yaml.Tag
import VpcMachines.Yaml.Token

/-!
# From characters to tokens

The scan keeps the indentation of the open block collections and, for each open flow collection, the
place where a key may have begun. A colon turns that place into a key; the place is lost at the end of
its line and after 1024 characters, which is an error if a key had to be there.
-/

namespace VpcMachines.Yaml

/-- A position in a document. -/
structure Place where
  index : Nat
  line : Nat
  column : Nat

def Place.after (p : Place) (c : Char) : Place :=
  if isBreak c then ⟨p.index + 1, p.line + 1, 0⟩
  else if c = '\uFEFF' then ⟨p.index + 1, p.line, p.column⟩
  else ⟨p.index + 1, p.line, p.column + 1⟩

/-- Where a key may have begun: how many tokens came before, and whether a key is required there. -/
structure KeyStart where
  tokensBefore : Nat
  isRequired : Bool
  place : Place

structure Scan where
  place : Place
  rest : List Char
  /-- The tokens so far, the last one first. -/
  tokens : List Token
  count : Nat
  /-- The columns of the open block collections, the innermost first. -/
  indents : List Nat
  /-- The start of a key in the innermost flow collection, or outside of them all. -/
  start : Option KeyStart
  /-- The same for the flow collections around it, from inside out. -/
  outer : List (Option KeyStart)
  /-- Whether a key may begin here. -/
  keyAllowed : Bool

namespace Scan

def ofText (s : List Char) : Scan := ⟨⟨0, 0, 0⟩, s, [], 0, [], none, [], true⟩

def inFlow (s : Scan) : Bool := !s.outer.isEmpty

/-- Moves over `size` characters. -/
def advance (s : Scan) (size : Nat) : Scan :=
  { s with place := (s.rest.take size).foldl Place.after s.place, rest := s.rest.drop size }

def push (s : Scan) (t : Token) : Scan := { s with tokens := t :: s.tokens, count := s.count + 1 }

/-- Puts a token behind the first `before` tokens. -/
def insertAt (s : Scan) (before : Nat) (t : Token) : Scan :=
  let newer := s.count - before
  { s with tokens := s.tokens.take newer ++ t :: s.tokens.drop newer, count := s.count + 1 }

/-- The smallest indentation of a node inside the innermost block collection. -/
def innerIndent (s : Scan) : Nat :=
  match s.indents with
  | [] => 0
  | column :: _ => column + 1

/-- Blanks, comments and line ends at the front: their size, and whether a line ends. -/
def gapSize (inComment : Bool) : List Char → Nat × Bool
  | [] => (0, false)
  | c :: rest =>
    if isBreak c then ((gapSize false rest).1 + 1, true)
    else if inComment then
      let (size, ended) := gapSize true rest
      (size + 1, ended)
    else if c = ' ' then
      let (size, ended) := gapSize false rest
      (size + 1, ended)
    else if c = '#' then
      let (size, ended) := gapSize true rest
      (size + 1, ended)
    else (0, false)

/-- Moves to the next token. A byte order mark may stand at the very front. -/
def skipGap (s : Scan) : Scan :=
  let s := if s.place.index = 0 ∧ s.rest.head? = some '\uFEFF' then s.advance 1 else s
  let (size, ended) := gapSize false s.rest
  let s := s.advance size
  if ended && !s.inFlow then { s with keyAllowed := true } else s

def isStale (place : Place) (k : KeyStart) : Bool :=
  k.place.line ≠ place.line || 1024 < place.index - k.place.index

/-- Drops a start that is stale. -/
def refresh (place : Place) : Option KeyStart → Except Fault (Option KeyStart)
  | none => .ok none
  | some k =>
    if isStale place k then (if k.isRequired then .error .malformed else .ok none) else .ok (some k)

def dropStale (s : Scan) : Except Fault Scan := do
  let start ← refresh s.place s.start
  let outer ← s.outer.mapM (refresh s.place)
  return { s with start := start, outer := outer }

/-- Gives up the start of a key in the innermost collection. -/
def dropStart (s : Scan) : Except Fault Scan :=
  match s.start with
  | some k => if k.isRequired then .error .malformed else .ok { s with start := none }
  | none => .ok s

/-- Notes that a key may begin here. -/
def noteStart (s : Scan) : Except Fault Scan :=
  if s.keyAllowed then do
    let s ← s.dropStart
    let isRequired := !s.inFlow && s.indents.head? == some s.place.column
    return { s with start := some ⟨s.count, isRequired, s.place⟩ }
  else .ok s

/-- Closes the block collections that are indented more than `limit`. -/
def closeDeeper (s : Scan) (limit : Option Nat) : Scan :=
  if s.inFlow then s
  else
    let isDeeper (column : Nat) : Bool :=
      match limit with
      | none => true
      | some limit => limit < column
    let closed := s.indents.takeWhile isDeeper
    closed.foldl (fun s _ ↦ s.push .blockEnd) { s with indents := s.indents.dropWhile isDeeper }

/-- Whether a collection at this column is indented more than the one around it. -/
def isDeeper (s : Scan) (column : Nat) : Bool :=
  match s.indents with
  | [] => true
  | outer :: _ => outer < column

/-- Opens a block collection here, if one may begin and none is open at this column. -/
def openBlock (s : Scan) (t : Token) : Except Fault Scan :=
  if s.inFlow then .ok s
  else if !s.keyAllowed then .error .malformed
  else if s.isDeeper s.place.column then
    .ok { s.push t with indents := s.place.column :: s.indents }
  else .ok s

/-- Ends all block collections. -/
def closeAll (s : Scan) : Except Fault Scan := do
  let s ← (s.closeDeeper none).dropStart
  return { s with keyAllowed := false }

def directiveToken : Directive → Token
  | .version major => .version major
  | .tagHandle handle uri => .tagHandle handle uri
  | .unknown => .unknownDirective

/-- A directive takes its line end along, so no key can begin in the line behind it. -/
def fetchDirective (s : Scan) : Except Fault Scan := do
  let s ← s.closeAll
  let (found, size) ← directive (s.rest.drop 1)
  return (s.advance (size + 2)).push (directiveToken found)

def fetchDocumentMark (s : Scan) (t : Token) : Except Fault Scan := do
  let s ← s.closeAll
  return (s.advance 3).push t

def fetchFlowStart (s : Scan) (t : Token) : Except Fault Scan := do
  let s ← s.noteStart
  let s := { s with outer := s.start :: s.outer, start := none, keyAllowed := true }
  return (s.advance 1).push t

def fetchFlowEnd (s : Scan) (t : Token) : Except Fault Scan := do
  let s ← s.dropStart
  match s.outer with
  | [] => .error .malformed
  | start :: outer =>
    let s := { s with start := start, outer := outer, keyAllowed := false }
    return (s.advance 1).push t

def fetchFlowEntry (s : Scan) : Except Fault Scan := do
  let s ← s.dropStart
  return ({ s with keyAllowed := true }.advance 1).push .flowEntry

def fetchBlockEntry (s : Scan) : Except Fault Scan := do
  let s ← s.openBlock .blockSequenceStart
  let s ← s.dropStart
  return ({ s with keyAllowed := true }.advance 1).push .blockEntry

def fetchKey (s : Scan) : Except Fault Scan := do
  let s ← s.openBlock .blockMappingStart
  let s ← s.dropStart
  return ({ s with keyAllowed := !s.inFlow }.advance 1).push .key

def fetchValue (s : Scan) : Except Fault Scan := do
  match s.start with
  | some k =>
    let s := { s with start := none, keyAllowed := false }.insertAt k.tokensBefore .key
    let s :=
      if !s.inFlow && s.isDeeper k.place.column then
        { s.insertAt k.tokensBefore .blockMappingStart with indents := k.place.column :: s.indents }
      else s
    return (s.advance 1).push .value
  | none =>
    let s ← s.openBlock .blockMappingStart
    return ({ s with keyAllowed := !s.inFlow }.advance 1).push .value

/-- An anchor or an alias: a name behind an indicator. -/
def fetchName (s : Scan) (token : String → Token) : Except Fault Scan := do
  let s ← s.noteStart
  let name := (s.rest.drop 1).takeWhile isNameChar
  let rest := s.rest.drop (name.length + 1)
  let ends := atGap rest || (rest.head?.any fun c ↦ "?:,]\x7d%@\x60".toList.contains c)
  if name.isEmpty || !ends then .error .malformed
  return ({ s with keyAllowed := false }.advance (name.length + 1)).push (token (String.ofList name))

def fetchTag (s : Scan) : Except Fault Scan := do
  let s ← s.noteStart
  let (handle, name, size) ← writtenTag s.rest
  return ({ s with keyAllowed := false }.advance size).push (.tag handle name)

def fetchBlockScalar (s : Scan) (folded : Bool) : Except Fault Scan := do
  let s ← { s with keyAllowed := true }.dropStart
  let (text, size) ← blockScalar folded (max 1 s.innerIndent) (s.rest.drop 1)
  return (s.advance (size + 1)).push (.scalar (String.ofList text) false)

def fetchQuoted (s : Scan) (double : Bool) : Except Fault Scan := do
  let s ← s.noteStart
  let (text, size) ← quotedFrom double s.rest.length (s.rest.drop 1)
  let text := String.ofList (Text.ofLetters text)
  return ({ s with keyAllowed := false }.advance (size + 1)).push (.scalar text false)

def fetchPlain (s : Scan) : Except Fault Scan := do
  let s ← s.noteStart
  let found := Plain.read s.inFlow s.innerIndent s.rest.length s.rest
  return ({ s with keyAllowed := found.brokeLine }.advance found.size).push
    (.scalar (String.ofList found.text) true)

/-- Characters that cannot begin a plain scalar. -/
def isIndicator (c : Char) : Bool := "-?:,[]\x7b\x7d#&*!|>\x27\"%@\x60".toList.contains c

def startsPlain (inFlow : Bool) (c : Char) (rest : List Char) : Bool :=
  (!isGapOrBreak c && !isIndicator c) ||
    (!atGap rest && (c == '-' || (!inFlow && (c == '?' || c == ':'))))

/-- Reads the token that begins with `c`. -/
def fetchAt (s : Scan) (c : Char) (rest : List Char) : Except Fault Scan :=
  let atMargin := s.place.column = 0
  if c = '%' ∧ atMargin then s.fetchDirective
  else if atMargin ∧ isMark '-' (c :: rest) then s.fetchDocumentMark .documentStart
  else if atMargin ∧ isMark '.' (c :: rest) then s.fetchDocumentMark .documentEnd
  else if c = '[' then s.fetchFlowStart .flowSequenceStart
  else if c = '{' then s.fetchFlowStart .flowMappingStart
  else if c = ']' then s.fetchFlowEnd .flowSequenceEnd
  else if c = '}' then s.fetchFlowEnd .flowMappingEnd
  else if c = ',' then s.fetchFlowEntry
  else if c = '-' ∧ atGap rest then s.fetchBlockEntry
  else if c = '?' ∧ (s.inFlow ∨ atGap rest) then s.fetchKey
  else if c = ':' ∧ (s.inFlow ∨ atGap rest) then s.fetchValue
  else if c = '*' then s.fetchName .alias
  else if c = '&' then s.fetchName .anchor
  else if c = '!' then s.fetchTag
  else if c = '|' ∧ !s.inFlow then s.fetchBlockScalar false
  else if c = '>' ∧ !s.inFlow then s.fetchBlockScalar true
  else if c = '\'' then s.fetchQuoted false
  else if c = '"' then s.fetchQuoted true
  else if startsPlain s.inFlow c rest then s.fetchPlain
  else .error .malformed

/-- Reads the next token, or the end of the document. -/
def fetch (s : Scan) : Except Fault Scan := do
  let s ← s.skipGap.dropStale
  let s := s.closeDeeper (some s.place.column)
  match s.rest with
  | [] =>
    let s ← s.closeAll
    return s.push .streamEnd
  | c :: rest => s.fetchAt c rest

/-- How many tokens can be used before more of the document has to be read: those in front of the
first place where a key may still have begun. -/
def settled (s : Scan) : Nat :=
  (s.start :: s.outer).foldl (fun least start ↦
    match start with
    | none => least
    | some k => if isStale s.place k then least else min least k.tokensBefore) s.count

/-- All the tokens. Each step but the last takes a character, so the fuel is enough. -/
def tokensFrom : Nat → Scan → List Token
  | 0, s => s.tokens.reverse
  | fuel + 1, s =>
    match s.fetch with
    | .error fault => s.tokens.reverse.take s.settled ++ [.broken fault]
    | .ok next =>
      if next.tokens.head? == some .streamEnd then next.tokens.reverse
      else tokensFrom fuel next

end Scan

/-- The tokens of a document, the last of which is its end or the point where it breaks. -/
def tokens (s : List Char) : List Token :=
  if s.all isAllowed then Scan.tokensFrom (s.length + 1) (Scan.ofText s) else [.broken .malformed]

end VpcMachines.Yaml
