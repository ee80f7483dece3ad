import VpcMachines.Text.Halves
import VpcMachines.Text.Split
import VpcMachines.Yaml.Fault
import VpcMachines.Yaml.Line

/-!
# Quoted scalars

In single quotes, two quotes stand for one and nothing else is special. In double quotes, a backslash
begins an escape. In both, blanks around line ends are dropped, one line end becomes a blank, and of
several all but the first are kept.
-/

namespace VpcMachines.Yaml

open Text

/-- The character of a one-character escape. -/
def escaped? : Char → Option Char
  | '0' => some '\x00'
  | 'a' => some '\x07'
  | 'b' => some '\x08'
  | 't' => some '\t'
  | '\t' => some '\t'
  | 'n' => some '\n'
  | 'v' => some '\x0b'
  | 'f' => some '\x0c'
  | 'r' => some '\r'
  | 'e' => some '\x1b'
  | ' ' => some ' '
  | '"' => some '"'
  | '\\' => some '\\'
  | '/' => some '/'
  | 'N' => some '\x85'
  | '_' => some '\xa0'
  | 'L' => some '\u2028'
  | 'P' => some '\u2029'
  | _ => none

/-- How many hexadecimal digits an escape by code point has. -/
def codeWidth? : Char → Option Nat
  | 'x' => some 2
  | 'u' => some 4
  | 'U' => some 8
  | _ => none

/-- The letter of an escape by code point. -/
def escapedCode (code : Nat) : Except Fault Letter :=
  if 0x80000000 ≤ code then .error .codeTooLarge
  else if 0x110000 ≤ code then .error .codePoint
  else .ok (.ofCode code)

/-- Line ends and gaps behind a line end: the line ends that are kept, and how many characters there
are. A mark between documents is an error here. -/
def quotedBreaks (atStart : Bool) : List Char → Except Fault (List Char × Nat)
  | [] => .ok ([], 0)
  | c :: rest =>
    if atStart && isSeparator (c :: rest) then .error .malformed
    else if isGap c then (quotedBreaks false rest).map fun (kept, size) ↦ (kept, size + 1)
    else if isBreak c then
      (quotedBreaks true rest).map fun (kept, size) ↦ (keptBreak c :: kept, size + 1)
    else .ok ([], 0)

/-- What a stretch of gaps and line ends inside quotes stands for, and its size. -/
def quotedGap (s : List Char) : Except Fault (List Char × Nat) :=
  let gap := s.takeWhile isGap
  match s.drop gap.length with
  | [] => .error .malformed
  | c :: rest =>
    if isBreak c then do
      let (breaks, size) ← quotedBreaks true rest
      let kept :=
        if keptBreak c ≠ '\n' then keptBreak c :: breaks
        else if breaks.isEmpty then [' ']
        else breaks
      return (kept, gap.length + 1 + size)
    else .ok (gap, gap.length)

/-- What an escape stands for, without its backslash, and its size. -/
def escape : List Char → Except Fault (List Letter × Nat)
  | [] => .error .malformed
  | c :: rest =>
    match escaped? c, codeWidth? c with
    | some e, _ => .ok ([.char e], 1)
    | none, some width => do
      let digits := rest.take width
      match digits.mapM hexDigit? with
      | none => .error .malformed
      | some values =>
        if digits.length = width then
          let e ← escapedCode (valueOf 16 values)
          return ([e], width + 1)
        else .error .malformed
    | none, none =>
      if isBreak c then
        (quotedBreaks true rest).map fun (kept, size) ↦ (kept.map .char, size + 1)
      else .error .malformed

/-- The value up to the closing quote, and the size with that quote. -/
def quotedFrom (double : Bool) : Nat → List Char → Except Fault (List Letter × Nat)
  | 0, _ => .error .malformed
  | _, [] => .error .malformed
  | fuel + 1, c :: rest =>
    let goOn (piece : List Letter) (size : Nat) : Except Fault (List Letter × Nat) := do
      let (text, more) ← quotedFrom double fuel ((c :: rest).drop size)
      return (piece ++ text, size + more)
    if isGapOrBreak c then do
      let (piece, size) ← quotedGap (c :: rest)
      goOn (piece.map .char) size
    else if double then
      if c = '"' then .ok ([], 1)
      else if c = '\\' then do
        let (piece, size) ← escape rest
        goOn piece (size + 1)
      else goOn [.char c] 1
    else if c = '\'' then
      if rest.head? = some '\'' then goOn [.char c] 2 else .ok ([], 1)
    else goOn [.char c] 1

end VpcMachines.Yaml
