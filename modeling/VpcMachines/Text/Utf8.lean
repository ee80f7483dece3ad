import VpcMachines.Text.Quoted

/-!
# UTF-8

Encoding and decoding of texts. Decoding reads one byte at a time. A lead byte fixes how many
continuation bytes follow and the range of the first of them; a byte that does not fit ends the
sequence, and the fault names the bytes read so far. The lossy decoder puts one replacement character
where the strict one would stop, and goes on behind it.
-/

namespace VpcMachines.Text.Utf8

def encode (s : String) : List UInt8 := s.toList.flatMap String.utf8EncodeChar

/-- Where a text has halves of surrogate pairs, which have no bytes: `length` of them from `start`, the
first of which is `code`. -/
structure Unencodable where
  start : Nat
  length : Nat
  code : Nat
  deriving DecidableEq, Repr

/-- The first halves of surrogate pairs from a position on, of which one at least is not borne. `run` are
those in front of the position, which are. -/
def unencodableFrom (borne : Half → Bool) (position : Nat) (run : List Half) :
    List Letter → Option Unencodable
  | [] => none
  | .char _ :: rest => unencodableFrom borne (position + 1) [] rest
  | .half h :: rest =>
    if borne h then unencodableFrom borne (position + 1) (run ++ [h]) rest
    else
      let behind := (rest.takeWhile Letter.isHalf).length
      some ⟨position - run.length, run.length + 1 + behind, (run.headD h).code⟩

/-- The bytes of a letter; a half has none. -/
def letterBytes : Letter → List UInt8
  | .char c => String.utf8EncodeChar c
  | .half _ => []

/-- The bytes of a text that has bytes. -/
def encodeWhole (s : String) : Except Unencodable (List UInt8) :=
  match unencodableFrom (fun _ ↦ false) 0 [] (letters s.toList) with
  | none => .ok ((letters s.toList).flatMap letterBytes)
  | some fault => .error fault

def Unencodable.message (f : Unencodable) : String :=
  let place :=
    if f.length = 1 then s!"character '\\u{String.ofList (hex 4 f.code)}' in position {f.start}"
    else s!"characters in position {f.start}-{f.start + f.length - 1}"
  s!"'utf-8' codec can't encode {place}: surrogates not allowed"

inductive Problem where
  | invalidStart
  | invalidContinuation
  | unexpectedEnd
  deriving DecidableEq, Repr

/-- Where decoding failed: `length` bytes from `start`, the first of which is `byte`. -/
structure Fault where
  start : Nat
  length : Nat
  byte : UInt8
  problem : Problem
  deriving DecidableEq, Repr

/-- A sequence that has begun and waits for `missing + 1` more bytes, the next from `low` to `high`. -/
structure Pending where
  start : Nat
  first : UInt8
  taken : Nat
  missing : Nat
  low : UInt8
  high : UInt8
  value : Nat

/-- What a byte says that does not continue a sequence. -/
inductive Lead where
  | char (c : Char)
  | begins (pending : Pending)
  | invalid

def lead (position : Nat) (b : UInt8) : Lead :=
  let begins (missing : Nat) (low high : UInt8) (value : Nat) : Lead :=
    .begins ⟨position, b, 1, missing, low, high, value⟩
  if b < 0x80 then .char (Char.ofNat b.toNat)
  else if b < 0xC2 then .invalid
  else if b < 0xE0 then begins 0 0x80 0xBF (b.toNat - 0xC0)
  else if b < 0xF0 then
    begins 1 (if b = 0xE0 then 0xA0 else 0x80) (if b = 0xED then 0x9F else 0xBF) (b.toNat - 0xE0)
  else if b < 0xF5 then
    begins 2 (if b = 0xF0 then 0x90 else 0x80) (if b = 0xF4 then 0x8F else 0xBF) (b.toNat - 0xF0)
  else .invalid

namespace Pending

def accepts (p : Pending) (b : UInt8) : Bool := p.low ≤ b && b ≤ p.high

/-- The value with the six bits of one more byte. -/
def extend (p : Pending) (b : UInt8) : Nat := p.value * 64 + (b.toNat - 0x80)

def fault (p : Pending) (problem : Problem) : Fault := ⟨p.start, p.taken, p.first, problem⟩

/-- The sequence after a byte that was not its last. -/
def advance (p : Pending) (b : UInt8) : Pending :=
  { p with taken := p.taken + 1, missing := p.missing - 1, low := 0x80, high := 0xBF, value := p.extend b }

end Pending

/-- Decodes from a position on, inside a sequence or between two. -/
def decodeFrom (position : Nat) (pending : Option Pending) : List UInt8 → Except Fault (List Char)
  | [] =>
    match pending with
    | none => .ok []
    | some p => .error (p.fault .unexpectedEnd)
  | b :: rest =>
    match pending with
    | none =>
      match lead position b with
      | .char c => (decodeFrom (position + 1) none rest).map (c :: ·)
      | .begins p => decodeFrom (position + 1) (some p) rest
      | .invalid => .error ⟨position, 1, b, .invalidStart⟩
    | some p =>
      if p.accepts b then
        if p.missing = 0 then
          (decodeFrom (position + 1) none rest).map (Char.ofNat (p.extend b) :: ·)
        else decodeFrom (position + 1) (some (p.advance b)) rest
      else .error (p.fault .invalidContinuation)

def decode (bytes : List UInt8) : Except Fault String :=
  (decodeFrom 0 none bytes).map String.ofList

/-- The text that bytes stand for, as it is kept. -/
def decodeWhole (bytes : List UInt8) : Except Fault String := (decode bytes).map kept

def replacement : Char := '\uFFFD'

/-- Decodes with a replacement character for each run of bytes that is not a character. -/
def decodeLossyFrom (pending : Option Pending) : List UInt8 → List Char
  | [] =>
    match pending with
    | none => []
    | some _ => [replacement]
  | b :: rest =>
    let fresh : List Char :=
      match lead 0 b with
      | .char c => c :: decodeLossyFrom none rest
      | .begins p => decodeLossyFrom (some p) rest
      | .invalid => replacement :: decodeLossyFrom none rest
    match pending with
    | none => fresh
    | some p =>
      if p.accepts b then
        if p.missing = 0 then Char.ofNat (p.extend b) :: decodeLossyFrom none rest
        else decodeLossyFrom (some (p.advance b)) rest
      else replacement :: fresh

def decodeLossy (bytes : List UInt8) : String := String.ofList (decodeLossyFrom none bytes)

def Problem.message : Problem → String
  | .invalidStart => "invalid start byte"
  | .invalidContinuation => "invalid continuation byte"
  | .unexpectedEnd => "unexpected end of data"

def Fault.message (f : Fault) : String :=
  let byte := String.ofList ((if f.byte < 0x10 then ['0'] else []) ++ Nat.toDigits 16 f.byte.toNat)
  let place :=
    if f.length = 1 then s!"byte 0x{byte} in position {f.start}"
    else s!"bytes in position {f.start}-{f.start + f.length - 1}"
  s!"'utf-8' codec can't decode {place}: {f.problem.message}"

example : decode [0xE2, 0x82] = .error ⟨0, 2, 0xE2, .unexpectedEnd⟩ := rfl
example : decode [0x61, 0xC3, 0x28] = .error ⟨1, 1, 0xC3, .invalidContinuation⟩ := rfl

end VpcMachines.Text.Utf8
