import VpcMachines.Text.Quoted
import VpcMachines.Text.Split

/-!
# The authority of a link

An authority may name a user in front of the last at sign and a port behind the host. If it holds
brackets, its host has to be an address of the sixth version of the internet protocol or of a later
one, which brackets enclose as a whole. Some characters count as one of the marks that end an authority
once they are brought into their compatibility form; an authority that holds one is refused.
-/

namespace VpcMachines.Link

open Text

inductive HostFault where
  | misplacedBrackets
  | futureAddress
  | bracketedVersionFour
  | notAnAddress (host : String)
  | disguisedMark (authority : String)
  deriving DecidableEq, Repr

def HostFault.message : HostFault → String
  | .misplacedBrackets => "Invalid IPv6 URL"
  | .futureAddress => "IPvFuture address is invalid"
  | .bracketedVersionFour => "An IPv4 address cannot be in brackets"
  | .notAnAddress host => s!"{quote host} does not appear to be an IPv4 or IPv6 address"
  | .disguisedMark authority =>
    s!"netloc '{authority}' contains invalid characters under NFKC normalization"

/-- One of the four numbers of a version-four address: up to 255, without leading zeros. -/
def isOctet (s : List Char) : Bool :=
  !s.isEmpty && s.length ≤ 3 && s.all Char.isDigit && (s == ['0'] || s.head? != some '0') &&
    valueOf 10 (s.filterMap digit?) ≤ 255

def isVersionFour (s : List Char) : Bool :=
  let pieces := splitAt '.' s
  pieces.length == 4 && pieces.all isOctet

/-- One of the eight groups of a version-six address. -/
def isGroup (s : List Char) : Bool :=
  !s.isEmpty && s.length ≤ 4 && s.all fun c ↦ (hexDigit? c).isSome

/-- The groups of a version-six address, a version-four address at the end counting as two. -/
def groupsOf (s : List Char) : Option (List (List Char)) :=
  let pieces := splitAt ':' s
  if pieces.length < 3 then none
  else
    let last := pieces.getLast?.getD []
    if last.contains '.' then
      if isVersionFour last then some (pieces.dropLast ++ [['0'], ['0']]) else none
    else some pieces

/-- Groups in full, or with one gap that stands for at least one group. A gap at either end shows as
two empty pieces. -/
def areGroups (pieces : List (List Char)) : Bool :=
  let inner := (pieces.drop 1).dropLast
  match inner.findIdx? List.isEmpty with
  | none => pieces.length == 8 && pieces.all isGroup
  | some i =>
    let high := pieces.take (i + 1)
    let low := pieces.drop (i + 2)
    let high := if high == [[]] then [] else high
    let low := if low == [[]] then [] else low
    pieces.length ≤ 9 && high.length + low.length < 8 && high.all isGroup && low.all isGroup

/-- A version-six address with an optional zone behind a percent sign. -/
def isVersionSix (s : List Char) : Bool :=
  let (address, zone) := cutAt '%' s
  (match zone with
    | none => true
    | some zone => !zone.isEmpty && !zone.contains '%') &&
  match groupsOf address with
  | none => false
  | some pieces => areGroups pieces

/-- An address of a later version: its number in hexadecimal, a point, and some text in one line. -/
def isFutureVersion (s : List Char) : Bool :=
  match s with
  | 'v' :: rest =>
    let version := rest.takeWhile fun c ↦ (hexDigit? c).isSome
    match rest.drop version.length with
    | '.' :: address => !version.isEmpty && !address.isEmpty && !address.contains '\n'
    | _ => false
  | _ => false

/-- Characters with `/`, `?`, `#`, `@` or `:` in their compatibility form. -/
def disguisedMarks : List Nat :=
  [0x2047, 0x2048, 0x2049, 0x2100, 0x2101, 0x2105, 0x2106, 0x2A74, 0xFE13, 0xFE16, 0xFE55, 0xFE56,
   0xFE5F, 0xFE6B, 0xFF03, 0xFF0F, 0xFF1A, 0xFF1F, 0xFF20]

/-- The host of an authority without the brackets around it. Only a port may follow them. -/
def hostIn (authority : List Char) : Except HostFault (List Char) :=
  let place := (splitAt '@' authority).getLast?.getD []
  match cutAt '[' place with
  | (before, some enclosed) =>
    let (host, behind) := cutAt ']' enclosed
    if before.isEmpty && behind.all fun port ↦ port.isEmpty || port.head? == some ':' then .ok host
    else .error .misplacedBrackets
  | (_, none) => .ok (cutAt ':' place).1

def checkAddress (host : List Char) : Except HostFault Unit :=
  if host.head? = some 'v' then
    if isFutureVersion host then .ok () else .error .futureAddress
  else if isVersionFour host then .error .bracketedVersionFour
  else if isVersionSix host then .ok ()
  else .error (.notAnAddress (String.ofList host))

def checkBrackets (authority : List Char) : Except HostFault Unit :=
  match authority.contains '[', authority.contains ']' with
  | false, false => .ok ()
  | true, true => hostIn authority >>= checkAddress
  | _, _ => .error .misplacedBrackets

def checkMarks (authority : List Char) : Except HostFault Unit :=
  if authority.any fun c ↦ disguisedMarks.contains c.toNat then
    .error (.disguisedMark (String.ofList authority))
  else .ok ()

example : isVersionSix "::1".toList = true := by decide +kernel
example : isVersionSix "1::2::3".toList = false := by decide +kernel
example : isVersionSix "fe80::1%eth0".toList = true := by decide +kernel

end VpcMachines.Link
