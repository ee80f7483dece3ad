import VpcMachines.Fault
import VpcMachines.Text.Newline

/-!
# Files

A tree of files below a root, and paths into it. Paths are joined segment by segment: a segment may
itself be a path, and one that begins with a slash leaves everything before it behind. A path is a text,
but a name in the tree is a string of bytes: that of the text in UTF-8, where certain halves of surrogate
pairs stand for bytes that are no part of a character. Outside the root only the directories above it are
known.
-/

namespace VpcMachines

open Text

/-- Where a path begins. Two slashes are kept apart from one, and from three or more, which are as one. -/
inductive Anchor where
  | tree
  | slash
  | twoSlashes
  deriving DecidableEq, Repr

structure Path where
  anchor : Anchor
  parts : List String
  deriving DecidableEq, Repr

namespace Path

/-- The root of the tree. -/
def root : Path := ⟨.tree, []⟩

/-- The parts of a segment. Empty parts and single points say nothing. -/
def partsOf (segment : String) : List String :=
  ((splitAt '/' segment.toList).map String.ofList).filter fun part ↦ part ≠ "" && part ≠ "."

/-- The anchor that a segment begins with. -/
def anchorOf? (segment : String) : Option Anchor :=
  match segment.toList with
  | '/' :: '/' :: '/' :: _ => some .slash
  | '/' :: '/' :: _ => some .twoSlashes
  | '/' :: _ => some .slash
  | _ => none

/-- The path with one more segment. -/
def join (p : Path) (segment : String) : Path :=
  match anchorOf? segment with
  | some anchor => ⟨anchor, partsOf segment⟩
  | none => { p with parts := p.parts ++ partsOf segment }

/-- The text of a path, given that of the root. -/
def text (rootText : String) (p : Path) : String :=
  let parts := String.intercalate "/" p.parts
  match p.anchor with
  | .tree => if p.parts.isEmpty then rootText else rootText ++ "/" ++ parts
  | .slash => "/" ++ parts
  | .twoSlashes => "//" ++ parts

end Path

/-- A name in the tree. -/
abbrev FileName := List UInt8

namespace FileName

/-- The bytes of a letter in a name: those of a character, or the one that a half stands for. -/
def letterBytes? : Letter → Option (List UInt8)
  | .char c => some (String.utf8EncodeChar c)
  | .half h =>
    if h.isByte then some [UInt8.ofNat (h.code - 0xDC00)] else none

/-- Whether a text can be a name: it has no halves but those that stand for bytes. -/
def isText (s : String) : Bool := (letters s.toList).all fun l ↦ (letterBytes? l).isSome

def ofText (s : String) : FileName := (letters s.toList).flatMap fun l ↦ (letterBytes? l).getD []

end FileName

/-- What is kept under a path; a directory that holds something need not be listed. -/
inductive FileEntry where
  | directory
  | file (content : List UInt8)
  deriving DecidableEq, Repr

/-- A tree of files, and the path of its root. -/
structure Files where
  rootText : String
  entries : List (List FileName × FileEntry)

/-- What a path leads to. -/
inductive FileStatus where
  | absent
  /-- A file stands where the path needs a directory. -/
  | blocked
  /-- The path is none, since its text has no bytes. -/
  | unencodable
  /-- The path is none, since it holds a null character. -/
  | unnameable
  | tooLong
  | directory
  | file (content : List UInt8)
  deriving DecidableEq, Repr

/-- Whether there is nothing under a path. -/
def FileStatus.isAbsent : FileStatus → Bool
  | .absent | .blocked | .unencodable | .unnameable => true
  | _ => false

namespace Files

/-- A tree whose names are given as texts. -/
def ofTexts (rootText : String) (entries : List (List String × FileEntry)) : Files :=
  ⟨rootText, entries.map fun (path, entry) ↦ (path.map FileName.ofText, entry)⟩

def isDirectory (files : Files) (place : List FileName) : Bool :=
  place.isEmpty || files.entries.any fun (path, entry) ↦
    (path == place && entry == .directory) || (place.isPrefixOf path && path != place)

def statusAt (files : Files) (place : List FileName) : FileStatus :=
  if files.isDirectory place then .directory
  else
    match files.entries.find? fun entry ↦ entry.1 == place with
    | some (_, .file content) => .file content
    | _ => .absent

/-- The longest name of a file, in bytes. -/
def nameLimit : Nat := 255

/-- The longest path, in bytes. -/
def pathLimit : Nat := 4095

/-- What lies outside the tree: only the directories above its root are known. -/
def statusOutside (parts : List String) : FileStatus :=
  if parts.all (· == "..") then .directory else .absent

/-- Follows the parts of a path from a place in the tree. Every part but the last has to lead to a
directory, also in front of two points. -/
def follow (files : Files) (place : List FileName) : List String → FileStatus
  | [] => files.statusAt place
  | part :: rest =>
    if !files.isDirectory place then
      match files.statusAt place with
      | .file _ => .blocked
      | _ => .absent
    else if nameLimit < (FileName.ofText part).length then .tooLong
    else if part = ".." then
      if place.isEmpty then statusOutside rest else files.follow place.dropLast rest
    else files.follow (place ++ [FileName.ofText part]) rest

/-- The size in bytes of what stands in front of the first part. -/
def anchorSize (files : Files) : Anchor → Nat
  | .tree => (FileName.ofText files.rootText).length
  | .slash => 0
  | .twoSlashes => 1

/-- The size of parts in bytes, with a slash in front of each. -/
def partsSize (parts : List String) : Nat :=
  parts.foldr (fun part size ↦ (FileName.ofText part).length + 1 + size) 0

def status (files : Files) (p : Path) : FileStatus :=
  if !p.parts.all FileName.isText then .unencodable
  else if p.parts.any fun part ↦ part.toList.contains '\x00' then .unnameable
  else if pathLimit < files.anchorSize p.anchor + partsSize p.parts then .tooLong
  else if p.anchor = .tree then files.follow [] p.parts
  else statusOutside p.parts

/-- The text of a file's content. -/
def decode (content : List UInt8) : Except Fault (List Char) :=
  match Utf8.decode content with
  | .ok s => .ok (unifyNewlines s.toList)
  | .error fault => .error (.undecodable fault)

/-- The text of the file under a path. -/
def readText (files : Files) (p : Path) : Except Fault (List Char) :=
  match files.status p with
  | .absent => .error (.fileMissing (p.text files.rootText))
  | .blocked => .error (.notDirectory (p.text files.rootText))
  | .unencodable => .error (.pathUnencodable (p.text files.rootText))
  | .unnameable => .error .nullInPath
  | .tooLong => .error (.nameTooLong (p.text files.rootText))
  | .directory => .error (.isDirectory (p.text files.rootText))
  | .file content => decode content

/-- The home that a text names: a tilde alone stands for the root of the tree, and one in front of a
name for the home of that account, if there is one. -/
def expandHome (accounts : List (String × String)) (written : String) : Except Fault Path :=
  let unknown : Except Fault Path :=
    .error (.reported .runtime "Could not determine home directory.")
  match Path.partsOf written with
  | [] => unknown
  | first :: rest =>
    match first.toList with
    | ['~'] => .ok ⟨.tree, rest⟩
    | '~' :: name =>
      match accounts.lookup (String.ofList name) with
      | some home => .ok ⟨.slash, Path.partsOf home ++ rest⟩
      | none => unknown
    | _ => unknown

end Files

end VpcMachines
