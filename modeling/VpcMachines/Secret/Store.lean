import VpcMachines.Cloud
import VpcMachines.Files
import VpcMachines.Yaml.Rendering

/-!
# Stores of secrets

Secrets are kept in memory, or as YAML files: one per secret, in a directory per namespace. A file holds
its values under `data`, as plain text or, if it says so, in base64.
-/

namespace VpcMachines

open Text

namespace Secret

/-- The value of a text key in a mapping. -/
def under (name : String) : List (Yaml.Key × Yaml.Ref) → Option Yaml.Ref
  | [] => none
  | (key, value) :: rest =>
    match key.atom with
    | .text found => if name = found then some value else under name rest
    | _ => under name rest

/-- The entries of a value that is a mapping. -/
def entriesOf : Yaml.Value → Option (List (Yaml.Key × Yaml.Ref))
  | .map entries => some entries
  | _ => none

def isText (text : String) : Yaml.Value → Bool
  | .atom (.text s) => s == text
  | _ => false

/-- The plain form of a value in a document, or of a key. -/
def written : Except Yaml.Fault String → Except Fault String
  | .ok s => .ok s
  | .error fault => .error (.yaml fault)

/-- The bytes that a value stands for: those of its text, or those that its text encodes. -/
def bytesOf (path : String) (isEncoded : Bool) (key : Yaml.Key) (text : String) :
    Except Fault (List UInt8) :=
  if isEncoded then
    if text.toList.any fun c ↦ 0x80 ≤ c.toNat then .error .secretNotAscii
    else
      match Base64.decode text.toList with
      | .ok bytes => .ok bytes
      | .error fault => do
        let name ← written key.atom.plainForm
        .error (.secretNotBase64 path name fault)
  else
    match Utf8.encodeWhole text with
    | .ok bytes => .ok bytes
    | .error fault => .error (.unencodable fault)

/-- The values of a secret, one after the other. Keys with the same text are one. -/
def ofEntries (path : String) (isEncoded : Bool) (document : Yaml.Document) (known : Secret) :
    List (Yaml.Key × Yaml.Ref) → Except Fault Secret
  | [] => .ok known
  | (key, value) :: rest => do
    let text ← written (document.plainForm value)
    let bytes ← bytesOf path isEncoded key text
    let name ← written key.atom.plainForm
    ofEntries path isEncoded document (Json.insertField name (.bytes bytes) known) rest

/-- The secret that a document holds. -/
def ofDocument (path : String) (document : Yaml.Document) : Except Fault Secret :=
  let fields := (entriesOf document.content).getD []
  let at? (name : String) : Option Yaml.Value := (under name fields).map document.value
  match (at? "data").bind entriesOf with
  | none => .error (.secretWithoutData path)
  | some data =>
    let isEncoded := (at? "encoding").any (isText "base64")
    ofEntries path isEncoded document [] data

/-- The secret in a file that is there. -/
def ofText (path : String) (s : List Char) : Except Fault Secret :=
  match Yaml.read s with
  | .ok document => ofDocument path document
  | .error .malformed => .error (.secretMalformed path)
  | .error fault => .error (.yaml fault)

def pathIn (home : Path) (space name : String) : Path :=
  ((home.join "secrets").join space).join (name ++ ".yaml")

/-- The secret kept in files below a home. -/
def inFiles (files : Files) (home : Path) (space name : String) : Except Fault Secret :=
  let p := pathIn home space name
  if (files.status p).isAbsent then .error (.secretMissing space name)
  else do ofText (p.text files.rootText) (← files.readText p)

/-- Secrets in memory by namespace and name. -/
abbrev Memory := List ((String × String) × Secret)

def Memory.put (memory : Memory) (space name : String) (secret : Secret) : Memory :=
  ((space, name), secret) :: memory

def inMemory (memory : Memory) (space name : String) : Except Fault Secret :=
  match memory.lookup (space, name) with
  | some secret => .ok secret
  | none => .error (.secretMissing space name)

end Secret

/-- A store of secrets. A failing one reports the same fault for every secret. -/
inductive SecretStore where
  | memory (secrets : Secret.Memory)
  | files (files : Files) (home : Path)
  | failing (fault : Fault)

namespace SecretStore

def get (store : SecretStore) (space name : String) : Except Fault Secret :=
  match store with
  | memory secrets => Secret.inMemory secrets space name
  | files tree home => Secret.inFiles tree home space name
  | failing fault => .error fault

/-- Adds a secret to a store in memory. -/
def put (store : SecretStore) (space name : String) (secret : Secret) : SecretStore :=
  match store with
  | memory secrets => memory (secrets.put space name secret)
  | other => other

/-- The key of the bootstrap text, unless a store is given another. -/
def usualDataKey : String := "value"

end SecretStore

end VpcMachines
