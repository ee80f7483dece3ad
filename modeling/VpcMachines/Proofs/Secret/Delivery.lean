import Mathlib.Data.List.Forall2
import VpcMachines.Proofs.Files.Documents
import VpcMachines.Proofs.Secret.Encoded

/-!
# What a store delivers

A store in memory gives the secret that was put last, and a file that holds values in base64 gives all
of them, in their order and byte by byte. A text that is kept as its bytes under some key is therefore
what these bytes are read as (`Keeps.value_eq`).
-/

namespace VpcMachines

open Text Yaml

variable {space name key text : String}

/-! ## Files -/

namespace Secret

variable {document : Document} {entries : List (Key × Ref)} {values : List (String × List UInt8)}
  {known : Secret}

/-- An entry of a mapping has a text as its key, and a text that encodes bytes as its value. -/
structure Writes (document : Document) (entry : Key × Ref) (value : String × List UInt8) : Prop where
  key : entry.1.atom = .text value.1
  value : document.value entry.2 = .atom (.text (String.ofList (Base64.encode value.2)))

/-- A document is a mapping that says that it is in base64, and its data are these values, each under
a key of its own. -/
inductive Holds (document : Document) (values : List (String × List UInt8)) : Prop where
  | intro {fields entries : List (Key × Ref)} {encoding data : Ref}
      (content : document.content = .map fields)
      (encodingAt : under "encoding" fields = some encoding)
      (isBase64 : document.value encoding = .atom (.text "base64"))
      (dataAt : under "data" fields = some data)
      (mapping : document.value data = .map entries)
      (written : List.Forall₂ (Writes document) entries values)
      (distinct : (values.map Prod.fst).Nodup)

/-- A secret whose values are all bytes. -/
def ofBytes (values : List (String × List UInt8)) : Secret := values.map fun v ↦ (v.1, .bytes v.2)

theorem insertField_of_not_mem {value : SecretValue} (h : name ∉ known.map Prod.fst) :
    Json.insertField name value known = known ++ [(name, value)] := by
  induction known with
  | nil => rfl
  | cons field rest ih =>
    rw [List.map_cons, List.mem_cons, not_or] at h
    rw [Json.insertField, if_neg (Ne.symm h.1), ih h.2, List.cons_append]

theorem Writes.ofEntries_cons {entry : Key × Ref} {value : String × List UInt8}
    (h : Writes document entry value) (path : String) :
    ofEntries path true document known (entry :: entries) =
      ofEntries path true document (Json.insertField value.1 (.bytes value.2) known) entries := by
  have hkey : written entry.1.atom.plainForm = .ok value.1 := by
    rw [h.key]
    rfl
  have hform : written (document.plainForm entry.2) =
      .ok (String.ofList (Base64.encode value.2)) := by
    rw [Document.plainForm, h.value]
    rfl
  rw [ofEntries, hform, hkey]
  simp only [bind, Except.bind, bytesOf_encode]

/-- The entries are read one after the other, and none takes the place of another. -/
theorem ofEntries_eq (h : List.Forall₂ (Writes document) entries values) (path : String)
    (hdistinct : (known.map Prod.fst ++ values.map Prod.fst).Nodup) :
    ofEntries path true document known entries = .ok (known ++ ofBytes values) := by
  induction h generalizing known with
  | nil => rw [ofEntries, ofBytes, List.map_nil, List.append_nil]
  | @cons entry value entries values hentry _ ih =>
    have hfresh : value.1 ∉ known.map Prod.fst := by
      obtain ⟨_, _, hapart⟩ := List.nodup_append.mp hdistinct
      intro hmem
      exact hapart _ hmem value.1 List.mem_cons_self rfl
    calc ofEntries path true document known (entry :: entries)
      _ = ofEntries path true document (known ++ [(value.1, .bytes value.2)]) entries := by
        rw [hentry.ofEntries_cons, insertField_of_not_mem hfresh]
      _ = .ok (known ++ [(value.1, .bytes value.2)] ++ ofBytes values) := by
        apply ih
        simpa using hdistinct
      _ = .ok (known ++ ofBytes (value :: values)) := by
        rw [List.append_assoc]
        rfl

theorem Holds.ofDocument_eq (h : Holds document values) (path : String) :
    ofDocument path document = .ok (ofBytes values) := by
  cases h with
  | intro hcontent hencoding hbase64 hdata hmapping hwritten hdistinct =>
  have hfields : entriesOf document.content = some _ := congrArg entriesOf hcontent
  have hentries : entriesOf (document.value _) = some _ := congrArg entriesOf hmapping
  have htext : isText "base64" (document.value _) = true := (congrArg (isText "base64") hbase64).trans
    (beq_self_eq_true "base64")
  simp only [ofDocument, hfields, Option.getD_some, hencoding, hdata, Option.map_some,
    Option.bind_some, hentries, Option.any_some, htext]
  exact ofEntries_eq hwritten path hdistinct

/-- The document of a file with one value, read as a text, holds this value. -/
theorem holds_layout (b : List UInt8) :
    Holds (layoutDocument (.text (String.ofList (Base64.encode b)))) [("value", b)] := by
  let document := layoutDocument (.text (String.ofList (Base64.encode b)))
  have hcontent : document.content = .map [(⟨1, .text "encoding"⟩, 2), (⟨3, .text "data"⟩, 4)] := rfl
  have hencoding :
      under "encoding" [(⟨1, .text "encoding"⟩, 2), (⟨3, .text "data"⟩, 4)] = some 2 := by
    simp [under]
  have hdata : under "data" [(⟨1, .text "encoding"⟩, 2), (⟨3, .text "data"⟩, 4)] = some 4 := by
    simp [under]
  have hwritten : List.Forall₂ (Writes document) [(⟨5, .text "value"⟩, 6)] [("value", b)] :=
    .cons ⟨rfl, rfl⟩ .nil
  exact .intro hcontent hencoding rfl hdata rfl hwritten (by simp)

/-- Whatever bytes a file holds in base64, it is read as a secret of these bytes. -/
theorem inFiles_eq {files : Files} {home : Path} {content : List Char}
    (hfile : files.readText (pathIn home space name) = .ok content)
    (hread : Yaml.read content = .ok document) (hholds : Holds document values) :
    inFiles files home space name = .ok (ofBytes values) := by
  calc inFiles files home space name
    _ = ofText ((pathIn home space name).text files.rootText) content := by
      simp only [inFiles, Files.not_isAbsent_of_readText hfile, hfile]
      rfl
    _ = ofDocument ((pathIn home space name).text files.rootText) document := by
      simp only [ofText, hread]
    _ = .ok (ofBytes values) := hholds.ofDocument_eq _

theorem lookup_ofBytes (key : String) (values : List (String × List UInt8)) :
    (ofBytes values).lookup key = (values.lookup key).map .bytes := by
  induction values with
  | nil => rfl
  | cons value rest ih =>
    rw [ofBytes, List.map_cons, List.lookup_cons, List.lookup_cons]
    cases key == value.1
    · exact ih
    · rfl

end Secret

/-! ## Stores -/

namespace SecretStore

/-- Adds secrets to a store one after the other. -/
def putAll (store : SecretStore) (puts : List ((String × String) × Secret)) : SecretStore :=
  puts.foldl (fun store added ↦ store.put added.1.1 added.1.2 added.2) store

theorem putAll_memory (puts : List ((String × String) × Secret)) (initial : Secret.Memory) :
    (memory initial).putAll puts = memory (puts.reverse ++ initial) := by
  induction puts generalizing initial with
  | nil => rfl
  | cons added puts ih =>
    calc (memory initial).putAll (added :: puts)
      _ = (memory (added :: initial)).putAll puts := rfl
      _ = memory (puts.reverse ++ added :: initial) := ih (added :: initial)
      _ = memory ((added :: puts).reverse ++ initial) := by
        rw [List.reverse_cons, List.append_assoc, List.singleton_append]

/-- What was put last is what is got. -/
theorem get_putAll {initial : Secret.Memory} {before after : List ((String × String) × Secret)}
    {secret : Secret} (hlast : ∀ added ∈ after, added.1 ≠ (space, name)) :
    ((memory initial).putAll (before ++ ((space, name), secret) :: after)).get space name =
      .ok secret := by
  have hlookup :
      ((before ++ ((space, name), secret) :: after).reverse ++ initial).lookup (space, name) =
        some secret := by
    apply List.lookup_eq_some_iff.mpr
    refine ⟨after.reverse, before.reverse ++ initial, by simp, ?_⟩
    intro added hadded
    exact bne_iff_ne.mpr (hlast added (List.mem_reverse.mp hadded)).symm
  rw [putAll_memory]
  simp only [get, Secret.inMemory, hlookup]

/-- A store keeps the bytes of a text under a key of a secret: they were put there last, or a file holds
them in base64. -/
inductive Keeps (space name key text : String) : SecretStore → Prop where
  | memory (initial : Secret.Memory) (before : List ((String × String) × Secret))
      {after : List ((String × String) × Secret)} {secret : Secret} {encoded : List UInt8}
      (last : ∀ added ∈ after, added.1 ≠ (space, name))
      (bytes : secret.lookup key = some (.bytes encoded))
      (encodes : Utf8.encodeWhole text = .ok encoded) :
      Keeps space name key text
        ((SecretStore.memory initial).putAll (before ++ ((space, name), secret) :: after))
  | files {files : Files} {home : Path} {content : List Char} {document : Document}
      {values : List (String × List UInt8)} {encoded : List UInt8}
      (file : files.readText (Secret.pathIn home space name) = .ok content)
      (parsed : Yaml.read content = .ok document) (holds : Secret.Holds document values)
      (bytes : values.lookup key = some encoded) (encodes : Utf8.encodeWhole text = .ok encoded) :
      Keeps space name key text (.files files home)

/-- A text that is kept is what stands under its key. -/
theorem Keeps.value_eq {store : SecretStore} (h : Keeps space name key text store) :
    ∃ secret, store.get space name = .ok secret ∧
      ∃ value, secret.value? key = some value ∧ value.asText = .ok text := by
  obtain ⟨secret, encoded, hget, hbytes, hencodes⟩ :
      ∃ (secret : Secret) (encoded : List UInt8), store.get space name = .ok secret ∧
        secret.lookup key = some (.bytes encoded) ∧ Utf8.encodeWhole text = .ok encoded := by
    cases h with
    | memory initial before last bytes encodes => exact ⟨_, _, get_putAll last, bytes, encodes⟩
    | files file parsed holds bytes encodes =>
      refine ⟨_, _, Secret.inFiles_eq file parsed holds, ?_, encodes⟩
      rw [Secret.lookup_ofBytes, bytes]
      rfl
  refine ⟨secret, hget, .bytes encoded, ?_, Utf8.decodeWhole_of_encodeWhole hencodes⟩
  rw [Secret.value?, hbytes]
  rfl

end SecretStore

end VpcMachines
