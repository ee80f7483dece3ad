import VpcMachines.Proofs.Files.Documents
import VpcMachines.Proofs.Secret.Encoded
import VpcMachines.Proofs.Text.Padding
import VpcMachines.Proofs.Yaml.Writing

/-!
# What a file of a secret leads to

There is no secret exactly if there is nothing under its path. A file is delivered exactly if its
document lists data whose values all stand for bytes (`found_valid_or_astray`): one value that does not
fails the whole secret. What fails is a fault of a value, but for the faults of the file that nobody looks
for, and for values that are too deep to be written.
-/

namespace VpcMachines.Secret

open Text Yaml

variable {files : Files} {home p : Path} {path space name text : String} {document : Document}
  {isEncoded : Bool} {key : Key} {entry : Key × Ref} {entries : List (Key × Ref)} {bytes : List UInt8}
  {value : String × List UInt8} {known secret : Secret} {fault : Fault}

/-! ## One value -/

/-- A text stands for the bytes that it encodes, or else for its own. -/
def StandsFor (isEncoded : Bool) (text : String) (bytes : List UInt8) : Prop :=
  if isEncoded then Base64.decode text.toList = .ok bytes else Utf8.encodeWhole text = .ok bytes

/-- An entry of a document is written as a name, and as a text that stands for bytes. -/
structure Carries (document : Document) (isEncoded : Bool) (entry : Key × Ref)
    (value : String × List UInt8) : Prop where
  name : entry.1.atom.plainForm = .ok value.1
  bytes : ∃ text, document.plainForm entry.2 = .ok text ∧ StandsFor isEncoded text value.2

theorem isAscii_of_decode (h : Base64.decode text.toList = .ok bytes) :
    (text.toList.any fun c ↦ 0x80 ≤ c.toNat) = false := by
  obtain ⟨⟨digits, n, hs, hall, _⟩, _⟩ := Base64.decode_isOk_iff.mp ⟨bytes, h⟩
  rw [hs, List.any_eq_false]
  intro c hc
  rcases List.mem_append.mp hc with hdigit | hmark
  · obtain ⟨d, hd⟩ := Option.isSome_iff_exists.mp (hall c hdigit)
    have hbelow := Base64.toNat_lt_of_digit? hd
    simpa using hbelow
  · rw [List.eq_of_mem_replicate hmark]
    decide

theorem bytesOf_eq_ok_iff :
    bytesOf path isEncoded key text = .ok bytes ↔ StandsFor isEncoded text bytes := by
  unfold StandsFor
  cases isEncoded with
  | true =>
    constructor
    · exact decode_of_bytesOf
    · intro h
      rw [bytesOf, isAscii_of_decode h]
      simp only [if_true] at h
      simp [h]
  | false =>
    unfold bytesOf
    cases Utf8.encodeWhole text <;> simp

/-- The value of one entry. -/
def entryOf (path : String) (isEncoded : Bool) (document : Document) (entry : Key × Ref) :
    Except Fault (String × List UInt8) := do
  let text ← written (document.plainForm entry.2)
  let bytes ← bytesOf path isEncoded entry.1 text
  let name ← written entry.1.atom.plainForm
  return (name, bytes)

theorem written_eq_ok_iff {form : Except Yaml.Fault String} :
    written form = .ok text ↔ form = .ok text := by
  cases form <;> simp [written]

theorem entryOf_eq_ok_iff :
    entryOf path isEncoded document entry = .ok value ↔ Carries document isEncoded entry value := by
  unfold entryOf
  constructor
  · intro h
    obtain ⟨text, htext, h⟩ := bind_ok_cases h
    obtain ⟨bytes, hbytes, h⟩ := bind_ok_cases h
    obtain ⟨name, hname, h⟩ := bind_ok_cases h
    cases h
    exact ⟨written_eq_ok_iff.mp hname, text, written_eq_ok_iff.mp htext, bytesOf_eq_ok_iff.mp hbytes⟩
  · rintro ⟨hname, text, htext, hbytes⟩
    rw [written_eq_ok_iff.mpr htext, written_eq_ok_iff.mpr hname]
    change (bytesOf path isEncoded entry.1 text >>= fun bytes ↦ _) = _
    rw [bytesOf_eq_ok_iff.mpr hbytes]
    rfl

theorem carries_eq (path : String) : Carries document isEncoded =
    fun entry value ↦ entryOf path isEncoded document entry = .ok value := by
  funext entry value
  exact propext entryOf_eq_ok_iff.symm

theorem eq_yaml_of_written {form : Except Yaml.Fault String} (h : written form = .error fault) :
    ∃ f, form = .error f ∧ fault = .yaml f := by
  cases form with
  | ok s => cases h
  | error f =>
    cases h
    exact ⟨f, rfl, rfl⟩

/-- A key that cannot be written is a fault of a value. -/
theorem written_key_failsOnly (key : Key) :
    FailsOnly (·.category.isValue = true) (written key.atom.plainForm) := by
  intro fault h
  obtain ⟨f, hf, rfl⟩ := eq_yaml_of_written h
  cases key.atom.plainForm_failsOnly f hf
  rfl

theorem bytesOf_failsOnly :
    FailsOnly (·.category.isValue = true) (bytesOf path isEncoded key text) := by
  unfold bytesOf
  split
  · split
    · exact .error rfl
    · split
      · exact .ok _
      · exact .bind (written_key_failsOnly key) fun name ↦ .error rfl
  · split
    · exact .ok _
    · exact .error rfl

/-- What an entry fails with is of a value, or its value is too deep to be written. -/
theorem entryOf_error_cases (h : entryOf path isEncoded document entry = .error fault) :
    fault.category.isValue = true ∨
      document.plainForm entry.2 = .error .tooDeepToWrite ∧ fault = .yaml .tooDeepToWrite := by
  rcases bind_error_cases h with hform | ⟨text, _, h⟩
  · obtain ⟨f, hf, rfl⟩ := eq_yaml_of_written hform
    rcases document.plainForm_failsOnly entry.2 f hf with rfl | rfl
    · exact .inl rfl
    · exact .inr ⟨hf, rfl⟩
  rcases bind_error_cases h with hbytes | ⟨bytes, _, h⟩
  · exact .inl (bytesOf_failsOnly fault hbytes)
  rcases bind_error_cases h with hname | ⟨name, _, h⟩
  · exact .inl (written_key_failsOnly entry.1 fault hname)
  · cases h

theorem entryOf_of_deep (h : document.plainForm entry.2 = .error .tooDeepToWrite) :
    entryOf path isEncoded document entry = .error (.yaml .tooDeepToWrite) := by
  rw [entryOf, h]
  rfl

/-! ## The data of a document -/

/-- The values under their names. Of several under one name the last counts. -/
def collect (known : Secret) (values : List (String × List UInt8)) : Secret :=
  values.foldl (fun known value ↦ Json.insertField value.1 (.bytes value.2) known) known

theorem ofEntries_eq_map :
    ofEntries path isEncoded document known entries =
      (entries.mapM (entryOf path isEncoded document)).map (collect known) := by
  induction entries generalizing known with
  | nil => rfl
  | cons entry entries ih =>
    have hstep : ofEntries path isEncoded document known (entry :: entries) =
        entryOf path isEncoded document entry >>= fun value ↦
          ofEntries path isEncoded document (Json.insertField value.1 (.bytes value.2) known)
            entries := by
      obtain ⟨key, r⟩ := entry
      simp only [ofEntries, entryOf, LawfulMonad.bind_assoc, pure_bind]
    rw [hstep, List.mapM_cons]
    cases entryOf path isEncoded document entry with
    | error fault => rfl
    | ok value =>
      change ofEntries path isEncoded document _ entries = _
      rw [ih]
      change _ = ((entries.mapM (entryOf path isEncoded document)) >>= fun values ↦ _).map _
      cases entries.mapM (entryOf path isEncoded document) <;> rfl

/-- A document is a mapping that lists these data, which are in base64 if it says so. -/
inductive Lists (document : Document) : Bool → List (Key × Ref) → Prop where
  | intro {fields entries : List (Key × Ref)} {data : Ref} (content : document.content = .map fields)
      (dataAt : under "data" fields = some data) (mapping : document.value data = .map entries) :
      Lists document (((under "encoding" fields).map document.value).any (isText "base64")) entries

theorem eq_map_of_entriesOf {value : Value} (h : entriesOf value = some entries) :
    value = .map entries := by
  cases value with
  | map found =>
    cases h
    rfl
  | _ => cases h

/-- Only a mapping has a value under a name. -/
theorem exists_fields {content : Value} {data : Ref}
    (h : under name ((entriesOf content).getD []) = some data) :
    ∃ fields, content = .map fields ∧ under name fields = some data := by
  cases content with
  | map fields => exact ⟨fields, rfl, h⟩
  | _ => cases h

theorem ofDocument_of_lists (h : Lists document isEncoded entries) :
    ofDocument path document = ofEntries path isEncoded document [] entries := by
  obtain ⟨content, dataAt, mapping⟩ := h
  simp only [ofDocument, content, entriesOf, Option.getD_some, dataAt, Option.map_some, mapping,
    Option.bind_some]

theorem ofDocument_of_not_lists (h : ∀ isEncoded entries, ¬Lists document isEncoded entries) :
    ofDocument path document = .error (.secretWithoutData path) := by
  simp only [ofDocument]
  split
  · rfl
  · next entries hentries =>
    obtain ⟨value, hvalue, hmap⟩ := Option.bind_eq_some_iff.mp hentries
    obtain ⟨data, hdata, rfl⟩ := Option.map_eq_some_iff.mp hvalue
    obtain ⟨fields, hcontent, hunder⟩ := exists_fields hdata
    exact absurd (.intro hcontent hunder (eq_map_of_entriesOf hmap)) (h _ entries)

theorem ofDocument_eq_ok_iff :
    ofDocument path document = .ok secret ↔
      ∃ isEncoded entries values, Lists document isEncoded entries ∧
        List.Forall₂ (Carries document isEncoded) entries values ∧ secret = collect [] values := by
  have hvalues (isEncoded : Bool) (entries : List (Key × Ref)) :
      ofEntries path isEncoded document [] entries = .ok secret ↔
        ∃ values, List.Forall₂ (Carries document isEncoded) entries values ∧
          secret = collect [] values := by
    rw [ofEntries_eq_map, carries_eq path]
    simp only [← mapM_ok_iff]
    cases entries.mapM (entryOf path isEncoded document) <;> simp [Except.map, eq_comm]
  constructor
  · intro h
    by_cases hlists : ∃ isEncoded entries, Lists document isEncoded entries
    · obtain ⟨isEncoded, entries, hlists⟩ := hlists
      rw [ofDocument_of_lists hlists] at h
      obtain ⟨values, hcarries, hsecret⟩ := (hvalues isEncoded entries).mp h
      exact ⟨isEncoded, entries, values, hlists, hcarries, hsecret⟩
    · rw [ofDocument_of_not_lists fun isEncoded entries h ↦ hlists ⟨isEncoded, entries, h⟩] at h
      cases h
  · rintro ⟨isEncoded, entries, values, hlists, hcarries, hsecret⟩
    rw [ofDocument_of_lists hlists]
    exact (hvalues isEncoded entries).mpr ⟨values, hcarries, hsecret⟩

/-- What a document fails with is of a value, or it is the first value too deep to be written, if all
values in front of it stand for bytes. -/
theorem ofDocument_error_cases (h : ofDocument path document = .error fault) :
    fault.category.isValue = true ∨
      ∃ isEncoded before entry after values, Lists document isEncoded (before ++ entry :: after) ∧
        List.Forall₂ (Carries document isEncoded) before values ∧
        document.plainForm entry.2 = .error .tooDeepToWrite ∧ fault = .yaml .tooDeepToWrite := by
  by_cases hlists : ∃ isEncoded entries, Lists document isEncoded entries
  · obtain ⟨isEncoded, entries, hlists⟩ := hlists
    rw [ofDocument_of_lists hlists, ofEntries_eq_map] at h
    cases hmap : entries.mapM (entryOf path isEncoded document) with
    | ok values =>
      rw [hmap] at h
      cases h
    | error other =>
      rw [hmap] at h
      cases h
      obtain ⟨before, entry, after, values, rfl, hbefore, hentry⟩ := mapM_error_iff.mp hmap
      rcases entryOf_error_cases hentry with hvalue | ⟨hdeep, rfl⟩
      · exact .inl hvalue
      · rw [mapM_ok_iff, ← carries_eq] at hbefore
        exact .inr ⟨isEncoded, before, entry, after, values, hlists, hbefore, hdeep, rfl⟩
  · rw [ofDocument_of_not_lists fun isEncoded entries h ↦ hlists ⟨isEncoded, entries, h⟩] at h
    cases h
    exact .inl rfl

theorem ofDocument_of_deep {before after : List (Key × Ref)} {values : List (String × List UInt8)}
    (hlists : Lists document isEncoded (before ++ entry :: after))
    (hbefore : List.Forall₂ (Carries document isEncoded) before values)
    (hdeep : document.plainForm entry.2 = .error .tooDeepToWrite) (path : String) :
    ofDocument path document = .error (.yaml .tooDeepToWrite) := by
  rw [carries_eq path, ← mapM_ok_iff] at hbefore
  have hmap : (before ++ entry :: after).mapM (entryOf path isEncoded document) =
      .error (.yaml .tooDeepToWrite) :=
    mapM_error_iff.mpr ⟨before, entry, after, values, rfl, hbefore, entryOf_of_deep hdeep⟩
  rw [ofDocument_of_lists hlists, ofEntries_eq_map, hmap]
  rfl

/-! ## The file -/

/-- The faults of a file of a secret that nobody looks for. -/
inductive Astray (files : Files) (p : Path) : Fault → Prop where
  | reading {fault : Fault} (h : files.Strays p fault) : Astray files p fault
  /-- All values in front of one stand for bytes, and that one is too deep to be written. -/
  | writing {document : Document} {isEncoded : Bool} {before after : List (Key × Ref)}
      {entry : Key × Ref} {values : List (String × List UInt8)}
      (hread : files.readDocument p = .ok document)
      (hlists : Lists document isEncoded (before ++ entry :: after))
      (hbefore : List.Forall₂ (Carries document isEncoded) before values)
      (hdeep : document.plainForm entry.2 = .error .tooDeepToWrite) :
      Astray files p (.yaml .tooDeepToWrite)

theorem inFiles_of_missing (h : (files.status (pathIn home space name)).isAbsent = true) :
    inFiles files home space name = .error (.secretMissing space name) := if_pos h

theorem inFiles_of_readDocument (h : files.readDocument (pathIn home space name) = .ok document) :
    inFiles files home space name =
      ofDocument ((pathIn home space name).text files.rootText) document := by
  obtain ⟨s, htext, hread⟩ := Files.readDocument_eq_ok_iff.mp h
  rw [inFiles, Files.not_isAbsent_of_readText htext, htext]
  change ofText _ s = _
  rw [ofText, hread]

/-- What keeps the document from being read leaves as it is, but for a violation of the language. -/
theorem inFiles_of_fault (hthere : (files.status (pathIn home space name)).isAbsent = false)
    (h : files.readDocument (pathIn home space name) = .error fault) :
    fault ≠ .yaml .malformed ∧ inFiles files home space name = .error fault ∨
      fault = .yaml .malformed ∧ inFiles files home space name =
        .error (.secretMalformed ((pathIn home space name).text files.rootText)) := by
  rw [inFiles, hthere]
  change _ ∧ (files.readText _ >>= ofText _) = _ ∨ _ ∧ (files.readText _ >>= ofText _) = _
  cases htext : files.readText (pathIn home space name) with
  | error other =>
    rw [Files.readDocument, htext] at h
    cases h
    exact .inl ⟨Files.ne_yaml_of_readText htext .malformed, rfl⟩
  | ok s =>
    rw [Files.readDocument_of_readText htext] at h
    change _ ∧ ofText _ s = _ ∨ _ ∧ ofText _ s = _
    cases hread : Yaml.read s with
    | ok document =>
      rw [hread] at h
      cases h
    | error f =>
      rw [hread] at h
      cases h
      rw [ofText, hread]
      cases f with
      | malformed => exact .inr ⟨rfl, rfl⟩
      | _ =>
        left
        exact ⟨by simp, rfl⟩

theorem inFiles_eq_ok_iff :
    inFiles files home space name = .ok secret ↔
      ∃ document isEncoded entries values,
        files.readDocument (pathIn home space name) = .ok document ∧
        Lists document isEncoded entries ∧
        List.Forall₂ (Carries document isEncoded) entries values ∧ secret = collect [] values := by
  constructor
  · intro h
    cases hthere : (files.status (pathIn home space name)).isAbsent with
    | true => cases (inFiles_of_missing hthere).symm.trans h
    | false =>
      cases hread : files.readDocument (pathIn home space name) with
      | ok document =>
        rw [inFiles_of_readDocument hread] at h
        obtain ⟨isEncoded, entries, values, hvalues⟩ := ofDocument_eq_ok_iff.mp h
        exact ⟨document, isEncoded, entries, values, rfl, hvalues⟩
      | error fault =>
        rcases inFiles_of_fault hthere hread with ⟨_, hfault⟩ | ⟨_, hmalformed⟩
        · cases hfault.symm.trans h
        · cases hmalformed.symm.trans h
  · rintro ⟨document, isEncoded, entries, values, hread, hvalues⟩
    rw [inFiles_of_readDocument hread]
    exact ofDocument_eq_ok_iff.mpr ⟨isEncoded, entries, values, hvalues⟩

theorem inFiles_error_cases (h : inFiles files home space name = .error fault) :
    fault.category.isValue = true ∨
      (files.status (pathIn home space name)).isAbsent = true ∧ fault = .secretMissing space name ∨
      Astray files (pathIn home space name) fault := by
  cases hthere : (files.status (pathIn home space name)).isAbsent with
  | true =>
    cases (inFiles_of_missing hthere).symm.trans h
    exact .inr (.inl ⟨rfl, rfl⟩)
  | false =>
    cases hread : files.readDocument (pathIn home space name) with
    | ok document =>
      rw [inFiles_of_readDocument hread] at h
      rcases ofDocument_error_cases h with
        hvalue | ⟨isEncoded, before, entry, after, values, hlists, hbefore, hdeep, rfl⟩
      · exact .inl hvalue
      · exact .inr (.inr (.writing hread hlists hbefore hdeep))
    | error other =>
      rcases inFiles_of_fault hthere hread with ⟨hother, hfault⟩ | ⟨rfl, hmalformed⟩
      · cases hfault.symm.trans h
        rcases Files.strays_or_garbled hthere hread with hstrays | hgarbled
        · exact .inr (.inr (.reading hstrays))
        · exact .inl (hgarbled.isValue hother)
      · cases hmalformed.symm.trans h
        exact .inl rfl

theorem Astray.inFiles_eq (h : Astray files (pathIn home space name) fault) :
    inFiles files home space name = .error fault := by
  cases h with
  | reading hstrays =>
    have hcontent := hstrays.isOfContent
    rcases inFiles_of_fault hstrays.not_isAbsent hstrays.readDocument_eq with
      ⟨_, hfault⟩ | ⟨rfl, _⟩
    · exact hfault
    · cases hcontent
  | writing hread hlists hbefore hdeep =>
    rw [inFiles_of_readDocument hread]
    exact ofDocument_of_deep hlists hbefore hdeep _

theorem Astray.isValue (h : Astray files p fault) : fault.category.isValue = false := by
  cases h with
  | reading hstrays => exact (Bool.or_eq_false_iff.mp hstrays.isOfContent).1
  | writing => rfl

theorem Astray.ne_missing (h : Astray files p fault) : fault ≠ .secretMissing space name := by
  rintro rfl
  rcases h with ⟨⟨⟩⟩

end VpcMachines.Secret
