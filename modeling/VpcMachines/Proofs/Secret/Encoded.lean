import VpcMachines.Proofs.Files.Confinement
import VpcMachines.Proofs.Secret.Layout
import VpcMachines.Proofs.Text.Base64
import VpcMachines.Proofs.Text.Utf8
import VpcMachines.Proofs.Yaml.Restatement

/-!
# Bytes behind an unquoted value

The base64 text of a value passes through the reader of the file, which may take it for something else
than a text; what it took it for is restated, and the restatement is decoded. Of all restatements only
the text itself is decoded to the bytes that it encodes, so the bytes are delivered exactly if the text
is restated as it stands (`encoded_value_delivered_iff`).
-/

namespace VpcMachines.Secret

open Text Yaml

variable {w : List Char} {b : List UInt8} {files : Files} {home : Path} {space name : String}

/-! ## The file -/

theorem unifyNewlines_eq {s : List Char} (h : '\r' ∉ s) : unifyNewlines s = s := by
  induction s with
  | nil => rfl
  | cons c s ih =>
    rw [List.mem_cons, not_or] at h
    rw [unifyNewlines, ih h.2]
    · exact fun _ hc _ ↦ h.1 hc.symm
    · exact fun hc ↦ h.1 hc.symm

theorem decode_layout (hw : ∀ c ∈ w, isWordChar c = true) :
    Files.decode (Utf8.encode (String.ofList (layout w))) = .ok (layout w) := by
  have hword : w.all (· != '\r') = true :=
    List.all_eq_true.mpr fun c hc ↦ by simp [ne_of_isWordChar (x := '\r') (hw c hc) rfl]
  have hplain : ∀ c ∈ layout w, c ≠ '\r' := by
    simpa using all_layout (by decide +kernel) hword (by decide)
  have hreturn : '\r' ∉ layout w := fun hmem ↦ hplain _ hmem rfl
  rw [Files.decode, Utf8.decode_encode]
  simp only [String.toList_ofList, unifyNewlines_eq hreturn]

theorem inFiles_layout (hw : ∀ c ∈ w, isWordChar c = true)
    (hfile : files.status (pathIn home space name) =
      .file (Utf8.encode (String.ofList (layout w)))) :
    inFiles files home space name =
      ofText ((pathIn home space name).text files.rootText) (layout w) := by
  simp only [inFiles, hfile, FileStatus.isAbsent, Files.readText, decode_layout hw]
  rfl

/-- The bytes of a value are those that its restatement encodes. -/
theorem ofText_layout_iff (path : String) (hw : ∀ c ∈ w, isWordChar c = true) (hmark : w ≠ ['=']) :
    ofText path (layout w) = .ok [("value", .bytes b)] ↔
      ∃ text, restated (String.ofList w) = .ok text ∧
        bytesOf path true ⟨5, .text "value"⟩ text = .ok b := by
  rw [ofText, read_layout hw (isScalar_resolve_word hw hmark), restated]
  cases Atom.ofText (resolve (String.ofList w)) (String.ofList w) with
  | error fault => cases fault <;> simp [Except.map, Except.bind]
  | ok a =>
    simp only [Except.map, ofDocument_layout, Except.bind]
    cases a.plainForm with
    | error fault => simp [written, bind, Except.bind]
    | ok text =>
      cases hbytes : bytesOf path true ⟨5, .text "value"⟩ text with
      | error fault => simp [written, hbytes, bind, Except.bind]
      | ok bytes => simp [written, hbytes, bind, Except.bind, pure, Except.pure]

/-! ## The base64 text -/

theorem isWordChar_encode : ∀ c ∈ Base64.encode b, isWordChar c = true := by
  have hdigit : ∀ n < 64, isWordChar (Base64.digitChar n) = true := by decide
  intro c hc
  rcases Base64.mem_encode hc with rfl | ⟨n, hn, rfl⟩
  · rfl
  · exact hdigit n hn

theorem encode_ne_of_length {s : List Char} (h : s.length % 4 ≠ 0) : Base64.encode b ≠ s :=
  fun heq ↦ h (heq ▸ Base64.length_encode_mod b)

theorem decode_of_bytesOf {path text : String} {key : Key}
    (h : bytesOf path true key text = .ok b) : Base64.decode text.toList = .ok b := by
  rw [bytesOf, if_pos rfl] at h
  split at h
  · cases h
  · cases hdecode : Base64.decode text.toList with
    | ok bytes =>
      rw [hdecode] at h
      cases h
      rfl
    | error fault =>
      rw [hdecode] at h
      cases hname : written key.atom.plainForm with
      | ok name =>
        rw [hname] at h
        cases h
      | error fault =>
        rw [hname] at h
        cases h

theorem bytesOf_encode (path : String) (key : Key) :
    bytesOf path true key (String.ofList (Base64.encode b)) = .ok b := by
  have hascii : (Base64.encode b).any (fun c ↦ 0x80 ≤ c.toNat) = false := by
    simpa using fun c hc ↦ toNat_lt_of_isWordChar (isWordChar_encode (b := b) c hc)
  simp only [bytesOf, String.toList_ofList, hascii, Base64.decode_encode]
  rfl

/-- The bytes of a base64 text are delivered exactly if it is restated as it stands. -/
theorem ofText_encode_iff (path : String) :
    ofText path (layout (Base64.encode b)) = .ok [("value", .bytes b)] ↔
      restated (String.ofList (Base64.encode b)) = .ok (String.ofList (Base64.encode b)) := by
  have hmark : Base64.encode b ≠ ['='] := encode_ne_of_length (by decide)
  rw [ofText_layout_iff path isWordChar_encode hmark]
  constructor
  · rintro ⟨text, htext, hbytes⟩
    rcases eq_or_not_mem_of_restated isWordChar_encode hmark htext with rfl | hpadding
    · exact htext
    · have hsame : text.toList = Base64.encode b :=
        Base64.eq_encode_of_decode hpadding (decode_of_bytesOf hbytes)
      rw [htext, ← hsame, String.ofList_toList]
  · intro h
    exact ⟨_, h, bytesOf_encode path _⟩

/-! ## What is delivered -/

/-- The bytes behind an unquoted value are delivered exactly if their base64 text is not null, no
boolean but `True`, and no integer but a numeral that is not too long. -/
theorem encoded_value_delivered_iff
    (hfile : files.status (pathIn home space name) =
      .file (Utf8.encode (String.ofList (layout (Base64.encode b))))) :
    SecretStore.get (.files files home) space name = .ok [("value", .bytes b)] ↔
      isNullWord (Base64.encode b) = false ∧
        (isBoolWord (Base64.encode b) = true → Base64.encode b = "True".toList) ∧
        (isInteger (Base64.encode b) = true →
          IsNumeral (Base64.encode b) ∧ (Base64.encode b).length ≤ Atom.digitLimit) := by
  have hmark : Base64.encode b ≠ ['='] := encode_ne_of_length (by decide)
  have hzero : Base64.encode b ≠ ['0'] := encode_ne_of_length (by decide)
  have hfalse : Base64.encode b ≠ "False".toList := encode_ne_of_length (by decide)
  rw [SecretStore.get, inFiles_layout isWordChar_encode hfile, ofText_encode_iff,
    restated_eq_iff isWordChar_encode hmark hzero]
  simp only [hfalse, or_false]

/-- Files with one secret. -/
def oneSecret (content : List UInt8) : Files :=
  .ofTexts "/home" [(["secrets", "default", "bootstrap.yaml"], .file content)]

theorem status_oneSecret (content : List UInt8) :
    (oneSecret content).status (pathIn .root "default" "bootstrap") = .file content := by
  rw [oneSecret, Files.status_ofTexts (by decide) rfl]
  rfl

/-- The bytes whose base64 text is `1234` are delivered, though it is read as a number. -/
theorem numeral_value_delivered :
    Base64.encode [0xD7, 0x6D, 0xF8] = "1234".toList ∧
    (oneSecret (Utf8.encode (String.ofList (layout (Base64.encode [0xD7, 0x6D, 0xF8]))))).status
        (pathIn .root "default" "bootstrap") =
      .file (Utf8.encode (String.ofList (layout (Base64.encode [0xD7, 0x6D, 0xF8])))) ∧
    SecretStore.get
        (.files
          (oneSecret (Utf8.encode (String.ofList (layout (Base64.encode [0xD7, 0x6D, 0xF8])))))
          .root)
        "default" "bootstrap" = .ok [("value", .bytes [0xD7, 0x6D, 0xF8])] := by
  have hnumeral : IsNumeral (Base64.encode [0xD7, 0x6D, 0xF8]) :=
    .of_all (by decide) (by decide) (by decide)
  exact ⟨by decide, status_oneSecret _, (encoded_value_delivered_iff (status_oneSecret _)).mpr
    ⟨by decide, by decide, fun _ ↦ ⟨hnumeral, by decide⟩⟩⟩

/-- The base64 text `true` is read as a boolean and restated as `True`, which encodes other bytes. -/
theorem true_value_altered :
    Base64.encode [0xB6, 0xBB, 0x9E] = "true".toList ∧
    SecretStore.get
        (.files (oneSecret (Utf8.encode "encoding: base64\ndata:\n  value: true\n")) .root)
        "default" "bootstrap" = .ok [("value", .bytes [0x4E, 0xBB, 0x9E])] := by
  have hword : ∀ c ∈ "true".toList, isWordChar c = true := List.all_eq_true.mp (by decide)
  have hlayout :
      "encoding: base64\ndata:\n  value: true\n" = String.ofList (layout "true".toList) := by decide
  have hrestated : restated (String.ofList "true".toList) = .ok "True" := by
    have htag : resolve (String.ofList "true".toList) = .bool := by decide +kernel
    rw [restated, htag]
    rfl
  have hencoded : "True" = String.ofList (Base64.encode [0x4E, 0xBB, 0x9E]) := by decide
  refine ⟨by decide, ?_⟩
  rw [hlayout, SecretStore.get, inFiles_layout hword (status_oneSecret _),
    ofText_layout_iff _ hword (by decide)]
  refine ⟨"True", hrestated, ?_⟩
  rw [hencoded]
  exact bytesOf_encode _ _

end VpcMachines.Secret
