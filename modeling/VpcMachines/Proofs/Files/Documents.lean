import VpcMachines.Files
import VpcMachines.Proofs.Text.Utf8
import VpcMachines.Yaml.Document

/-!
# Documents in files

Settings and secrets are read in the same way: a file is read as a text, and the text as a document.
Their readers look for files that are missing, for texts that are no documents and for faults of a value,
and let everything else pass. What passes is listed here (`Strays`): it is either the path, under which
there is no file that can be read, or a scalar of the document that breaks the reader instead of being
rejected.
-/

namespace VpcMachines

/-- Faults of a document that are neither of the language nor of a value. -/
def Yaml.Fault.isStray : Yaml.Fault → Bool
  | .codeTooLarge | .notBoolean _ | .emptyNumber | .weightTooLarge => true
  | .notTimestamp | .notPlainText | .tooDeep | .tooDeepToWrite => true
  | _ => false

namespace Fault

@[simp]
theorem isOfContent_yaml (f : Yaml.Fault) : (Fault.yaml f).isOfContent = !f.isStray := by
  cases f <;> rfl

end Fault

namespace Files

open Text

variable {files : Files} {p : Path} {s : List Char} {d : Yaml.Document} {fault : Fault}

/-- The document in a file. -/
def readDocument (files : Files) (p : Path) : Except Fault Yaml.Document := do
  let s ← files.readText p
  (Yaml.read s).mapError Fault.yaml

/-- The faults of a document in a file that is there, or of something else that is, which nobody looks
for. -/
inductive Strays (files : Files) (p : Path) : Fault → Prop where
  | directory (h : files.status p = .directory) :
      Strays files p (.isDirectory (p.text files.rootText))
  | tooLong (h : files.status p = .tooLong) : Strays files p (.nameTooLong (p.text files.rootText))
  | document {s : List Char} {fault : Yaml.Fault} (htext : files.readText p = .ok s)
      (hread : Yaml.read s = .error fault) (hstray : fault.isStray = true) : Strays files p (.yaml fault)

/-- The faults of a file that is no text, or whose text is no document. -/
inductive Garbled (files : Files) (p : Path) : Fault → Prop where
  | undecodable {content : List UInt8} {fault : Utf8.Fault} (h : files.status p = .file content)
      (hcontent : Utf8.decode content = .error fault) : Garbled files p (.undecodable fault)
  | unreadable {s : List Char} {fault : Yaml.Fault} (htext : files.readText p = .ok s)
      (hread : Yaml.read s = .error fault) (hstray : fault.isStray = false) :
      Garbled files p (.yaml fault)

theorem Strays.isOfContent (h : files.Strays p fault) : fault.isOfContent = false := by
  cases h with
  | directory => rfl
  | tooLong => rfl
  | document _ _ hstray => rw [Fault.isOfContent_yaml, hstray, Bool.not_true]

theorem readText_eq_ok_iff :
    files.readText p = .ok s ↔ ∃ content, files.status p = .file content ∧ decode content = .ok s := by
  unfold readText
  cases files.status p <;> simp

/-- A file that cannot be read as a text says nothing of a document. -/
theorem ne_yaml_of_readText (h : files.readText p = .error fault) (f : Yaml.Fault) :
    fault ≠ .yaml f := by
  rintro rfl
  rw [readText] at h
  split at h
  case h_7 =>
    unfold decode at h
    split at h <;> cases h
  all_goals cases h

theorem not_isAbsent_of_readText (h : files.readText p = .ok s) :
    (files.status p).isAbsent = false := by
  obtain ⟨content, hstatus, _⟩ := readText_eq_ok_iff.mp h
  rw [hstatus]
  rfl

theorem readDocument_of_readText (h : files.readText p = .ok s) :
    files.readDocument p = (Yaml.read s).mapError Fault.yaml := by
  rw [readDocument, h]
  rfl

theorem readDocument_eq_ok_iff :
    files.readDocument p = .ok d ↔
      ∃ s, files.readText p = .ok s ∧ Yaml.read s = .ok d := by
  constructor
  · intro h
    cases htext : files.readText p with
    | error fault =>
      rw [readDocument, htext] at h
      cases h
    | ok s =>
      rw [readDocument_of_readText htext] at h
      cases hread : Yaml.read s with
      | error fault =>
        rw [hread] at h
        cases h
      | ok found =>
        rw [hread] at h
        cases h
        exact ⟨s, rfl, hread⟩
  · rintro ⟨s, htext, hread⟩
    rw [readDocument_of_readText htext, hread]
    rfl

theorem not_isAbsent_of_readDocument (h : files.readDocument p = .ok d) :
    (files.status p).isAbsent = false := by
  obtain ⟨s, htext, _⟩ := readDocument_eq_ok_iff.mp h
  exact not_isAbsent_of_readText htext

theorem Strays.not_isAbsent (h : files.Strays p fault) : (files.status p).isAbsent = false := by
  cases h with
  | directory hstatus | tooLong hstatus =>
    rw [hstatus]
    rfl
  | document htext => exact not_isAbsent_of_readText htext

theorem Strays.readDocument_eq (h : files.Strays p fault) : files.readDocument p = .error fault := by
  cases h with
  | directory hstatus | tooLong hstatus =>
    rw [readDocument, readText, hstatus]
    rfl
  | document htext hread =>
    rw [readDocument_of_readText htext, hread]
    rfl

theorem Garbled.isOfContent (h : files.Garbled p fault) : fault.isOfContent = true := by
  cases h with
  | undecodable => rfl
  | unreadable _ _ hstray => rw [Fault.isOfContent_yaml, hstray, Bool.not_false]

/-- All of them are of a value but a violation of the language. -/
theorem Garbled.isValue (h : files.Garbled p fault) (hother : fault ≠ .yaml .malformed) :
    fault.category.isValue = true := by
  cases h with
  | undecodable => rfl
  | @unreadable s f _ _ hstray =>
    cases f with
    | malformed => exact absurd rfl hother
    | codeTooLarge | notBoolean | emptyNumber | weightTooLarge | notTimestamp | notPlainText
      | tooDeep | tooDeepToWrite => cases hstray
    | _ => rfl

theorem Garbled.readDocument_eq (h : files.Garbled p fault) :
    files.readDocument p = .error fault := by
  cases h with
  | undecodable hstatus hcontent =>
    rw [readDocument, readText, hstatus]
    dsimp only [decode]
    rw [hcontent]
    rfl
  | unreadable htext hread =>
    rw [readDocument_of_readText htext, hread]
    rfl

/-- Whatever keeps a document that is there from being read is astray or of the content. -/
theorem strays_or_garbled (hthere : (files.status p).isAbsent = false)
    (h : files.readDocument p = .error fault) : files.Strays p fault ∨ files.Garbled p fault := by
  cases hstatus : files.status p with
  | absent | blocked | unencodable | unnameable =>
    rw [hstatus] at hthere
    cases hthere
  | tooLong =>
    rw [readDocument, readText, hstatus] at h
    cases h
    exact .inl (.tooLong hstatus)
  | directory =>
    rw [readDocument, readText, hstatus] at h
    cases h
    exact .inl (.directory hstatus)
  | file content =>
    cases hcontent : Utf8.decode content with
    | error fault =>
      have hgarbled : files.Garbled p (.undecodable fault) := .undecodable hstatus hcontent
      cases hgarbled.readDocument_eq.symm.trans h
      exact .inr hgarbled
    | ok text =>
      have htext : files.readText p = .ok (unifyNewlines text.toList) := by
        apply readText_eq_ok_iff.mpr
        exact ⟨content, hstatus, by rw [decode, hcontent]⟩
      rw [readDocument_of_readText htext] at h
      cases hread : Yaml.read (unifyNewlines text.toList) with
      | ok d =>
        rw [hread] at h
        cases h
      | error fault =>
        rw [hread] at h
        cases h
        cases hstray : fault.isStray with
        | true => exact .inl (.document htext hread hstray)
        | false => exact .inr (.unreadable htext hread hstray)

/-- A document with a boolean that is none. -/
def unknownBoolean : String := "data: !!bool maybe\n"

theorem read_unknownBoolean : Yaml.read unknownBoolean.toList = .error (.notBoolean "maybe") := by
  have htokens : Yaml.tokens unknownBoolean.toList =
      [.blockMappingStart, .key, .scalar "data" true, .value, .tag (some "!!") "bool",
        .scalar "maybe" true, .blockEnd, .streamEnd] := by
    decide +kernel
  rw [Yaml.read, htokens]
  rfl

theorem strays_unknownBoolean
    (h : files.status p = .file (Utf8.encode unknownBoolean)) :
    files.Strays p (.yaml (.notBoolean "maybe")) := by
  have htext : files.readText p = .ok unknownBoolean.toList := by
    apply readText_eq_ok_iff.mpr
    refine ⟨_, h, ?_⟩
    rw [decode, Utf8.decode_encode]
    rfl
  exact .document htext read_unknownBoolean rfl

end Files

end VpcMachines
