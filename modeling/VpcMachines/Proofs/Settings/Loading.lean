import VpcMachines.Proofs.Files.Confinement
import VpcMachines.Proofs.Files.Documents
import VpcMachines.Proofs.Settings.Validity
import VpcMachines.Settings.Load

/-!
# Settings come whole

A home that has a valid file of settings is given exactly what the file says, with the default for each
field that the file leaves out; one whose file is missing or invalid is given the defaults, and nothing
of the file (`loaded_whole_or_default`). No third settings come about. But loading may also fail: the
reader stumbles over a path under which there is no readable file, and over some scalars that are not as
their tags say.
-/

namespace VpcMachines.Settings

open Schema

variable {files : Files} {home p : Path} {document : Yaml.Document} {s : Settings} {fault : Fault}

/-- What a document says: the fields that it gives, if it is a mapping. One that is empty, or false in
some other way, gives none. -/
def Says (document : Yaml.Document) (s : Settings) : Prop :=
  ∃ given, Reads given s ∧
    if document.content.isFalsy then given = [] else Datum.ofYaml document = .record given

theorem ofDocument_eq_ok_iff : ofDocument document = .ok s ↔ Says document s := by
  have hsaid : Says document s ↔
      check (if document.content.isFalsy then .record [] else Datum.ofYaml document) =
        .accepted s := by
    rw [check_eq_accepted_iff, Says]
    split <;> simp [and_comm, eq_comm]
  simp only [hsaid, ofDocument]
  generalize check _ = verdict
  cases verdict <;> simp

/-- A document that says nothing valid is rejected for its issues. -/
theorem isOfContent_of_ofDocument (h : ofDocument document = .error fault) :
    fault.isOfContent = true := by
  unfold ofDocument at h
  dsimp only at h
  split at h
  · cases h
  · cases h
    rfl

theorem ofFile_eq : ofFile files p = files.readDocument p >>= ofDocument := by
  unfold ofFile Files.readDocument
  cases files.readText p with
  | error fault => rfl
  | ok text =>
    change ofText text = (Yaml.read text).mapError Fault.yaml >>= ofDocument
    rw [ofText]
    cases Yaml.read text <;> rfl

theorem ofFile_eq_ok_iff :
    ofFile files p = .ok s ↔ ∃ document, files.readDocument p = .ok document ∧ Says document s := by
  rw [ofFile_eq]
  cases files.readDocument p with
  | error fault => simp [bind, Except.bind]
  | ok found => simp [bind, Except.bind, ofDocument_eq_ok_iff]

theorem strays_of_ofFile (hthere : (files.status p).isAbsent = false)
    (h : ofFile files p = .error fault) (hcontent : fault.isOfContent = false) :
    files.Strays p fault := by
  rw [ofFile_eq] at h
  cases hread : files.readDocument p with
  | error other =>
    rw [hread] at h
    cases h
    rcases Files.strays_or_garbled hthere hread with hstrays | hgarbled
    · exact hstrays
    · cases hgarbled.isOfContent.symm.trans hcontent
  | ok document =>
    rw [hread] at h
    cases (isOfContent_of_ofDocument h).symm.trans hcontent

/-- Why there are no settings in a file. -/
inductive Unset (files : Files) (p : Path) : Prop where
  | missing (h : (files.status p).isAbsent = true)
  | garbled {fault : Fault} (h : files.Garbled p fault)
  /-- The document is no mapping, or one of its fields is invalid. -/
  | invalid {document : Yaml.Document} (h : files.readDocument p = .ok document)
      (hsaid : ∀ s, ¬Says document s)

/-- There are none in a file that is there exactly if it cannot be read for a fault of its content. -/
theorem unset_iff (hthere : (files.status p).isAbsent = false) :
    Unset files p ↔ ∃ fault, ofFile files p = .error fault ∧ fault.isOfContent = true := by
  rw [ofFile_eq]
  constructor
  · intro h
    cases h with
    | missing habsent => cases habsent.symm.trans hthere
    | garbled hgarbled =>
      rw [hgarbled.readDocument_eq]
      exact ⟨_, rfl, hgarbled.isOfContent⟩
    | @invalid document hread hsaid =>
      rw [hread]
      change ∃ fault, ofDocument document = .error fault ∧ _
      cases hdocument : ofDocument document with
      | ok s => exact absurd (ofDocument_eq_ok_iff.mp hdocument) (hsaid s)
      | error fault => exact ⟨fault, rfl, isOfContent_of_ofDocument hdocument⟩
  · rintro ⟨fault, h, hcontent⟩
    cases hread : files.readDocument p with
    | error other =>
      rw [hread] at h
      cases h
      rcases Files.strays_or_garbled hthere hread with hstrays | hgarbled
      · cases hstrays.isOfContent.symm.trans hcontent
      · exact .garbled hgarbled
    | ok document =>
      rw [hread] at h
      change ofDocument document = .error fault at h
      apply Unset.invalid hread
      intro s hs
      cases (ofDocument_eq_ok_iff.mpr hs).symm.trans h

theorem load_of_missing (h : (files.status (pathIn home)).isAbsent = true) :
    load files home = .ok default := by
  simp only [load, h, if_true]

theorem load_of_ofFile (h : ofFile files (pathIn home) = .ok s) : load files home = .ok s := by
  obtain ⟨document, hread, _⟩ := ofFile_eq_ok_iff.mp h
  rw [load, Files.not_isAbsent_of_readDocument hread, h]
  rfl

theorem load_of_fault (hthere : (files.status (pathIn home)).isAbsent = false)
    (h : ofFile files (pathIn home) = .error fault) :
    load files home = if fault.isOfContent then .ok default else .error fault := by
  rw [load, hthere, h]
  rfl

theorem load_eq_ok_iff :
    load files home = .ok s ↔
      ofFile files (pathIn home) = .ok s ∨ s = default ∧ Unset files (pathIn home) := by
  constructor
  · intro h
    cases hthere : (files.status (pathIn home)).isAbsent with
    | true =>
      cases (load_of_missing hthere).symm.trans h
      exact .inr ⟨rfl, .missing hthere⟩
    | false =>
      cases hfile : ofFile files (pathIn home) with
      | ok found =>
        cases (load_of_ofFile hfile).symm.trans h
        exact .inl rfl
      | error fault =>
        rw [load_of_fault hthere hfile] at h
        cases hcontent : fault.isOfContent with
        | true =>
          rw [hcontent] at h
          cases h
          exact .inr ⟨rfl, (unset_iff hthere).mpr ⟨fault, hfile, hcontent⟩⟩
        | false =>
          rw [hcontent] at h
          cases h
  · rintro (h | ⟨rfl, hunset⟩)
    · exact load_of_ofFile h
    cases hthere : (files.status (pathIn home)).isAbsent with
    | true => exact load_of_missing hthere
    | false =>
      obtain ⟨fault, hfile, hcontent⟩ := (unset_iff hthere).mp hunset
      rw [load_of_fault hthere hfile, hcontent]
      rfl

theorem load_eq_error_iff :
    load files home = .error fault ↔ files.Strays (pathIn home) fault := by
  constructor
  · intro h
    cases hthere : (files.status (pathIn home)).isAbsent with
    | true => cases (load_of_missing hthere).symm.trans h
    | false =>
      cases hfile : ofFile files (pathIn home) with
      | ok found => cases (load_of_ofFile hfile).symm.trans h
      | error other =>
        rw [load_of_fault hthere hfile] at h
        cases hcontent : other.isOfContent with
        | true =>
          rw [hcontent] at h
          cases h
        | false =>
          rw [hcontent] at h
          cases h
          exact strays_of_ofFile hthere hfile hcontent
  · intro h
    have hfile : ofFile files (pathIn home) = .error fault := by
      rw [ofFile_eq, h.readDocument_eq]
      rfl
    rw [load_of_fault h.not_isAbsent hfile, h.isOfContent]
    rfl

/-- The settings of a home are those that its file says as a whole, or exactly the defaults. Loading them
fails exactly for the faults of the file that nobody looks for, and what is loaded has a port. -/
theorem loaded_whole_or_default (files : Files) (home : Path) :
    let p := pathIn home
    (∀ s, load files home = .ok s ↔ ofFile files p = .ok s ∨ s = default ∧ Unset files p) ∧
      (∀ s, ofFile files p = .ok s ↔
        ∃ document, files.readDocument p = .ok document ∧ Says document s) ∧
      (∀ fault, load files home = .error fault ↔ files.Strays p fault) ∧
      ∀ s, load files home = .ok s → 1 ≤ s.apiServerPort ∧ s.apiServerPort ≤ 65535 := by
  intro p
  refine ⟨fun s ↦ load_eq_ok_iff, fun s ↦ ofFile_eq_ok_iff, fun fault ↦ load_eq_error_iff, ?_⟩
  intro s h
  rcases load_eq_ok_iff.mp h with hfile | ⟨rfl, _⟩
  · obtain ⟨document, _, given, hreads, _⟩ := ofFile_eq_ok_iff.mp hfile
    exact hreads.port_bounds
  · decide

/-- A directory in the place of the file, or a boolean in it that is none, keeps the defaults from
applying. -/
theorem loading_fails_on_directory_and_boolean :
    let files (entry : FileEntry) : Files := .ofTexts "/home" [(["config", "config.yaml"], entry)]
    load (files .directory) .root = .error (.isDirectory "/home/config/config.yaml") ∧
      load (files (.file (Text.Utf8.encode Files.unknownBoolean))) .root =
        .error (.yaml (.notBoolean "maybe")) := by
  intro files
  have hstatus (entry : FileEntry) : (files entry).status (pathIn .root) =
      (files entry).follow [] ["config", "config.yaml"] :=
    Files.status_ofTexts (by decide) rfl
  constructor
  · apply load_eq_error_iff.mpr
    exact .directory ((hstatus _).trans rfl)
  · apply load_eq_error_iff.mpr
    exact Files.strays_unknownBoolean ((hstatus _).trans rfl)

end VpcMachines.Settings
