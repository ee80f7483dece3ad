import VpcMachines.Proofs.Files.Confinement
import VpcMachines.Proofs.Secret.Contract
import VpcMachines.Proofs.Secret.Delivery

/-!
# Secrets of other namespaces

A name that is a path of its own, but never leads above the directory of its namespace, is confined to it:
what becomes of it depends on the files inside this directory. A name that begins with two points is not.
It leads to the secrets of all namespaces, under the same conditions as from within them
(`confined_unless_climbing`).
-/

namespace VpcMachines.Secret

open Files VpcMachines.Path

variable {files files₁ files₂ : Files} {home : Path} {space name other : String} {secret : Secret}

/-- The directory of a namespace. -/
def directoryOf (home : Path) (space : String) : Path := (home.join "secrets").join space

/-- Whether a name keeps to the directory of its namespace. -/
def StaysInside (name : String) : Prop :=
  anchorOf? (name ++ ".yaml") = none ∧ Stays 0 (partsOf (name ++ ".yaml"))

instance : Decidable (StaysInside name) := inferInstanceAs (Decidable (_ ∧ _))

/-- An outcome without a secret that was looked at. -/
def Unread (space name : String) (found : Except Fault Secret) : Prop :=
  found = .error (.secretMissing space name) ∨ ∃ path, found = .error (.nameTooLong path)

theorem pathIn_eq_below (h : anchorOf? (name ++ ".yaml") = none) :
    pathIn home space name = (directoryOf home space).below (partsOf (name ++ ".yaml")) := by
  rw [pathIn, ← directoryOf, join_eq_below h]

/-- The outcome depends on what is found under the path. -/
theorem inFiles_congr (hroot : files₁.rootText = files₂.rootText)
    (hstatus : files₁.status (pathIn home space name) = files₂.status (pathIn home space name)) :
    inFiles files₁ home space name = inFiles files₂ home space name := by
  simp only [inFiles, readText, hstatus, hroot]

theorem inFiles_of_none_found (h : (files.status (pathIn home space name)).found? = none) :
    Unread space name (inFiles files home space name) := by
  cases hstatus : files.status (pathIn home space name) with
  | absent | blocked | unencodable | unnameable =>
    refine .inl (inFiles_of_missing ?_)
    rw [hstatus]
    rfl
  | tooLong =>
    have hastray : Astray files (pathIn home space name) _ := .reading (.tooLong hstatus)
    exact .inr ⟨_, hastray.inFiles_eq⟩
  | directory | file =>
    rw [hstatus] at h
    cases h

/-! ## Names that stay inside -/

theorem confined (hroot : files₁.rootText = files₂.rootText) (hname : StaysInside name)
    (hagree : AgreeInside files₁ files₂ (directoryOf home space)) :
    inFiles files₁ home space name = inFiles files₂ home space name ∨
      (∃ part ∈ (pathIn home space name).parts, nameLimit < (FileName.ofText part).length) ∧
        Unread space name (inFiles files₁ home space name) ∧
        Unread space name (inFiles files₂ home space name) := by
  have hfound : (files₁.status (pathIn home space name)).found? =
      (files₂.status (pathIn home space name)).found? := by
    rw [pathIn_eq_below hname.1]
    exact hagree.found?_status_eq hroot hname.2
  by_cases hsame : files₁.status (pathIn home space name) = files₂.status (pathIn home space name)
  · exact .inl (inFiles_congr hroot hsame)
  -- The statuses differ only where nothing is found in either tree.
  have hnone : (files₁.status (pathIn home space name)).found? = none := by
    by_contra hsome
    exact hsame (status_eq_of_found? hfound hsome)
  have hnone' : (files₂.status (pathIn home space name)).found? = none := hfound ▸ hnone
  have hnameable : files₁.Nameable (pathIn home space name) := by
    by_contra hother
    exact hsame (status_of_not_nameable hroot hother)
  by_cases hlong : ∃ part ∈ (pathIn home space name).parts, nameLimit < (FileName.ofText part).length
  · exact .inr ⟨hlong, inFiles_of_none_found hnone, inFiles_of_none_found hnone'⟩
  · have hparts : ∀ part ∈ (pathIn home space name).parts, (FileName.ofText part).length ≤ nameLimit :=
      fun part hmem ↦ Nat.le_of_not_lt fun h ↦ hlong ⟨part, hmem, h⟩
    left
    rw [inFiles_of_missing (isAbsent_of_none_found hnameable hnone hparts),
      inFiles_of_missing (isAbsent_of_none_found (hnameable.congr hroot) hnone' hparts)]

/-! ## Names that climb -/

/-- The name of a secret as it is seen from the directory of another namespace. -/
def fromBeside (other name : String) : String := "../" ++ other ++ "/" ++ name

theorem delivered_congr {space' name' : String} {home' : Path}
    (h : (files₁.status (pathIn home space name)).found? =
      (files₂.status (pathIn home' space' name')).found?) :
    inFiles files₁ home space name = .ok secret ↔ inFiles files₂ home' space' name' = .ok secret := by
  have hfile (files : Files) (p : Path) (content : List UInt8) :
      files.status p = .file content ↔ (files.status p).found? = some (.file content) := by
    cases files.status p <;> simp [FileStatus.found?]
  simp only [inFiles_eq_ok_iff, readDocument_eq_ok_iff, readText_eq_ok_iff, hfile, h]

theorem anchorOf?_fromBeside : anchorOf? (fromBeside other name ++ ".yaml") = none := by
  have hfront : (fromBeside other name ++ ".yaml").toList =
      '.' :: '.' :: '/' :: (other ++ "/" ++ name ++ ".yaml").toList := by
    simp [fromBeside]
  rw [anchorOf?, hfront]
  rfl

theorem partsOf_fromBeside : partsOf (fromBeside other name ++ ".yaml") =
    ".." :: (partsOf other ++ partsOf (name ++ ".yaml")) := by
  have hpieces : fromBeside other name ++ ".yaml" =
      ".." ++ "/" ++ (other ++ "/" ++ (name ++ ".yaml")) := by
    apply String.toList_inj.mp
    simp [fromBeside]
  have hback : partsOf ".." = [".."] := by decide
  rw [hpieces, partsOf_append, partsOf_append, hback, List.singleton_append]

theorem delivered_fromBeside {directory : String} (hspace : partsOf space = [directory])
    (hrelative : anchorOf? space = none) (hplain : directory ≠ "..")
    (hother : anchorOf? other = none) (hname : anchorOf? (name ++ ".yaml") = none)
    (hthere : files.status (directoryOf home space) = .directory)
    (hnameable : files.Nameable (pathIn home space (fromBeside other name))) :
    inFiles files home space (fromBeside other name) = .ok secret ↔
      inFiles files home other name = .ok secret := by
  have hsecrets : home.join "secrets" = home.below ["secrets"] := by
    rw [join_eq_below (by decide)]
    rfl
  have hdirectory : directoryOf home space = (home.below ["secrets"]).below [directory] := by
    rw [directoryOf, hsecrets, join_eq_below hrelative, hspace]
  have hclimbing : pathIn home space (fromBeside other name) =
      ((home.below ["secrets"]).below [directory]).below
        (".." :: (partsOf other ++ partsOf (name ++ ".yaml"))) := by
    rw [pathIn_eq_below anchorOf?_fromBeside, hdirectory, partsOf_fromBeside]
  have hbeside : pathIn home other name =
      (home.below ["secrets"]).below (partsOf other ++ partsOf (name ++ ".yaml")) := by
    rw [pathIn_eq_below hname, directoryOf, hsecrets, join_eq_below hother]
    simp only [below, List.append_assoc]
  have hparts : (pathIn home space (fromBeside other name)).parts =
      (home.below ["secrets"]).parts ++
        directory :: ".." :: (partsOf other ++ partsOf (name ++ ".yaml")) := by
    rw [hclimbing]
    simp [below]
  apply delivered_congr
  rw [found?_status_back hparts hplain hnameable, hbeside, hclimbing]
  · rfl
  · rw [hclimbing, ← hthere, hdirectory]
    rfl

/-- Whether a namespace is one directory among those of the others. -/
def IsDirectoryName (space : String) : Prop :=
  anchorOf? space = none ∧ ∃ directory, partsOf space = [directory] ∧ directory ≠ ".."

/-- Files with a secret in a namespace, and some others. -/
def withOthers (others : List (List String × FileEntry)) : Files :=
  .ofTexts "/home" ((["secrets", "default", "own.yaml"], .file []) :: others)

/-- A file with a secret of three bytes. -/
def greeting : List UInt8 :=
  Text.Utf8.encode (String.ofList (layout (Text.Base64.encode [0x68, 0x69, 0x21])))

theorem delivered_greeting (h : files.status (pathIn home space name) = .file greeting) :
    inFiles files home space name = .ok [("value", .bytes [0x68, 0x69, 0x21])] := by
  have htag : Yaml.resolve (String.ofList (Text.Base64.encode [0x68, 0x69, 0x21])) = .text := by
    decide +kernel
  have hfile : files.readText (pathIn home space name) =
      .ok (layout (Text.Base64.encode [0x68, 0x69, 0x21])) := by
    rw [readText, h]
    exact decode_layout isWordChar_encode
  have hread : Yaml.read (layout (Text.Base64.encode [0x68, 0x69, 0x21])) =
      .ok (layoutDocument (.text (String.ofList (Text.Base64.encode [0x68, 0x69, 0x21])))) := by
    rw [read_layout isWordChar_encode (by rw [htag]; rfl), htag]
    rfl
  exact inFiles_eq hfile hread (holds_layout _)

/-- Files with a secret in another namespace too. -/
def withBeside (content : List UInt8) : Files :=
  withOthers [(["secrets", "other", "boot.yaml"], .file content)]

theorem status_withBeside (content : List UInt8) :
    (withBeside content).status (directoryOf .root "default") = .directory ∧
      (withBeside content).status (pathIn .root "other" "boot") = .file content ∧
      (withBeside content).status (pathIn .root "default" "../other/boot") = .file content := by
  have hsmall (p : Path) (h : (Files.ofTexts "/home" []).Nameable p) (htree : p.anchor = .tree) :
      (withBeside content).status p = (withBeside content).follow [] p.parts :=
    status_ofTexts h htree
  refine ⟨?_, ?_, ?_⟩
  · rw [hsmall _ (by decide) rfl]
    rfl
  · rw [hsmall _ (by decide) rfl]
    rfl
  · rw [hsmall _ (by decide) rfl]
    rfl

theorem agreeInside_withOthers (content : List UInt8) :
    AgreeInside (withBeside content) (withOthers []) (directoryOf .root "default") := by
  have hdirectory : directoryOf .root "default" = ⟨.tree, ["secrets", "default"]⟩ := by decide
  rw [hdirectory]
  apply agreeInside_of_entries
  · rfl
  · decide
  · rfl

end VpcMachines.Secret
