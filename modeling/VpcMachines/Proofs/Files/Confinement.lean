import VpcMachines.Files
import VpcMachines.Proofs.Text.Split

/-!
# Paths that stay inside a directory

Two trees agree inside a directory if the same is found under every path that goes down from it. A path
that goes down and up again, and never above the directory, finds the same in both then
(`found?_status_eq`): a part and two points behind it only ask whether the part is a directory
(`found?_follow_back`).
-/

namespace VpcMachines

/-- What is found under a path, if anything. -/
def FileStatus.found? : FileStatus → Option FileEntry
  | .directory => some .directory
  | .file content => some (.file content)
  | _ => none

theorem FileStatus.found?_eq_directory_iff {status : FileStatus} :
    status.found? = some .directory ↔ status = .directory := by
  cases status <;> simp [found?]

namespace Path

theorem partsOf_append (first second : String) :
    partsOf (first ++ "/" ++ second) = partsOf first ++ partsOf second := by
  have hslash : "/".toList = ['/'] := rfl
  simp only [partsOf, String.toList_append, hslash, List.append_assoc, List.singleton_append,
    Text.splitAt_append, List.map_append, List.filter_append]

/-- A path below a path. -/
def below (p : Path) (parts : List String) : Path := { p with parts := p.parts ++ parts }

theorem join_eq_below {p : Path} {segment : String} (h : anchorOf? segment = none) :
    p.join segment = p.below (partsOf segment) := by
  rw [join, h]
  rfl

/-- Whether parts never lead above the directory that lies so many steps up. -/
def Stays (depth : Nat) : List String → Prop
  | [] => True
  | part :: rest => if part = ".." then 0 < depth ∧ Stays (depth - 1) rest else Stays (depth + 1) rest

instance decidableStays : (depth : Nat) → (parts : List String) → Decidable (Stays depth parts)
  | _, [] => isTrue trivial
  | depth, part :: rest =>
    have := decidableStays (depth - 1) rest
    have := decidableStays (depth + 1) rest
    inferInstanceAs <| Decidable <|
      if part = ".." then 0 < depth ∧ Stays (depth - 1) rest else Stays (depth + 1) rest

end Path

namespace Files

open VpcMachines.Path

variable {files files₁ files₂ : Files} {p directory : Path} {place : List FileName}
  {parts xs ys rest : List String} {k part : String}

/-! ## Following a path -/

/-- What is found is found step by step: from a directory one goes down, up, or out of the tree. -/
theorem found?_follow_cons :
    (files.follow place (part :: rest)).found? =
      if files.isDirectory place = true ∧ (FileName.ofText part).length ≤ nameLimit then
        if part = ".." then
          if place = [] then (statusOutside rest).found? else (files.follow place.dropLast rest).found?
        else (files.follow (place ++ [FileName.ofText part]) rest).found?
      else none := by
  rw [follow]
  cases hdirectory : files.isDirectory place with
  | false =>
    simp only [Bool.not_false, if_true, Bool.false_eq_true, false_and, if_false]
    split <;> rfl
  | true =>
    by_cases hsize : nameLimit < (FileName.ofText part).length
    · have hlong : ¬(FileName.ofText part).length ≤ nameLimit := Nat.not_le_of_lt hsize
      simp [hsize, hlong, FileStatus.found?]
    · have hfits : (FileName.ofText part).length ≤ nameLimit := Nat.le_of_not_lt hsize
      simp only [Bool.not_true, Bool.false_eq_true, if_false, hsize, hfits, and_self, if_true,
        List.isEmpty_iff]
      split
      · split <;> rfl
      · rfl

theorem found?_follow_nil_iff :
    (files.follow place []).found? = some .directory ↔ files.isDirectory place = true := by
  rw [follow, FileStatus.found?_eq_directory_iff, statusAt]
  split
  · simp [*]
  · split <;> simp [*]

/-- Nothing is found outside the tree under a name. -/
theorem found?_statusOutside (hmem : part ∈ parts) (hpart : part ≠ "..") :
    (statusOutside parts).found? = none := by
  have hall : parts.all (· == "..") = false := by
    rw [List.all_eq_false]
    exact ⟨part, hmem, by simpa using hpart⟩
  rw [statusOutside, hall]
  rfl

/-- Going down and up again finds what is found without, if the way down leads to a directory. -/
theorem found?_follow_back (hk : k ≠ "..") :
    (files.follow place (xs ++ k :: ".." :: rest)).found? =
      if (files.follow place (xs ++ [k])).found? = some .directory then
        (files.follow place (xs ++ rest)).found?
      else none := by
  induction xs generalizing place with
  | nil =>
    have hup : (FileName.ofText "..").length ≤ nameLimit := by decide
    have hplace : place ++ [FileName.ofText k] ≠ [] := by simp
    simp only [List.nil_append, found?_follow_cons, hk, if_false, hup, and_true, if_true, hplace,
      List.dropLast_concat]
    split
    · simp only [found?_follow_nil_iff]
    · rfl
  | cons x xs ih =>
    have hk₁ : k ∈ xs ++ k :: ".." :: rest := by simp
    have hk₂ : k ∈ xs ++ [k] := by simp
    simp only [List.cons_append, found?_follow_cons, found?_statusOutside hk₁ hk,
      found?_statusOutside hk₂ hk, ih]
    split
    · split
      · split
        · simp
        · rfl
      · rfl
    · simp

/-- Only a part that is too long makes a way too long. -/
theorem exists_long_of_follow (h : files.follow place parts = .tooLong) :
    ∃ part ∈ parts, nameLimit < (FileName.ofText part).length := by
  induction parts generalizing place with
  | nil =>
    rw [follow, statusAt] at h
    split at h
    · cases h
    · split at h <;> cases h
  | cons part rest ih =>
    rw [follow] at h
    split at h
    · split at h <;> cases h
    split at h
    · exact ⟨part, List.mem_cons_self, ‹_›⟩
    split at h
    · split at h
      · unfold statusOutside at h
        split at h <;> cases h
      · obtain ⟨long, hmem, hlong⟩ := ih h
        exact ⟨long, List.mem_cons_of_mem part hmem, hlong⟩
    · obtain ⟨long, hmem, hlong⟩ := ih h
      exact ⟨long, List.mem_cons_of_mem part hmem, hlong⟩

/-! ## The parts of a path -/

/-- Whether a path is looked for in the tree: it has bytes, none of them zero, and is not too long. -/
structure Nameable (files : Files) (p : Path) : Prop where
  text : ∀ part ∈ p.parts, FileName.isText part = true
  whole : ∀ part ∈ p.parts, '\x00' ∉ part.toList
  fits : files.anchorSize p.anchor + partsSize p.parts ≤ pathLimit

theorem nameable_iff :
    files.Nameable p ↔
      (∀ part ∈ p.parts, FileName.isText part = true) ∧ (∀ part ∈ p.parts, '\x00' ∉ part.toList) ∧
        files.anchorSize p.anchor + partsSize p.parts ≤ pathLimit :=
  ⟨fun h ↦ ⟨h.text, h.whole, h.fits⟩, fun h ↦ ⟨h.1, h.2.1, h.2.2⟩⟩

instance : Decidable (files.Nameable p) := decidable_of_iff _ nameable_iff.symm

theorem partsSize_le (h : xs.Sublist ys) : partsSize xs ≤ partsSize ys := by
  induction h with
  | slnil => exact Nat.le_refl _
  | cons part _ ih =>
    simp only [partsSize, List.foldr_cons] at ih ⊢
    omega
  | cons_cons part _ ih =>
    simp only [partsSize, List.foldr_cons] at ih ⊢
    omega

theorem Nameable.sublist (h : files.Nameable p) (hsub : xs.Sublist p.parts) :
    files.Nameable { p with parts := xs } :=
  ⟨fun part hmem ↦ h.text part (hsub.subset hmem), fun part hmem ↦ h.whole part (hsub.subset hmem),
    Nat.le_trans (Nat.add_le_add_left (partsSize_le hsub) _) h.fits⟩

/-- Of the tree, the text of its root counts only. -/
theorem Nameable.congr (hroot : files₁.rootText = files₂.rootText) (h : files₁.Nameable p) :
    files₂.Nameable p := by
  have hsize : files₁.anchorSize p.anchor = files₂.anchorSize p.anchor := by
    cases p.anchor <;> simp only [anchorSize, hroot]
  exact ⟨h.text, h.whole, hsize ▸ h.fits⟩

theorem status_of_nameable (h : files.Nameable p) :
    files.status p = if p.anchor = .tree then files.follow [] p.parts else statusOutside p.parts := by
  have htext : p.parts.all FileName.isText = true := List.all_eq_true.mpr h.text
  have hnull : (p.parts.any fun part ↦ part.toList.contains '\x00') = false := by
    simpa [List.any_eq_false] using h.whole
  have hfits : ¬pathLimit < files.anchorSize p.anchor + partsSize p.parts := Nat.not_lt_of_le h.fits
  unfold status
  simp only [htext, hnull, hfits, Bool.not_true, Bool.false_eq_true, if_false]

/-- A tree is looked through for what could be looked for if it were empty. -/
theorem status_ofTexts {rootText : String} {entries : List (List String × FileEntry)}
    (h : (ofTexts rootText []).Nameable p) (htree : p.anchor = .tree) :
    (ofTexts rootText entries).status p = (ofTexts rootText entries).follow [] p.parts := by
  have hroot : (ofTexts rootText []).rootText = (ofTexts rootText entries).rootText := rfl
  have hname : (ofTexts rootText entries).Nameable p := h.congr hroot
  rw [status_of_nameable hname, if_pos htree]

/-- Other paths are the same in all trees with the same root. -/
theorem status_of_not_nameable (hroot : files₁.rootText = files₂.rootText) (h : ¬files₁.Nameable p) :
    files₁.status p = files₂.status p := by
  have hsize : files₂.anchorSize p.anchor = files₁.anchorSize p.anchor := by
    cases p.anchor <;> simp only [anchorSize, hroot]
  unfold status
  rw [hsize]
  split
  · rfl
  split
  · rfl
  split
  · rfl
  · next htext hnull hsize =>
    refine absurd ⟨?_, ?_, Nat.le_of_not_lt hsize⟩ h
    · simpa using htext
    · simpa using hnull

/-! ## Trees that agree -/

/-- Two trees have the same under a directory, the directory itself included. -/
def AgreeInside (files₁ files₂ : Files) (directory : Path) : Prop :=
  ∀ parts, ".." ∉ parts →
    (files₁.status (directory.below parts)).found? = (files₂.status (directory.below parts)).found?

/-- From a place that lies some plain parts below the directory, what never leads above the directory
finds the same in trees that agree on the plain paths below it. -/
theorem found?_follow_eq
    (hagree : ∀ parts, ".." ∉ parts → files₁.Nameable (directory.below parts) →
      (files₁.follow [] (directory.parts ++ parts)).found? =
        (files₂.follow [] (directory.parts ++ parts)).found?)
    (hplain : ".." ∉ xs) (hstays : Stays xs.length ys)
    (hname : files₁.Nameable (directory.below (xs ++ ys))) :
    (files₁.follow [] (directory.parts ++ (xs ++ ys))).found? =
      (files₂.follow [] (directory.parts ++ (xs ++ ys))).found? := by
  -- The parts that are left shrink; two points take the last of the plain parts back.
  induction ys generalizing xs with
  | nil =>
    rw [List.append_nil] at hname ⊢
    exact hagree xs hplain hname
  | cons part rest ih =>
    by_cases hpart : part = ".."
    · subst hpart
      rw [Stays, if_pos rfl] at hstays
      have hne : xs ≠ [] := List.ne_nil_of_length_pos hstays.1
      obtain ⟨front, k, rfl⟩ : ∃ front k, xs = front ++ [k] :=
        ⟨xs.dropLast, xs.getLast hne, (List.dropLast_concat_getLast hne).symm⟩
      have hfront : ".." ∉ front := fun hmem ↦ hplain (List.mem_append_left [k] hmem)
      have hk : k ≠ ".." := fun h ↦ hplain (by simp [h])
      have hdepth : Stays front.length rest := by simpa using hstays.2
      have hdown : files₁.Nameable (directory.below (front ++ [k])) :=
        hname.sublist ((List.sublist_append_left _ _).append_left directory.parts)
      have hback : files₁.Nameable (directory.below (front ++ rest)) := by
        have hrest : rest.Sublist ([k] ++ ".." :: rest) := List.sublist_append_right [k, ".."] rest
        apply hname.sublist
        rw [below, List.append_assoc front]
        exact (hrest.append_left front).append_left directory.parts
      have hsplit : directory.parts ++ (front ++ [k] ++ ".." :: rest) =
          directory.parts ++ front ++ k :: ".." :: rest := by
        simp
      rw [hsplit, found?_follow_back hk, found?_follow_back hk, List.append_assoc directory.parts front [k],
        List.append_assoc directory.parts front rest, hagree _ hplain hdown, ih hfront hdepth hback]
    · have hnext : xs ++ part :: rest = xs ++ [part] ++ rest := by simp
      rw [Stays, if_neg hpart] at hstays
      rw [hnext] at hname ⊢
      apply ih
      · simpa [Ne.symm hpart] using hplain
      · simpa using hstays
      · exact hname

/-- What is found under a path that never leads above a directory depends on what is inside it only. -/
theorem AgreeInside.found?_status_eq (h : AgreeInside files₁ files₂ directory)
    (hroot : files₁.rootText = files₂.rootText) (hstays : Stays 0 parts) :
    (files₁.status (directory.below parts)).found? =
      (files₂.status (directory.below parts)).found? := by
  by_cases hname : files₁.Nameable (directory.below parts)
  · rw [status_of_nameable hname, status_of_nameable (hname.congr hroot)]
    split
    · next htree =>
      have hstart : ".." ∉ ([] : List String) := List.not_mem_nil
      refine found?_follow_eq ?_ hstart hstays hname
      intro plain hplain hbelow
      have hanchor : (directory.below plain).anchor = .tree := htree
      have hsame := h plain hplain
      rwa [status_of_nameable hbelow, status_of_nameable (hbelow.congr hroot), if_pos hanchor,
        if_pos hanchor] at hsame
    · rfl
  · rw [status_of_not_nameable hroot hname]

theorem status_eq_of_found? (h : (files₁.status p).found? = (files₂.status p).found?)
    (hfound : (files₁.status p).found? ≠ none) : files₁.status p = files₂.status p := by
  cases hfirst : files₁.status p <;> cases hsecond : files₂.status p <;>
    simp_all [FileStatus.found?]

/-- Where nothing is found there is nothing, unless a part of the path is too long. -/
theorem isAbsent_of_none_found (hname : files.Nameable p) (h : (files.status p).found? = none)
    (hparts : ∀ part ∈ p.parts, (FileName.ofText part).length ≤ nameLimit) :
    (files.status p).isAbsent = true := by
  have hlong : files.status p ≠ .tooLong := by
    rw [status_of_nameable hname]
    intro h
    split at h
    · obtain ⟨part, hmem, hlong⟩ := exists_long_of_follow h
      exact absurd (hparts part hmem) (Nat.not_le_of_lt hlong)
    · unfold statusOutside at h
      split at h <;> cases h
  cases hstatus : files.status p with
  | absent | blocked | unencodable | unnameable => rfl
  | tooLong => exact absurd hstatus hlong
  | directory | file =>
    rw [hstatus] at h
    cases h

/-- Two points behind a plain part undo it, if the part leads to a directory. -/
theorem found?_status_back {front : List String} (hparts : p.parts = front ++ k :: ".." :: rest)
    (hk : k ≠ "..") (hname : files.Nameable p)
    (hdirectory : files.status { p with parts := front ++ [k] } = .directory) :
    (files.status p).found? = (files.status { p with parts := front ++ rest }).found? := by
  have hdown : files.Nameable { p with parts := front ++ [k] } := by
    apply hname.sublist
    rw [hparts]
    exact (List.sublist_append_left [k] (".." :: rest)).append_left front
  have hback : files.Nameable { p with parts := front ++ rest } := by
    apply hname.sublist
    rw [hparts]
    exact (List.sublist_append_right [k, ".."] rest).append_left front
  rw [status_of_nameable hdown] at hdirectory
  rw [status_of_nameable hname, status_of_nameable hback, hparts]
  by_cases htree : p.anchor = .tree
  · simp only [htree, if_true] at hdirectory ⊢
    rw [found?_follow_back hk, hdirectory]
    rfl
  · simp only [htree, if_false] at hdirectory
    have hmem : k ∈ front ++ [k] := List.mem_append_right front List.mem_cons_self
    have hnone := found?_statusOutside hmem hk
    rw [hdirectory] at hnone
    cases hnone

/-! ## Trees with the same entries -/

/-- The entries of a tree in a directory. -/
def entriesBelow (files : Files) (place : List FileName) : List (List FileName × FileEntry) :=
  files.entries.filter fun entry ↦ place.isPrefixOf entry.1

theorem isDirectory_of_mem {entry : List FileName × FileEntry} {name : FileName} {names : List FileName}
    (hmem : entry ∈ files.entries) (hbelow : (place ++ name :: names) <+: entry.1) :
    files.isDirectory place = true := by
  have hlength : place.length < entry.1.length := by
    have h := hbelow.length_le
    rw [List.length_append, List.length_cons] at h
    omega
  have hleads : place.isPrefixOf entry.1 = true :=
    List.isPrefixOf_iff_prefix.mpr ((List.prefix_append place _).trans hbelow)
  have hne : entry.1 ≠ place := fun h ↦ absurd (congrArg List.length h) (Nat.ne_of_gt hlength)
  rw [isDirectory, Bool.or_eq_true, List.any_eq_true]
  exact .inr ⟨entry, hmem, by simp [hleads, hne]⟩

/-- Whatever is found lies in directories. -/
theorem isDirectory_of_found {name : FileName} {names : List FileName}
    (h : (files.statusAt (place ++ name :: names)).found? ≠ none) :
    files.isDirectory place = true := by
  unfold statusAt at h
  split at h
  · next hdirectory =>
    have hne : (place ++ name :: names).isEmpty = false := by simp
    rw [isDirectory, hne, Bool.false_or, List.any_eq_true] at hdirectory
    obtain ⟨entry, hmem, hentry⟩ := hdirectory
    have hbelow : (place ++ name :: names) <+: entry.1 := by
      simp only [Bool.or_eq_true, Bool.and_eq_true, beq_iff_eq, List.isPrefixOf_iff_prefix] at hentry
      rcases hentry with ⟨heq, _⟩ | ⟨hleads, _⟩
      · exact heq ▸ List.prefix_rfl
      · exact hleads
    exact isDirectory_of_mem hmem hbelow
  · split at h
    · next path content hfind =>
      have heq : path = place ++ name :: names := by simpa using List.find?_some hfind
      subst heq
      exact isDirectory_of_mem (List.mem_of_find?_eq_some hfind) List.prefix_rfl
    · exact absurd rfl h

theorem found?_follow_plain (hplain : ".." ∉ parts) :
    (files.follow place parts).found? =
      if ∀ part ∈ parts, (FileName.ofText part).length ≤ nameLimit then
        (files.statusAt (place ++ parts.map FileName.ofText)).found?
      else none := by
  induction parts generalizing place with
  | nil => simp [follow]
  | cons part rest ih =>
    rw [List.mem_cons, not_or] at hplain
    rw [found?_follow_cons, if_neg (Ne.symm hplain.1), ih hplain.2, List.append_assoc,
      List.singleton_append, List.map_cons]
    by_cases hfound :
        (files.statusAt (place ++ FileName.ofText part :: rest.map FileName.ofText)).found? = none
    · simp [hfound]
    · simp only [isDirectory_of_found hfound, true_and, List.forall_mem_cons]
      split
      · simp [*]
      · simp [*]

theorem statusAt_congr (h : files₁.entriesBelow place = files₂.entriesBelow place)
    (names : List FileName) :
    files₁.statusAt (place ++ names) = files₂.statusAt (place ++ names) := by
  -- Both questions that are asked of the entries are about those in the directory only.
  have hbelow {test : List FileName × FileEntry → Bool}
      (htest : ∀ entry, test entry = true → place <+: entry.1) :
      (fun entry ↦ place.isPrefixOf entry.1 && test entry) = test := by
    funext entry
    cases hentry : test entry with
    | false => rw [Bool.and_false]
    | true => rw [List.isPrefixOf_iff_prefix.mpr (htest entry hentry), Bool.and_true]
  have hany (files : Files) : files.isDirectory (place ++ names) =
      ((place ++ names).isEmpty || (files.entriesBelow place).any fun entry ↦
        (entry.1 == place ++ names && entry.2 == .directory) ||
          ((place ++ names).isPrefixOf entry.1 && entry.1 != place ++ names)) := by
    rw [isDirectory, entriesBelow, List.any_filter, hbelow]
    intro entry hentry
    simp only [Bool.or_eq_true, Bool.and_eq_true, beq_iff_eq, List.isPrefixOf_iff_prefix] at hentry
    rcases hentry with ⟨heq, _⟩ | ⟨hleads, _⟩
    · exact heq ▸ List.prefix_append place names
    · exact (List.prefix_append place names).trans hleads
  have hfind (files : Files) :
      (files.entries.find? fun entry ↦ entry.1 == place ++ names) =
        (files.entriesBelow place).find? fun entry ↦ entry.1 == place ++ names := by
    rw [entriesBelow, List.find?_filter]
    simp only [Bool.decide_and, Bool.decide_eq_true]
    rw [hbelow]
    intro entry hentry
    exact (beq_iff_eq.mp hentry) ▸ List.prefix_append place names
  simp only [statusAt, hany, hfind, h]

/-- Trees whose entries in a directory are the same agree inside it. -/
theorem agreeInside_of_entries (hroot : files₁.rootText = files₂.rootText) (hplain : ".." ∉ parts)
    (h : files₁.entriesBelow (parts.map FileName.ofText) =
      files₂.entriesBelow (parts.map FileName.ofText)) :
    AgreeInside files₁ files₂ ⟨.tree, parts⟩ := by
  intro rest hrest
  by_cases hname : files₁.Nameable ((Path.mk .tree parts).below rest)
  · have hboth : ".." ∉ parts ++ rest := fun hmem ↦ (List.mem_append.mp hmem).elim hplain hrest
    have hfollow {files : Files} (hname : files.Nameable ((Path.mk .tree parts).below rest)) :
        files.status ((Path.mk .tree parts).below rest) = files.follow [] (parts ++ rest) := by
      rw [status_of_nameable hname]
      rfl
    rw [hfollow hname, hfollow (hname.congr hroot), found?_follow_plain hboth, found?_follow_plain hboth,
      List.nil_append, List.map_append, statusAt_congr h]
  · rw [status_of_not_nameable hroot hname]

end Files

end VpcMachines
