import VpcMachines.Proofs.Text.Split
import VpcMachines.Proofs.Yaml.Numerals
import VpcMachines.Proofs.Yaml.Words
import VpcMachines.Yaml.Resolution

/-!
# Words read and restated

A word without a tag is a boolean, an integer, null or a text (`resolve_word`). Where a text is asked
for, the value that was read is restated. A word stays as it is exactly if it is a text, one of the two
booleans in the spelling in which they are written, or a numeral (`restated_eq_iff`).
-/

namespace VpcMachines.Yaml

variable {w s : List Char} {words : List String}

theorem forall_isIn {P : List Char → Prop} (h : ∀ word ∈ words, P word.toList)
    (hw : isIn words w = true) : P w := by
  have hword := h _ (List.contains_iff_mem.mp hw)
  rwa [String.toList_ofList] at hword

/-! ## The tag of a word -/

theorem not_mem_word {c : Char} (hw : ∀ c ∈ w, isWordChar c = true) (hc : isWordChar c = false) :
    c ∉ w := by
  intro hmem
  rw [hw c hmem] at hc
  cases hc

/-- A text is not among words that all have a character of a kind it lacks. -/
theorem isIn_eq_false {p : Char → Bool} (hs : s.any p = false)
    (hwords : ∀ word ∈ words, word.toList.any p = true) : isIn words s = false := by
  refine Bool.eq_false_iff.mpr fun h ↦ ?_
  have hany : s.any p = true := forall_isIn (P := fun w ↦ w.any p = true) hwords h
  rw [hs] at hany
  cases hany

theorem unsign_subset (s : List Char) : unsign s ⊆ s := by
  unfold unsign
  split
  · exact List.subset_cons_self ..
  · exact List.subset_cons_self ..
  · exact List.Subset.refl _

/-- A number has a point. -/
theorem isNumber_eq_false (h : '.' ∉ s) : isNumber s = false := by
  have hpoint {s : List Char} (h : '.' ∉ s) : s.any (· == '.') = false :=
    List.any_eq_false.mpr fun c hc heq ↦ h (beq_iff_eq.mp heq ▸ hc)
  have hmagnitude : '.' ∉ unsign s := fun hmem ↦ h (unsign_subset s hmem)
  have hcut : Text.cutAt '.' (unsign s) = (unsign s, none) := by
    have hcut : Text.cutAt '.' (unsign s ++ []) = (unsign s ++ [], none) :=
      Text.cutAt_append hmagnitude
    rwa [List.append_nil] at hcut
  have hinfinite : isIn [".inf", ".Inf", ".INF"] (unsign s) = false :=
    isIn_eq_false (hpoint hmagnitude) (by decide)
  have hnone : isIn [".nan", ".NaN", ".NAN"] s = false := isIn_eq_false (hpoint h) (by decide)
  simp [isNumber, hinfinite, hnone, hcut]

theorem after_eq_none {mark : Char} (h : mark ∉ s) : after mark s = none := by
  cases s with
  | nil => rfl
  | cons c s =>
    rw [List.mem_cons, not_or] at h
    exact if_neg (Ne.symm h.1)

/-- A timestamp has a dash. -/
theorem isTimestamp_eq_false (h : '-' ∉ s) : isTimestamp s = false := by
  have hread : Timestamp.read s = none := by
    have hafter (size : Nat) : after '-' (s.drop size) = none :=
      after_eq_none fun hmem ↦ h (List.mem_of_mem_drop hmem)
    simp only [Timestamp.read, hafter]
    cases digitsAt 4 4 s <;> rfl
  rw [isTimestamp, hread]
  rfl

/-- A word is a boolean, an integer, null or a text. -/
theorem resolve_word (hw : ∀ c ∈ w, isWordChar c = true) (hmark : w ≠ ['=']) :
    resolve (String.ofList w) =
      if isBoolWord w then .bool
      else if isInteger w then .int
      else if isNullWord w then .null
      else .text := by
  have hbreak : w ≠ ['\n'] := fun h ↦ not_mem_word hw rfl (h ▸ List.mem_cons_self ..)
  have hend : withoutFinalBreak w = w := by
    rw [withoutFinalBreak, if_neg]
    exact fun h ↦ not_mem_word hw rfl (List.mem_of_getLast? h)
  have hmerge : w ≠ ['<', '<'] := fun h ↦ not_mem_word hw rfl (h ▸ List.mem_cons_self ..)
  have hother : isIn ["!", "&", "*"] w = false := by
    have hs : w.any (fun c ↦ !isWordChar c) = false := by simpa using hw
    exact isIn_eq_false hs (by decide)
  have hnumber : isNumber w = false := isNumber_eq_false (not_mem_word hw rfl)
  have htimestamp : isTimestamp w = false := isTimestamp_eq_false (not_mem_word hw rfl)
  simp only [resolve, String.toList_ofList, hbreak, if_false, hend, hnumber, htimestamp, hmerge,
    hmark, hother]
  rfl

theorem isScalar_resolve_word (hw : ∀ c ∈ w, isWordChar c = true) (hmark : w ≠ ['=']) :
    (resolve (String.ofList w)).isScalar = true := by
  rw [resolve_word hw hmark]
  split
  · rfl
  split
  · rfl
  split <;> rfl

/-! ## What is restated -/

/-- The text that a scalar without a tag turns into where a text is asked for. -/
def restated (w : String) : Except Fault String :=
  (Atom.ofText (resolve w) w).bind Atom.plainForm

theorem booleanOf_eq_ok (h : isBoolWord w = true) : ∃ b, booleanOf (String.ofList w) = .ok b := by
  have hok : (booleanOf (String.ofList w)).isOk = true :=
    forall_isIn (P := fun w ↦ (booleanOf (String.ofList w)).isOk = true) (by decide +kernel) h
  cases hb : booleanOf (String.ofList w) with
  | ok b => exact ⟨b, rfl⟩
  | error fault =>
    rw [hb] at hok
    cases hok

/-- A boolean is restated as one of two words. -/
theorem boolean_restated_iff (h : isBoolWord w = true) :
    (Atom.ofText .bool (String.ofList w)).bind Atom.plainForm = .ok (String.ofList w) ↔
      w = "True".toList ∨ w = "False".toList := by
  constructor
  · intro hsame
    obtain ⟨b, hb⟩ := booleanOf_eq_ok h
    rw [Atom.ofText, hb] at hsame
    cases b with
    | true => exact .inl (String.ofList_injective (Except.ok.inj hsame)).symm
    | false => exact .inr (String.ofList_injective (Except.ok.inj hsame)).symm
  · rintro (rfl | rfl)
    · rfl
    · rfl

theorem map_int_plainForm (n : Except Fault Int) :
    (n.map Atom.int).bind Atom.plainForm = n.bind Atom.integerForm := by
  cases n <;> rfl

/-- A word stays as it is if it is not null, and no boolean or integer in another spelling. -/
theorem restated_eq_iff (hw : ∀ c ∈ w, isWordChar c = true) (hmark : w ≠ ['=']) (hzero : w ≠ ['0']) :
    restated (String.ofList w) = .ok (String.ofList w) ↔
      isNullWord w = false ∧ (isBoolWord w = true → w = "True".toList ∨ w = "False".toList) ∧
        (isInteger w = true → IsNumeral w ∧ w.length ≤ Atom.digitLimit) := by
  rw [restated, resolve_word hw hmark]
  cases hbool : isBoolWord w with
  | true =>
    have hother : isNullWord w = false ∧ isInteger w = false :=
      forall_isIn (P := fun w ↦ isNullWord w = false ∧ isInteger w = false) (by decide +kernel)
        hbool
    simp [boolean_restated_iff hbool, hother]
  | false =>
    cases hnull : isNullWord w with
    | true =>
      have hinteger : isInteger w = false :=
        forall_isIn (P := fun w ↦ isInteger w = false) (by decide +kernel) hnull
      have hnone : w ≠ "None".toList :=
        forall_isIn (P := fun w ↦ w ≠ "None".toList) (by decide +kernel) hnull
      have hform :
          (Atom.ofText .null (String.ofList w)).bind Atom.plainForm ≠ .ok (String.ofList w) :=
        fun hsame ↦ hnone (String.ofList_injective (Except.ok.inj hsame)).symm
      simpa [hinteger] using hform
    | false =>
      cases hinteger : isInteger w with
      | true =>
        simp [Atom.ofText, map_int_plainForm, integer_restated_iff (not_mem_word hw rfl) hzero]
      | false => simp [Atom.ofText, Atom.plainForm, Except.bind]

/-- A word is restated as itself, or as a text without the mark that pads encoded bytes. -/
theorem eq_or_not_mem_of_restated {text : String} (hw : ∀ c ∈ w, isWordChar c = true)
    (hmark : w ≠ ['=']) (h : restated (String.ofList w) = .ok text) :
    text = String.ofList w ∨ '=' ∉ text.toList := by
  rw [restated, resolve_word hw hmark] at h
  split at h
  · next hbool =>
    obtain ⟨b, hb⟩ := booleanOf_eq_ok hbool
    rw [Atom.ofText, hb] at h
    cases b with
    | true =>
      cases h
      exact .inr (by decide)
    | false =>
      cases h
      exact .inr (by decide)
  split at h
  · rw [Atom.ofText, map_int_plainForm] at h
    cases hn : integerOf (String.ofList w) with
    | error fault =>
      rw [hn] at h
      cases h
    | ok n =>
      rw [hn, Except.bind] at h
      exact .inr (not_mem_of_integerForm (by decide) (by decide) h)
  split at h
  · cases h
    exact .inr (by decide)
  · cases h
    exact .inl rfl

end VpcMachines.Yaml
