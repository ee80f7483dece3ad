import VpcMachines.Text.Halves

/-!
# Texts and the strings that keep them

Strings and texts correspond one to one: what is kept is read as it was (`letters_ofLetters`), and every
string keeps the text that is read from it (`ofLetters_letters`). Both are shown behind a run of marks,
which reading and writing count before they know what stands behind it.
-/

namespace VpcMachines.Text

variable {c : Char} {h : Half}

/-! ## The characters of halves -/

theorem Half.toNat_char (h : Half) : h.char.toNat = 0xE000 + h := by
  have hvalid : (0xE000 + h.val).isValidChar := by
    right
    omega
  rw [Half.char, Char.ofNat, dif_pos hvalid]
  rfl

@[simp]
theorem Half.ofChar?_char (h : Half) : ofChar? h.char = some h := by
  have hblock : 0xE000 ≤ h.char.toNat ∧ h.char.toNat < 0xE800 := by
    rw [toNat_char]
    omega
  rw [ofChar?, dif_pos hblock, Option.some.injEq, Fin.ext_iff]
  exact (congrArg (· - 0xE000) h.toNat_char).trans (Nat.add_sub_cancel_left _ _)

theorem Half.char_of_ofChar? (hc : ofChar? c = some h) : h.char = c := by
  unfold ofChar? at hc
  split at hc
  · next hblock =>
    obtain rfl := Option.some.inj hc
    apply Char.toNat_inj.mp
    rw [toNat_char]
    exact Nat.add_sub_cancel' hblock.1
  · cases hc

@[simp]
theorem Half.char_ne_mark (h : Half) : h.char ≠ mark := by
  intro heq
  have hmark : ofChar? mark = none := by decide
  rw [← heq, ofChar?_char] at hmark
  cases hmark

/-! ## Reading what is written -/

theorem lettersFrom_replicate (marks more : Nat) (s : List Char) :
    lettersFrom marks (List.replicate more Half.mark ++ s) = lettersFrom (marks + more) s := by
  induction more generalizing marks with
  | zero => rfl
  | succ more ih =>
    rw [List.replicate_succ, List.cons_append, lettersFrom, if_pos rfl, ih, Nat.add_right_comm,
      Nat.add_assoc]

theorem lettersFrom_ofLettersFrom (marks : Nat) (l : List Letter) :
    lettersFrom 0 (ofLettersFrom marks l) = List.replicate marks (.char Half.mark) ++ l := by
  induction l generalizing marks with
  | nil =>
    have hmarks := lettersFrom_replicate 0 marks []
    rw [List.append_nil, Nat.zero_add] at hmarks
    rw [ofLettersFrom, hmarks, lettersFrom, List.append_nil]
  | cons letter rest ih =>
    have hrest : lettersFrom 0 (ofLettersFrom 0 rest) = rest := ih 0
    cases letter with
    | half h =>
      have hodd : (2 * marks + 1) / 2 = marks ∧ (2 * marks + 1) % 2 = 1 := by omega
      rw [ofLettersFrom, lettersFrom_replicate, Nat.zero_add, lettersFrom, if_neg h.char_ne_mark]
      simp only [Half.ofChar?_char, hodd, if_true, hrest]
    | char c =>
      rw [ofLettersFrom]
      split
      · next hmark =>
        rw [ih, hmark, List.replicate_succ', List.append_assoc, List.singleton_append]
      · next hmark =>
        split
        · next hblock =>
          rw [lettersFrom_replicate, Nat.zero_add, lettersFrom, if_neg hmark]
          simp only [hblock, hrest]
        · next h hblock =>
          have heven : 2 * marks / 2 = marks ∧ 2 * marks % 2 ≠ 1 := by omega
          rw [lettersFrom_replicate, Nat.zero_add, lettersFrom, if_neg hmark]
          simp only [hblock, heven.1, if_neg heven.2, hrest]

/-- A text is read from the string that keeps it. -/
@[simp]
theorem letters_ofLetters (l : List Letter) : letters (ofLetters l) = l :=
  lettersFrom_ofLettersFrom 0 l

/-! ## Writing what is read -/

theorem ofLettersFrom_replicate (marks more : Nat) (l : List Letter) :
    ofLettersFrom marks (List.replicate more (.char Half.mark) ++ l) =
      ofLettersFrom (marks + more) l := by
  induction more generalizing marks with
  | zero => rfl
  | succ more ih =>
    rw [List.replicate_succ, List.cons_append, ofLettersFrom, if_pos rfl, ih, Nat.add_right_comm,
      Nat.add_assoc]

theorem ofLettersFrom_lettersFrom (marks : Nat) (s : List Char) :
    ofLettersFrom 0 (lettersFrom marks s) = List.replicate marks Half.mark ++ s := by
  induction s generalizing marks with
  | nil =>
    have hmarks := ofLettersFrom_replicate 0 marks []
    rw [List.append_nil, Nat.zero_add] at hmarks
    rw [lettersFrom, hmarks, ofLettersFrom, List.append_nil]
  | cons c rest ih =>
    have hrest : ofLettersFrom 0 (lettersFrom 0 rest) = rest := ih 0
    rw [lettersFrom]
    split
    · next hmark =>
      rw [ih, hmark, List.replicate_succ', List.append_assoc, List.singleton_append]
    · next hmark =>
      split
      · next hblock =>
        rw [ofLettersFrom_replicate, Nat.zero_add, ofLettersFrom, if_neg hmark]
        simp only [hblock, hrest]
      · next h hblock =>
        rw [ofLettersFrom_replicate, Nat.zero_add]
        split
        · next hodd =>
          have hmarks : 2 * (marks / 2) + 1 = marks := by omega
          rw [ofLettersFrom, hmarks, hrest, Half.char_of_ofChar? hblock]
        · next heven =>
          have hmarks : 2 * (marks / 2) = marks := by omega
          rw [ofLettersFrom, if_neg hmark]
          simp only [hblock, hmarks, hrest]

/-- Every string keeps the text that is read from it. -/
@[simp]
theorem ofLetters_letters (s : List Char) : ofLetters (letters s) = s :=
  ofLettersFrom_lettersFrom 0 s

/-! ## Texts without halves -/

@[simp]
theorem letters_kept (s : String) : letters (kept s).toList = s.toList.map .char := by
  rw [kept, String.toList_ofList, letters_ofLetters]

/-- A string without marks is the text of its characters. -/
theorem letters_of_not_mem {s : List Char} (h : Half.mark ∉ s) : letters s = s.map .char := by
  have hkept : ofLetters (s.map .char) = s := by
    induction s with
    | nil => rfl
    | cons c rest ih =>
      rw [List.mem_cons, not_or] at h
      rw [List.map_cons, ofLetters, ofLettersFrom, if_neg (Ne.symm h.1)]
      have hrest : ofLettersFrom 0 (rest.map .char) = rest := ih h.2
      split
      · rw [hrest, List.replicate_zero, List.nil_append]
      · rw [hrest, Nat.mul_zero, List.replicate_zero, List.nil_append]
  rw [← letters_ofLetters (s.map .char), hkept]

theorem char_mem_lettersFrom {s : List Char} (hmark : c ≠ Half.mark) (hblock : Half.ofChar? c = none)
    (marks : Nat) (hc : c ∈ s) : .char c ∈ lettersFrom marks s := by
  induction s generalizing marks with
  | nil => cases hc
  | cons first rest ih =>
    rw [lettersFrom]
    rcases List.mem_cons.mp hc with rfl | hrest
    · rw [if_neg hmark]
      simp [hblock]
    · split
      · exact ih _ hrest
      · split
        · simp [ih 0 hrest]
        · simp [ih 0 hrest]

/-- A character that is neither a mark nor one for a half always stands for itself. -/
theorem char_mem_letters {s : List Char} (hmark : c ≠ Half.mark) (hblock : Half.ofChar? c = none)
    (hc : c ∈ s) : .char c ∈ letters s :=
  char_mem_lettersFrom hmark hblock 0 hc

/-- A string whose letters are all characters keeps the text of these. -/
theorem kept_of_letters {s : String} {chars : List Char} (h : letters s.toList = chars.map .char) :
    kept (String.ofList chars) = s := by
  rw [kept, String.toList_ofList, ← h, ofLetters_letters, String.ofList_toList]

end VpcMachines.Text
