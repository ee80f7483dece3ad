import VpcMachines.Yaml.Atom

/-!
# Numerals

An integer is written by digits, the first of which is not zero. Such a numeral is what its value is
written by, and of all texts without a sign that are read as integers only numerals come back as they
were (`integer_restated_iff`), if they are not too long.
-/

namespace VpcMachines.Yaml

open Text

variable {c : Char} {s : List Char} {n k : Nat}

/-- Digits, the first of which is not zero. -/
structure IsNumeral (s : List Char) : Prop where
  ne_nil : s ≠ []
  digits : ∀ c ∈ s, c.isDigit = true
  leading : s.head? ≠ some '0'

theorem IsNumeral.of_all (hs : s ≠ []) (h : s.all Char.isDigit = true) (hzero : s.head? ≠ some '0') :
    IsNumeral s :=
  ⟨hs, List.all_eq_true.mp h, hzero⟩

/-! ## Digits -/

/-- The value of a decimal digit. -/
def digitValue (c : Char) : Nat := c.toNat - 48

theorem bounds_of_isDigit (h : c.isDigit = true) : 48 ≤ c.toNat ∧ c.toNat ≤ 57 := by
  simp only [Char.isDigit, Bool.and_eq_true, decide_eq_true_eq, UInt32.le_iff_toNat_le,
    ge_iff_le] at h
  exact h

/-- What holds of the ten digits holds of every digit. -/
theorem digit_forall {P : Char → Prop} (h : ∀ n < 10, P (Nat.digitChar n))
    (hc : c.isDigit = true) : P c := by
  obtain ⟨hleast, hmost⟩ := bounds_of_isDigit hc
  have hback : ∀ n < 58, 48 ≤ n → Nat.digitChar (n - 48) = Char.ofNat n := by decide
  have hchar := hback c.toNat (by omega) hleast
  rw [Char.ofNat_toNat] at hchar
  rw [← hchar]
  exact h _ (by omega)

theorem IsNumeral.forall_digit {P : Char → Prop} (hs : IsNumeral s)
    (h : ∀ n < 10, P (Nat.digitChar n)) : ∀ c ∈ s, P c :=
  fun c hc ↦ digit_forall h (hs.digits c hc)

theorem digitChar_digitValue (hc : c.isDigit = true) : Nat.digitChar (digitValue c) = c :=
  digit_forall (P := fun c ↦ Nat.digitChar (digitValue c) = c) (by decide) hc

theorem digitValue_lt (hc : c.isDigit = true) : digitValue c < 10 :=
  digit_forall (P := fun c ↦ digitValue c < 10) (by decide) hc

theorem digitIn?_isDigit (hc : c.isDigit = true) : digitIn? 10 c = some (digitValue c) :=
  digit_forall (P := fun c ↦ digitIn? 10 c = some (digitValue c)) (by decide) hc

theorem toDigits_digitValue (hc : c.isDigit = true) : Nat.toDigits 10 (digitValue c) = [c] := by
  rw [Nat.toDigits_of_lt_base (digitValue_lt hc), digitChar_digitValue hc]

/-! ## The numeral of a number -/

/-- Digits behind a positive number are the last digits of the number that they make of it. -/
theorem toDigits_append (hn : 0 < n) (hs : ∀ c ∈ s, c.isDigit = true) :
    Nat.toDigits 10 ((s.map digitValue).foldl (fun value d ↦ value * 10 + d) n) =
      Nat.toDigits 10 n ++ s := by
  induction s generalizing n with
  | nil => rw [List.append_nil]; rfl
  | cons c s ih =>
    obtain ⟨hc, hothers⟩ := List.forall_mem_cons.mp hs
    have hnext : Nat.toDigits 10 (n * 10 + digitValue c) = Nat.toDigits 10 n ++ [c] := by
      rw [← toDigits_digitValue hc,
        Nat.toDigits_append_toDigits (by decide) hn (digitValue_lt hc), Nat.mul_comm]
    rw [List.map_cons, List.foldl_cons, ih (by omega) hothers, hnext, List.append_assoc]
    rfl

/-- The value of a numeral is written by it. -/
theorem toDigits_valueOf (hs : IsNumeral s) :
    Nat.toDigits 10 (valueOf 10 (s.map digitValue)) = s := by
  obtain ⟨c, rest, rfl⟩ := List.exists_cons_of_ne_nil hs.ne_nil
  obtain ⟨hc, hothers⟩ := List.forall_mem_cons.mp hs.digits
  have hpos : 0 < digitValue c := by
    refine Nat.pos_of_ne_zero fun hzero ↦ hs.leading ?_
    rw [← digitChar_digitValue hc, hzero]
    rfl
  rw [valueOf, List.map_cons, List.foldl_cons, Nat.zero_mul, Nat.zero_add,
    toDigits_append hpos hothers, toDigits_digitValue hc]
  rfl

theorem head_toDigits (hn : n ≠ 0) : (Nat.toDigits 10 n).head? ≠ some '0' := by
  induction n using Nat.strongRecOn with
  | ind n ih =>
    by_cases hsmall : n < 10
    · rw [Nat.toDigits_of_lt_base hsmall]
      have hall : ∀ n < 10, n ≠ 0 → Nat.digitChar n ≠ '0' := by decide
      simpa using hall n hsmall hn
    · have hfewer : (Nat.toDigits 10 (n / 10)).head? ≠ some '0' := ih (n / 10) (by omega) (by omega)
      obtain ⟨c, rest, hdigits⟩ := List.exists_cons_of_ne_nil (Nat.toDigits_ne_nil (n := n / 10))
      rw [Nat.toDigits_of_base_le (by decide) (by omega), hdigits]
      rwa [hdigits] at hfewer

/-- A positive number is written by a numeral. -/
theorem isNumeral_toDigits (hn : n ≠ 0) : IsNumeral (Nat.toDigits 10 n) :=
  ⟨Nat.toDigits_ne_nil, fun _ hc ↦ Nat.isDigit_of_mem_toDigits (by decide) (by decide) hc,
    head_toDigits hn⟩

theorem length_toDigits_le_iff (hk : 0 < k) :
    (Nat.toDigits 10 n).length ≤ k ↔ n < Nat.pow 10 k :=
  Nat.length_toDigits_le_iff (by decide) hk

/-! ## Reading -/

theorem trimBlank_eq (h : ∀ c ∈ s, isBlank c = false) : trimBlank s = s := by
  have hdrop (s : List Char) (h : ∀ c ∈ s, isBlank c = false) : s.dropWhile isBlank = s := by
    cases s with
    | nil => rfl
    | cons c s =>
      rw [List.dropWhile_cons, h c (List.mem_cons_self ..)]
      rfl
  have hreverse : ∀ c ∈ s.reverse, isBlank c = false := fun c hc ↦ h c (List.mem_reverse.mp hc)
  rw [trimBlank, hdrop s h, hdrop s.reverse hreverse, List.reverse_reverse]

theorem signed_numeral (hs : IsNumeral s) : signed s = (false, s) := by
  have hfirst {mark : Char} (hmark : mark.isDigit = false) (rest : List Char) :
      s ≠ mark :: rest := by
    rintro rfl
    rw [hs.digits mark (List.mem_cons_self ..)] at hmark
    cases hmark
  unfold signed
  split
  · exact absurd rfl (hfirst (by decide) _)
  · exact absurd rfl (hfirst (by decide) _)
  · rfl

theorem mapM_eq_some {α β : Type} {f : α → Option β} {g : α → β} {l : List α}
    (h : ∀ a ∈ l, f a = some (g a)) : l.mapM f = some (l.map g) := by
  induction l with
  | nil => rfl
  | cons a l ih =>
    obtain ⟨ha, hothers⟩ := List.forall_mem_cons.mp h
    rw [List.mapM_cons, ha, ih hothers]
    rfl

theorem readInteger_numeral (hs : IsNumeral s) :
    readInteger 10 s =
      if 4300 < s.length then .error (.tooManyDigits s.length)
      else .ok (valueOf 10 (s.map digitValue)) := by
  have hplain : s.map plainDigit = s :=
    (List.map_congr_left (hs.forall_digit (by decide))).trans (List.map_id s)
  have hblank : ∀ c ∈ s, isBlank c = false := hs.forall_digit (by decide)
  have hletter : withoutBaseLetter 10 s = s := by
    unfold withoutBaseLetter
    split
    · exact if_neg nofun
    · rfl
  have hvalues : s.mapM (digitIn? 10) = some (s.map digitValue) :=
    mapM_eq_some fun c hc ↦ digitIn?_isDigit (hs.digits c hc)
  have hsome : (s.map digitValue).isEmpty = false := by
    simpa using hs.ne_nil
  simp only [readInteger, hplain, trimBlank_eq hblank, signed_numeral hs, hletter, hvalues, hsome]
  simp

/-- A numeral is read as a decimal. -/
theorem integerOf_numeral (hs : IsNumeral s) :
    integerOf (String.ofList s) =
      if 4300 < s.length then .error (.tooManyDigits s.length)
      else .ok (valueOf 10 (s.map digitValue)) := by
  have hfilter : s.filter (· != '_') = s := List.filter_eq_self.mpr (hs.forall_digit (by decide))
  have hcolon : s.contains ':' = false := by
    simpa using fun h ↦ absurd (hs.digits ':' h) (by decide)
  have hread := readInteger_numeral hs
  obtain ⟨c, rest, rfl⟩ := List.exists_cons_of_ne_nil hs.ne_nil
  have hc : c ≠ '0' := fun h ↦ hs.leading (congrArg some h)
  simp only [integerOf, String.toList_ofList, hfilter, signed_numeral hs]
  -- The first digit is not zero, so neither is the number, and no other base is meant.
  split
  · next heq => cases heq
  · next heq => exact absurd (List.cons.inj heq).1 hc
  · next heq => exact absurd (List.cons.inj heq).1 hc
  · next heq => exact absurd (List.cons.inj heq).1 hc
  · next heq => exact absurd (List.cons.inj heq).1 hc
  · next heq =>
    rw [← heq, hcolon, hread]
    simp only [Bool.false_eq_true, if_false]
    split <;> rfl

/-! ## Writing -/

theorem integerForm_eq_ok {n : Int} {w : String} :
    Atom.integerForm n = .ok w ↔ n.natAbs < Nat.pow 10 Atom.digitLimit ∧ toString n = w := by
  unfold Atom.integerForm
  split
  · next h => exact ⟨fun hw ↦ ⟨h, Except.ok.inj hw⟩, fun hw ↦ congrArg Except.ok hw.2⟩
  · next h => exact ⟨nofun, fun hw ↦ absurd hw.1 h⟩

/-- A number is written by digits and a sign. -/
theorem mem_toString {n : Int} (h : c ∈ (toString n).toList) : c.isDigit = true ∨ c = '-' := by
  have hdigits {m : Nat} (h : c ∈ (toString m).toList) : c.isDigit = true := by
    rw [Nat.toString_eq_ofList_toDigits, String.toList_ofList] at h
    exact Nat.isDigit_of_mem_toDigits (by decide) (by decide) h
  cases n with
  | ofNat m => exact .inl (hdigits h)
  | negSucc m =>
    change c ∈ ("-" ++ toString (m + 1)).toList at h
    rw [String.toList_append, List.mem_append] at h
    rcases h with hsign | h
    · exact .inr (List.mem_singleton.mp hsign)
    · exact .inl (hdigits h)

theorem not_mem_of_integerForm {n : Int} {w : String} (hdigit : c.isDigit = false) (hsign : c ≠ '-')
    (h : Atom.integerForm n = .ok w) : c ∉ w.toList := by
  obtain ⟨-, rfl⟩ := integerForm_eq_ok.mp h
  intro hmem
  rcases mem_toString hmem with hc | hc
  · rw [hdigit] at hc
    cases hc
  · exact hsign hc

/-- A numeral is the form of its value if it is not too long. -/
theorem integerForm_valueOf (hs : IsNumeral s) (hlength : s.length ≤ Atom.digitLimit) :
    Atom.integerForm (valueOf 10 (s.map digitValue)) = .ok (String.ofList s) := by
  have hback := toDigits_valueOf hs
  have hlimit : 0 < Atom.digitLimit := by decide
  rw [integerForm_eq_ok]
  constructor
  · rw [Int.natAbs_natCast, ← length_toDigits_le_iff hlimit, hback]
    exact hlength
  · change toString (valueOf 10 (s.map digitValue)) = _
    rw [Nat.toString_eq_ofList_toDigits, hback]

/-- The form of a positive number is a numeral that is not too long. -/
theorem isNumeral_of_integerForm {n : Int} (hsign : '-' ∉ s) (hzero : s ≠ ['0'])
    (h : Atom.integerForm n = .ok (String.ofList s)) :
    IsNumeral s ∧ s.length ≤ Atom.digitLimit := by
  obtain ⟨hsize, hwritten⟩ := integerForm_eq_ok.mp h
  cases n with
  | negSucc m =>
    have hs : s = '-' :: (toString (m + 1)).toList := by
      have hm : "-" ++ toString (m + 1) = String.ofList s := hwritten
      rw [← String.toList_ofList (l := s), ← hm, String.toList_append]
      rfl
    exact absurd (hs ▸ List.mem_cons_self ..) hsign
  | ofNat m =>
    have hs : Nat.toDigits 10 m = s := by
      have hm : toString m = String.ofList s := hwritten
      rw [Nat.toString_eq_ofList_toDigits] at hm
      exact String.ofList_injective hm
    have hm : m ≠ 0 := by
      rintro rfl
      exact hzero hs.symm
    have hlimit : 0 < Atom.digitLimit := by decide
    rw [← hs]
    exact ⟨isNumeral_toDigits hm, (length_toDigits_le_iff hlimit).mpr hsize⟩

/-- Only a numeral is written as it was read, and only if it is not too long. -/
theorem integer_restated_iff (hsign : '-' ∉ s) (hzero : s ≠ ['0']) :
    (integerOf (String.ofList s)).bind Atom.integerForm = .ok (String.ofList s) ↔
      IsNumeral s ∧ s.length ≤ Atom.digitLimit := by
  constructor
  · intro h
    cases hn : integerOf (String.ofList s) with
    | error fault =>
      rw [hn] at h
      cases h
    | ok n =>
      rw [hn, Except.bind] at h
      exact isNumeral_of_integerForm hsign hzero h
  · rintro ⟨hs, hlength⟩
    have hvalue : integerOf (String.ofList s) = .ok (valueOf 10 (s.map digitValue)) := by
      rw [integerOf_numeral hs]
      exact if_neg (Nat.not_lt.mpr hlength)
    rw [hvalue, Except.bind]
    exact integerForm_valueOf hs hlength

end VpcMachines.Yaml
