import VpcMachines.Proofs.Text.Base64

/-!
# The texts that are base64

The strict decoder is a recogniser as well: it accepts digits with the padding that fills up their last
group (`decode_isOk_iff`). It is laxer than the encoding in two points only. Behind whole groups, where
nothing is to be filled up, it passes over any padding, and of the last digit in front of padding it drops
the bits that no byte takes.
-/

namespace VpcMachines.Text.Base64

variable {c : Char} {d : Nat} {s rest : List Char} {g : Group} {bytes : List UInt8}
  {k n : Nat}

/-- Whether padding of a length may follow so many digits of a group. -/
def Closes (digits marks : Nat) : Prop :=
  digits = 0 ∨ digits = 2 ∧ marks = 2 ∨ digits = 3 ∧ marks = 1

/-- Whether a text goes on from so many digits of a group to the end of base64: with digits of the
alphabet, and behind them the padding for their last group. -/
def Finishes (k : Nat) (s : List Char) : Prop :=
  ∃ digits n, s = digits ++ List.replicate n '=' ∧ (∀ c ∈ digits, (digit? c).isSome = true) ∧
    Closes ((k + digits.length) % 4) n

/-- Digits and their padding. Padding alone is none. -/
def IsPadded (s : List Char) : Prop := Finishes 0 s ∧ s.head? ≠ some '='

theorem closes_few {digits : Nat} (h : digits < 2) : Closes digits n ↔ digits = 0 := by
  unfold Closes
  omega

theorem closes_two : Closes 2 n ↔ n = 2 := by simp [Closes]

theorem closes_three : Closes 3 n ↔ n = 1 := by simp [Closes]

theorem ne_marks (hc : c ≠ '=') : c :: rest ≠ List.replicate n '=' := by
  intro h
  exact hc (List.eq_of_mem_replicate (h ▸ List.mem_cons_self))

theorem finishes_nil (hk : k < 4) : Finishes k [] ↔ k = 0 := by
  unfold Finishes
  constructor
  · rintro ⟨digits, n, h, _, hcloses⟩
    obtain ⟨rfl, hn⟩ := List.append_eq_nil_iff.mp h.symm
    cases (List.replicate_eq_nil_iff '=').mp hn
    rw [List.length_nil, Nat.add_zero, Nat.mod_eq_of_lt hk] at hcloses
    unfold Closes at hcloses
    omega
  · intro hzero
    exact ⟨[], 0, rfl, by simp, .inl (by simp [hzero])⟩

theorem finishes_mark (hk : k < 4) :
    Finishes k ('=' :: rest) ↔ ∃ n, '=' :: rest = List.replicate n '=' ∧ Closes k n := by
  have hstart : (k + ([] : List Char).length) % 4 = k := by
    rw [List.length_nil, Nat.add_zero, Nat.mod_eq_of_lt hk]
  unfold Finishes
  constructor
  · rintro ⟨_ | ⟨c, digits⟩, n, h, hall, hcloses⟩
    · exact ⟨n, h, hstart ▸ hcloses⟩
    · cases h
      cases hall '=' List.mem_cons_self
  · rintro ⟨n, h, hcloses⟩
    exact ⟨[], n, h, by simp, hstart.symm ▸ hcloses⟩

theorem finishes_digit (hd : digit? c = some d) :
    Finishes k (c :: rest) ↔ Finishes ((k + 1) % 4) rest := by
  have hlength (digits : List Char) :
      ((k + 1) % 4 + digits.length) % 4 = (k + (c :: digits).length) % 4 := by
    rw [List.length_cons]
    omega
  unfold Finishes
  constructor
  · rintro ⟨_ | ⟨c', digits⟩, n, h, hall, hcloses⟩
    · exact absurd h (ne_marks (ne_mark_of_digit? hd))
    · cases h
      exact ⟨digits, n, rfl, (List.forall_mem_cons.mp hall).2, hlength digits ▸ hcloses⟩
  · rintro ⟨digits, n, rfl, hall, hcloses⟩
    refine ⟨c :: digits, n, rfl, ?_, hlength digits ▸ hcloses⟩
    exact List.forall_mem_cons.mpr ⟨by rw [hd]; rfl, hall⟩

theorem not_finishes (hc : c ≠ '=') (hd : digit? c = none) : ¬Finishes k (c :: rest) := by
  rintro ⟨_ | ⟨c', digits⟩, n, h, hall, _⟩
  · exact ne_marks hc h
  · cases h
    have hsome := hall c List.mem_cons_self
    rw [hd] at hsome
    cases hsome

/-! ## Behind a padding mark -/

theorem mark_cons_iff {p : Nat → Prop} :
    (∃ n, '=' :: rest = List.replicate n '=' ∧ p n) ↔
      ∃ n, rest = List.replicate n '=' ∧ p (n + 1) := by
  constructor
  · rintro ⟨_ | n, h, hp⟩
    · cases h
    · exact ⟨n, (List.cons.inj h).2, hp⟩
  · rintro ⟨n, rfl, hp⟩
    exact ⟨n + 1, rfl, hp⟩

/-- Nothing but padding may follow padding. -/
theorem decodeFrom_padded_ne_ok (hc : c ≠ '=') (hg : g.padded = true) :
    decodeFrom true g (c :: rest) ≠ .ok bytes := by
  rw [decodeFrom]
  · cases digit? c <;> simp [hg]
  · exact hc

theorem decodeFrom_mark (hg : g.digits < 2) :
    decodeFrom true g ('=' :: rest) = decodeFrom true { g with padded := true } rest := by
  have hfew : ¬2 ≤ g.digits := by omega
  rw [decodeFrom]
  simp [hfew]

/-- Behind whole groups any padding is passed over. -/
theorem decodeFrom_marks_isOk_iff (hdigits : g.digits < 2) (hg : g.padded = true) :
    (∃ bytes, decodeFrom true g s = .ok bytes) ↔
      g.digits = 0 ∧ ∃ n, s = List.replicate n '=' := by
  induction s with
  | nil =>
    rw [decodeFrom]
    constructor
    · rintro ⟨bytes, h⟩
      split at h
      · exact ⟨‹_›, 0, rfl⟩
      · cases h
    · rintro ⟨hzero, _⟩
      exact ⟨[], if_pos hzero⟩
  | cons c rest ih =>
    by_cases hc : c = '='
    · subst hc
      have hsame : { g with padded := true } = g := by rw [← hg]
      rw [decodeFrom_mark hdigits, hsame, ih]
      apply and_congr_right
      intro _
      simpa using (mark_cons_iff (p := fun _ ↦ True)).symm
    · constructor
      · rintro ⟨bytes, h⟩
        exact absurd h (decodeFrom_padded_ne_ok hc hg)
      · rintro ⟨_, _ | n, h⟩
        · cases h
        · cases h
          exact absurd rfl hc

/-- The mark that fills up a group ends the text. -/
theorem decodeFrom_last_mark (htwo : 2 ≤ g.digits) (hfull : 4 ≤ g.digits + g.marks + 1) :
    (∃ bytes, decodeFrom true g ('=' :: rest) = .ok bytes) ↔ rest = [] := by
  rw [decodeFrom]
  simp only [htwo, hfull, and_self, if_true]
  cases rest <;> simp

theorem decodeFrom_second_mark (hg : g.padded = true) (htwo : g.digits = 2) (hone : g.marks = 1) :
    (∃ bytes, decodeFrom true g s = .ok bytes) ↔ s = ['='] := by
  cases s with
  | nil =>
    rw [decodeFrom, htwo]
    simp
  | cons c rest =>
    by_cases hc : c = '='
    · subst hc
      rw [decodeFrom_last_mark (by omega) (by omega)]
      simp
    · constructor
      · rintro ⟨bytes, h⟩
        exact absurd h (decodeFrom_padded_ne_ok hc hg)
      · intro h
        cases h
        exact absurd rfl hc

/-- What may follow the digits of a group from its first mark on. -/
theorem decodeFrom_first_mark (hdigits : g.digits < 4) (hmarks : g.marks = 0) :
    (∃ bytes, decodeFrom true g ('=' :: rest) = .ok bytes) ↔
      ∃ n, '=' :: rest = List.replicate n '=' ∧ Closes g.digits n := by
  rw [mark_cons_iff]
  by_cases hfew : g.digits < 2
  · rw [decodeFrom_mark hfew, decodeFrom_marks_isOk_iff (g := { g with padded := true }) hfew rfl]
    simp only [closes_few hfew]
    rw [exists_and_right, and_comm]
  by_cases htwo : g.digits = 2
  · have hnext : decodeFrom true g ('=' :: rest) =
        decodeFrom true { g with marks := 1, padded := true } rest := by
      rw [decodeFrom]
      simp [htwo, hmarks]
    rw [hnext, decodeFrom_second_mark (g := { g with marks := 1, padded := true }) rfl htwo rfl, htwo]
    have hone (n : Nat) : Closes 2 (n + 1) ↔ n = 1 := by
      rw [closes_two]
      omega
    simp only [hone, exists_eq_right]
    rfl
  · have hthree : g.digits = 3 := by omega
    rw [decodeFrom_last_mark (by omega) (by omega), hthree]
    have hzero (n : Nat) : Closes 3 (n + 1) ↔ n = 0 := by
      rw [closes_three]
      omega
    simp only [hzero, exists_eq_right]
    rfl

/-! ## The digits -/

theorem digits_push (hdigits : g.digits < 4) : (g.push d).2.digits = (g.digits + 1) % 4 := by
  have hcases : g.digits = 0 ∨ g.digits = 1 ∨ g.digits = 2 ∨ g.digits = 3 := by omega
  rcases hcases with h | h | h | h <;> simp [Group.push, h]

theorem marks_push : (g.push d).2.marks = 0 := by
  unfold Group.push
  split <;> rfl

theorem decodeFrom_digit_isOk_iff (hd : digit? c = some d) (hg : g.padded = false) :
    (∃ bytes, decodeFrom true g (c :: rest) = .ok bytes) ↔
      ∃ bytes, decodeFrom true (g.push d).2 rest = .ok bytes := by
  rw [decodeFrom_digit hd hg]
  rcases g.push d with ⟨_ | b, g'⟩
  · rfl
  · dsimp only
    cases decodeFrom true g' rest <;> simp [Except.map]

theorem decodeFrom_isOk_iff (hdigits : g.digits < 4) (hmarks : g.marks = 0)
    (hg : g.padded = false) :
    (∃ bytes, decodeFrom true g s = .ok bytes) ↔ Finishes g.digits s := by
  induction s generalizing g with
  | nil =>
    rw [finishes_nil hdigits, decodeFrom]
    split <;> simp [*]
  | cons c rest ih =>
    by_cases hc : c = '='
    · subst hc
      rw [decodeFrom_first_mark hdigits hmarks, finishes_mark hdigits]
    cases hd : digit? c with
    | none =>
      constructor
      · rintro ⟨bytes, h⟩
        obtain ⟨d, _, hsome, _⟩ := exists_of_decodeFrom_cons hc hg h
        cases hsome.symm.trans hd
      · intro h
        exact absurd h (not_finishes hc hd)
    | some d =>
      have hnext : (g.push d).2.digits < 4 := by
        rw [digits_push hdigits]
        exact Nat.mod_lt _ (by decide)
      rw [decodeFrom_digit_isOk_iff hd hg, ih hnext marks_push ((padded_push g d).trans hg),
        digits_push hdigits, finishes_digit hd]

/-- Exactly the texts of digits with their padding are decoded. -/
theorem decode_isOk_iff : (∃ bytes, decode s = .ok bytes) ↔ IsPadded s := by
  unfold decode IsPadded
  split
  · simp
  · next hmark =>
    have hhead : s.head? ≠ some '=' := by
      cases s with
      | nil => simp
      | cons c rest =>
        rintro ⟨⟩
        exact hmark rest rfl
    rw [decodeFrom_isOk_iff (by decide) rfl rfl]
    exact (and_iff_left hhead).symm

end VpcMachines.Text.Base64
