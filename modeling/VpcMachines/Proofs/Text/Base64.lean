import VpcMachines.Text.Base64

/-!
# Base64 inverts its encoding

Strict decoding gives back what was encoded (`decode_encode`), and of all texts without padding it gives
these bytes for their encoding only (`eq_encode_of_decode`). Four digits stand for three bytes.
-/

namespace VpcMachines.Text.Base64

variable {c c₁ c₂ c₃ c₄ : Char} {d d₁ d₂ d₃ d₄ : Nat} {s rest : List Char} {g : Group}
  {bytes : List UInt8}

/-! ## Digits -/

theorem digit?_digitChar : ∀ n < 64, digit? (digitChar n) = some n := by decide

theorem toNat_lt_of_digit? (h : digit? c = some d) : c.toNat < 128 := by
  have hbelow {least : Char} (hc : c ≤ least) (hleast : least.toNat < 128) : c.toNat < 128 :=
    Nat.lt_of_le_of_lt (UInt32.le_iff_toNat_le.mp hc) hleast
  unfold digit? at h
  split at h
  · exact hbelow (And.right ‹_›) (by decide)
  split at h
  · exact hbelow (And.right ‹_›) (by decide)
  split at h
  · exact hbelow (And.right ‹_›) (by decide)
  split at h
  · subst c
    decide
  split at h
  · subst c
    decide
  · cases h

/-- Every digit is written by one character. -/
theorem digitChar_of_digit? (h : digit? c = some d) : d < 64 ∧ digitChar d = c := by
  have hall : ∀ n < 128, ∀ d ∈ digit? (Char.ofNat n), d < 64 ∧ digitChar d = Char.ofNat n := by
    decide
  have hc := hall c.toNat (toNat_lt_of_digit? h) d
  rw [Char.ofNat_toNat] at hc
  exact hc h

theorem ne_mark_of_digit? (h : digit? c = some d) : c ≠ '=' := by
  rintro rfl
  cases h

/-! ## Groups -/

theorem decodeFrom_digit (h : digit? c = some d) (hg : g.padded = false) :
    decodeFrom true g (c :: rest) =
      match g.push d with
      | (none, g') => decodeFrom true g' rest
      | (some b, g') => (decodeFrom true g' rest).map (b :: ·) := by
  have hc : c ≠ '=' := ne_mark_of_digit? h
  rw [decodeFrom]
  · simp only [h, hg]
    rfl
  · exact hc

theorem decodeFrom_first (h : digit? c = some d) :
    decodeFrom true .empty (c :: rest) = decodeFrom true ⟨1, d, 0, false⟩ rest := by
  rw [decodeFrom_digit h rfl]
  rfl

theorem decodeFrom_second {carry : Nat} (h : digit? c = some d) :
    decodeFrom true ⟨1, carry, 0, false⟩ (c :: rest) =
      (decodeFrom true ⟨2, d % 16, 0, false⟩ rest).map (UInt8.ofNat (carry * 4 + d / 16) :: ·) := by
  rw [decodeFrom_digit h rfl]
  rfl

theorem decodeFrom_third {carry : Nat} (h : digit? c = some d) :
    decodeFrom true ⟨2, carry, 0, false⟩ (c :: rest) =
      (decodeFrom true ⟨3, d % 4, 0, false⟩ rest).map (UInt8.ofNat (carry * 16 + d / 4) :: ·) := by
  rw [decodeFrom_digit h rfl]
  rfl

theorem decodeFrom_fourth {carry : Nat} (h : digit? c = some d) :
    decodeFrom true ⟨3, carry, 0, false⟩ (c :: rest) =
      (decodeFrom true .empty rest).map (UInt8.ofNat (carry * 64 + d) :: ·) := by
  rw [decodeFrom_digit h rfl]
  rfl

/-- Four digits are read as three bytes. -/
theorem decodeFrom_group (h₁ : digit? c₁ = some d₁) (h₂ : digit? c₂ = some d₂)
    (h₃ : digit? c₃ = some d₃) (h₄ : digit? c₄ = some d₄) :
    decodeFrom true .empty (c₁ :: c₂ :: c₃ :: c₄ :: rest) =
      (decodeFrom true .empty rest).map fun more ↦
        UInt8.ofNat (d₁ * 4 + d₂ / 16) :: UInt8.ofNat (d₂ % 16 * 16 + d₃ / 4) ::
          UInt8.ofNat (d₃ % 4 * 64 + d₄) :: more := by
  rw [decodeFrom_first h₁, decodeFrom_second h₂, decodeFrom_third h₃, decodeFrom_fourth h₄]
  cases decodeFrom true .empty rest <;> rfl

theorem ofNat_eq {n : Nat} {b : UInt8} (h : n = b.toNat) : UInt8.ofNat n = b := by
  rw [h, UInt8.ofNat_toNat]

theorem first_byte {n : Nat} (a : UInt8) (hn : n < 16) :
    UInt8.ofNat (a.toNat / 4 * 4 + (a.toNat % 4 * 16 + n) / 16) = a :=
  ofNat_eq (by omega)

theorem second_byte {m n : Nat} (b : UInt8) (hn : n < 4) :
    UInt8.ofNat ((m * 16 + b.toNat / 16) % 16 * 16 + (b.toNat % 16 * 4 + n) / 4) = b :=
  ofNat_eq (by have := b.toNat_lt; omega)

theorem third_byte {m : Nat} (c : UInt8) :
    UInt8.ofNat ((m * 4 + c.toNat / 64) % 4 * 64 + c.toNat % 64) = c :=
  ofNat_eq (by have := c.toNat_lt; omega)

theorem decodeFrom_encode (bytes : List UInt8) :
    decodeFrom true .empty (encode bytes) = .ok bytes := by
  induction bytes using encode.induct with
  | case1 => rfl
  | case2 a =>
    have ha := a.toNat_lt
    have h₁ := digit?_digitChar (a.toNat / 4) (by omega)
    have h₂ := digit?_digitChar (a.toNat % 4 * 16) (by omega)
    have hbyte : UInt8.ofNat (a.toNat / 4 * 4 + a.toNat % 4 * 16 / 16) = a :=
      first_byte (n := 0) a (by decide)
    rw [encode, decodeFrom_first h₁, decodeFrom_second h₂, hbyte]
    rfl
  | case3 a b =>
    have ha := a.toNat_lt
    have hb := b.toNat_lt
    have h₁ := digit?_digitChar (a.toNat / 4) (by omega)
    have h₂ := digit?_digitChar (a.toNat % 4 * 16 + b.toNat / 16) (by omega)
    have h₃ := digit?_digitChar (b.toNat % 16 * 4) (by omega)
    have hsecond :
        UInt8.ofNat ((a.toNat % 4 * 16 + b.toNat / 16) % 16 * 16 + b.toNat % 16 * 4 / 4) = b :=
      second_byte (n := 0) b (by decide)
    rw [encode, decodeFrom_first h₁, decodeFrom_second h₂, decodeFrom_third h₃,
      first_byte a (by omega), hsecond]
    rfl
  | case4 a b c rest ih =>
    have ha := a.toNat_lt
    have hb := b.toNat_lt
    have hc := c.toNat_lt
    have h₁ := digit?_digitChar (a.toNat / 4) (by omega)
    have h₂ := digit?_digitChar (a.toNat % 4 * 16 + b.toNat / 16) (by omega)
    have h₃ := digit?_digitChar (b.toNat % 16 * 4 + c.toNat / 64) (by omega)
    have h₄ := digit?_digitChar (c.toNat % 64) (by omega)
    rw [encode, decodeFrom_group h₁ h₂ h₃ h₄, ih, first_byte a (by omega),
      second_byte b (by omega), third_byte]
    rfl

/-! ## Encodings -/

/-- An encoding consists of digits and padding. -/
theorem mem_encode (h : c ∈ encode bytes) : c = '=' ∨ ∃ n < 64, c = digitChar n := by
  induction bytes using encode.induct with
  | case1 => cases h
  | case2 a =>
    have ha := a.toNat_lt
    simp only [encode, List.mem_cons, List.not_mem_nil, or_false] at h
    rcases h with rfl | rfl | rfl | rfl
    · exact .inr ⟨_, by omega, rfl⟩
    · exact .inr ⟨_, by omega, rfl⟩
    · exact .inl rfl
    · exact .inl rfl
  | case3 a b =>
    have ha := a.toNat_lt
    have hb := b.toNat_lt
    simp only [encode, List.mem_cons, List.not_mem_nil, or_false] at h
    rcases h with rfl | rfl | rfl | rfl
    · exact .inr ⟨_, by omega, rfl⟩
    · exact .inr ⟨_, by omega, rfl⟩
    · exact .inr ⟨_, by omega, rfl⟩
    · exact .inl rfl
  | case4 a b c' rest ih =>
    have ha := a.toNat_lt
    have hb := b.toNat_lt
    have hc := c'.toNat_lt
    simp only [encode, List.mem_cons] at h
    rcases h with rfl | rfl | rfl | rfl | hrest
    · exact .inr ⟨_, by omega, rfl⟩
    · exact .inr ⟨_, by omega, rfl⟩
    · exact .inr ⟨_, by omega, rfl⟩
    · exact .inr ⟨_, by omega, rfl⟩
    · exact ih hrest

/-- An encoding consists of groups of four characters. -/
theorem length_encode_mod (bytes : List UInt8) : (encode bytes).length % 4 = 0 := by
  induction bytes using encode.induct with
  | case1 => rfl
  | case2 a => simp [encode]
  | case3 a b => simp [encode]
  | case4 a b c rest ih =>
    simp only [encode, List.length_cons]
    omega

/-- Padding does not come first. -/
theorem head_encode (bytes : List UInt8) : (encode bytes).head? ≠ some '=' := by
  have hdigit {n : Nat} (hn : n < 64) : digitChar n ≠ '=' := ne_mark_of_digit? (digit?_digitChar n hn)
  have hfirst (a : UInt8) : digitChar (a.toNat / 4) ≠ '=' := hdigit (by have := a.toNat_lt; omega)
  cases bytes using encode.induct with
  | case1 => exact nofun
  | case2 a => exact fun h ↦ hfirst a (Option.some.inj h)
  | case3 a b => exact fun h ↦ hfirst a (Option.some.inj h)
  | case4 a b c rest => exact fun h ↦ hfirst a (Option.some.inj h)

/-- Strict decoding gives back what was encoded. -/
theorem decode_encode (bytes : List UInt8) : decode (encode bytes) = .ok bytes := by
  unfold decode
  split
  · next heq => exact absurd (congrArg List.head? heq) (head_encode bytes)
  · exact decodeFrom_encode bytes

/-! ## Texts without padding -/

theorem padded_push (g : Group) (d : Nat) : (g.push d).2.padded = g.padded := by
  unfold Group.push
  split <;> rfl

theorem exists_of_decodeFrom_cons (hc : c ≠ '=') (hg : g.padded = false)
    (h : decodeFrom true g (c :: rest) = .ok bytes) :
    ∃ d more, digit? c = some d ∧ decodeFrom true (g.push d).2 rest = .ok more := by
  cases hd : digit? c with
  | none =>
    rw [decodeFrom, hd] at h
    · cases h
    · exact hc
  | some d =>
    rw [decodeFrom_digit hd hg] at h
    rcases hpush : g.push d with ⟨_ | b, g'⟩
    · rw [hpush] at h
      exact ⟨d, bytes, rfl, by rw [hpush]; exact h⟩
    · simp only [hpush] at h
      cases hmore : decodeFrom true g' rest with
      | ok more => exact ⟨d, more, rfl, by rw [hpush]; exact hmore⟩
      | error fault =>
        rw [hmore] at h
        cases h

/-- What is decoded without padding consists of digits. -/
theorem exists_digit (hs : '=' ∉ s) (hg : g.padded = false)
    (h : decodeFrom true g s = .ok bytes) : ∀ c ∈ s, ∃ d, digit? c = some d := by
  induction s generalizing g bytes with
  | nil => exact fun c hc ↦ absurd hc List.not_mem_nil
  | cons c rest ih =>
    rw [List.mem_cons, not_or] at hs
    obtain ⟨d, more, hd, hmore⟩ := exists_of_decodeFrom_cons (Ne.symm hs.1) hg h
    exact List.forall_mem_cons.mpr ⟨⟨d, hd⟩, ih hs.2 ((padded_push g d).trans hg) hmore⟩

/-- Bytes whose digits are these are written by them. -/
theorem encode_group (h₁ : digit? c₁ = some d₁) (h₂ : digit? c₂ = some d₂)
    (h₃ : digit? c₃ = some d₃) (h₄ : digit? c₄ = some d₄) (more : List UInt8) :
    encode (UInt8.ofNat (d₁ * 4 + d₂ / 16) :: UInt8.ofNat (d₂ % 16 * 16 + d₃ / 4) ::
      UInt8.ofNat (d₃ % 4 * 64 + d₄) :: more) = c₁ :: c₂ :: c₃ :: c₄ :: encode more := by
  obtain ⟨hd₁, rfl⟩ := digitChar_of_digit? h₁
  obtain ⟨hd₂, rfl⟩ := digitChar_of_digit? h₂
  obtain ⟨hd₃, rfl⟩ := digitChar_of_digit? h₃
  obtain ⟨hd₄, rfl⟩ := digitChar_of_digit? h₄
  have hbyte {n : Nat} (h : n < 256) : (UInt8.ofNat n).toNat = n := UInt8.toNat_ofNat_of_lt' h
  have ha := hbyte (show d₁ * 4 + d₂ / 16 < 256 by omega)
  have hb := hbyte (show d₂ % 16 * 16 + d₃ / 4 < 256 by omega)
  have hc := hbyte (show d₃ % 4 * 64 + d₄ < 256 by omega)
  have hfirst : (d₁ * 4 + d₂ / 16) / 4 = d₁ := by omega
  have hsecond : (d₁ * 4 + d₂ / 16) % 4 * 16 + (d₂ % 16 * 16 + d₃ / 4) / 16 = d₂ := by omega
  have hthird : (d₂ % 16 * 16 + d₃ / 4) % 16 * 4 + (d₃ % 4 * 64 + d₄) / 64 = d₃ := by omega
  have hfourth : (d₃ % 4 * 64 + d₄) % 64 = d₄ := by omega
  rw [encode, ha, hb, hc, hfirst, hsecond, hthird, hfourth]

/-- A text without padding that is decoded is the encoding of what it gives. -/
theorem eq_encode_of_decodeFrom {s : List Char} {bytes : List UInt8} (hs : '=' ∉ s)
    (h : decodeFrom true .empty s = .ok bytes) : s = encode bytes := by
  -- Only whole groups are decoded, so the text is taken apart group by group.
  have hdigit := exists_digit hs rfl h
  match s with
  | [] =>
    cases h
    rfl
  | [c₁] =>
    obtain ⟨d₁, h₁⟩ := hdigit c₁ (by simp)
    rw [decodeFrom_first h₁] at h
    cases h
  | [c₁, c₂] =>
    obtain ⟨d₁, h₁⟩ := hdigit c₁ (by simp)
    obtain ⟨d₂, h₂⟩ := hdigit c₂ (by simp)
    rw [decodeFrom_first h₁, decodeFrom_second h₂] at h
    cases h
  | [c₁, c₂, c₃] =>
    obtain ⟨d₁, h₁⟩ := hdigit c₁ (by simp)
    obtain ⟨d₂, h₂⟩ := hdigit c₂ (by simp)
    obtain ⟨d₃, h₃⟩ := hdigit c₃ (by simp)
    rw [decodeFrom_first h₁, decodeFrom_second h₂, decodeFrom_third h₃] at h
    cases h
  | c₁ :: c₂ :: c₃ :: c₄ :: rest =>
    obtain ⟨d₁, h₁⟩ := hdigit c₁ (by simp)
    obtain ⟨d₂, h₂⟩ := hdigit c₂ (by simp)
    obtain ⟨d₃, h₃⟩ := hdigit c₃ (by simp)
    obtain ⟨d₄, h₄⟩ := hdigit c₄ (by simp)
    have hrest : '=' ∉ rest := fun hmem ↦ hs (by simp [hmem])
    rw [decodeFrom_group h₁ h₂ h₃ h₄] at h
    cases hmore : decodeFrom true .empty rest with
    | error fault =>
      rw [hmore] at h
      cases h
    | ok more =>
      rw [hmore] at h
      cases h
      rw [encode_group h₁ h₂ h₃ h₄, ← eq_encode_of_decodeFrom hrest hmore]

/-- Of the texts without padding only the encoding of some bytes is decoded to them. -/
theorem eq_encode_of_decode (hs : '=' ∉ s) (h : decode s = .ok bytes) : s = encode bytes := by
  apply eq_encode_of_decodeFrom hs
  unfold decode at h
  split at h
  · cases h
  · exact h

end VpcMachines.Text.Base64
