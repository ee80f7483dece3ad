import VpcMachines.Proofs.Text.Halves
import VpcMachines.Text.Utf8

/-!
# Texts survive their encoding

The strict decoder gives back what was encoded, character by character: a lead byte begins the sequence
that its continuation bytes finish, with six more bits of the code point each. Where the strict decoder
gives a text, the lossy one gives the same.
-/

namespace VpcMachines.Text.Utf8

variable {p : Pending} {b : UInt8} {rest : List UInt8} {chars : List Char} {v position : Nat}

theorem toNat_ofNat {n : Nat} (h : n < 256) : (UInt8.ofNat n).toNat = n := by
  simp only [UInt8.toNat_ofNat']
  omega

/-- A byte with the last six bits of a number. -/
def continuation (n : Nat) : UInt8 := UInt8.ofNat (n % 64 + 128)

theorem toNat_continuation (n : Nat) : (continuation n).toNat = n % 64 + 128 :=
  toNat_ofNat (by omega)

/-- A sequence may go on with these bits of a number. -/
structure Pending.Fits (p : Pending) (v : Nat) : Prop where
  low : p.low.toNat ≤ v % 64 + 128
  high : v % 64 + 128 ≤ p.high.toNat
  value : p.value = v / 64

theorem accepts_iff : p.accepts b = true ↔ p.low.toNat ≤ b.toNat ∧ b.toNat ≤ p.high.toNat := by
  simp only [Pending.accepts, Bool.and_eq_true, decide_eq_true_eq, UInt8.le_iff_toNat_le]

theorem Pending.Fits.accepts (h : p.Fits v) : p.accepts (continuation v) = true := by
  have hbyte : (continuation v).toNat = v % 64 + 128 := toNat_continuation v
  refine (accepts_iff (b := continuation v)).mpr ⟨?_, ?_⟩
  · rw [hbyte]
    exact h.low
  · rw [hbyte]
    exact h.high

theorem Pending.Fits.extend (h : p.Fits v) : p.extend (continuation v) = v := by
  have hbyte : (continuation v).toNat = v % 64 + 128 := toNat_continuation v
  have hvalue : p.value = v / 64 := h.value
  unfold Pending.extend
  omega

/-- Behind the first continuation byte, all others may go on. -/
theorem Pending.Fits.advance (h : p.Fits (v / 64)) : (p.advance (continuation (v / 64))).Fits v := by
  have hlow : (0x80 : UInt8).toNat = 128 := rfl
  have hhigh : (0xBF : UInt8).toNat = 191 := rfl
  refine ⟨?_, ?_, ?_⟩
  · simp only [Pending.advance, hlow]
    omega
  · simp only [Pending.advance, hhigh]
    omega
  · exact h.extend

/-- Bytes that are decoded to these characters, wherever they stand. -/
def Decodes (bytes : List UInt8) (chars : List Char) : Prop :=
  ∀ position, decodeFrom position none bytes = .ok chars

theorem decode_one (h : p.Fits v) (hmissing : p.missing = 0) (hrest : Decodes rest chars) :
    decodeFrom position (some p) (continuation v :: rest) = .ok (Char.ofNat v :: chars) := by
  rw [decodeFrom]
  simp only [h.accepts, hmissing, if_true, h.extend, hrest (position + 1)]
  rfl

theorem decode_two (h : p.Fits (v / 64)) (hmissing : p.missing = 1) (hrest : Decodes rest chars) :
    decodeFrom position (some p) (continuation (v / 64) :: continuation v :: rest) =
      .ok (Char.ofNat v :: chars) := by
  rw [decodeFrom]
  simp only [h.accepts, hmissing, if_true, if_false, Nat.one_ne_zero]
  exact decode_one h.advance (by rw [Pending.advance, hmissing]) hrest

theorem decode_three (h : p.Fits (v / 64 / 64)) (hmissing : p.missing = 2)
    (hrest : Decodes rest chars) :
    decodeFrom position (some p)
      (continuation (v / 64 / 64) :: continuation (v / 64) :: continuation v :: rest) =
      .ok (Char.ofNat v :: chars) := by
  rw [decodeFrom]
  simp only [h.accepts, hmissing, if_true, if_false, Nat.succ_ne_zero]
  exact decode_two h.advance (by rw [Pending.advance, hmissing]) hrest

theorem lead_eq (position : Nat) (b : UInt8) :
    lead position b =
      if b.toNat < 0x80 then .char (Char.ofNat b.toNat)
      else if b.toNat < 0xC2 then .invalid
      else if b.toNat < 0xE0 then .begins ⟨position, b, 1, 0, 0x80, 0xBF, b.toNat - 0xC0⟩
      else if b.toNat < 0xF0 then
        .begins ⟨position, b, 1, 1, if b.toNat = 0xE0 then 0xA0 else 0x80,
          if b.toNat = 0xED then 0x9F else 0xBF, b.toNat - 0xE0⟩
      else if b.toNat < 0xF5 then
        .begins ⟨position, b, 1, 2, if b.toNat = 0xF0 then 0x90 else 0x80,
          if b.toNat = 0xF4 then 0x8F else 0xBF, b.toNat - 0xF0⟩
      else .invalid := by
  simp only [lead, UInt8.lt_iff_toNat_lt, ← UInt8.toNat_inj]
  rfl

theorem decodeFrom_begins (h : lead position b = .begins p) :
    decodeFrom position none (b :: rest) = decodeFrom (position + 1) (some p) rest := by
  rw [decodeFrom]
  simp only [h]

/-! ## Sequences by their length -/

theorem Decodes.short (hrest : Decodes rest chars) (h : v < 0x80) :
    Decodes (UInt8.ofNat v :: rest) (Char.ofNat v :: chars) := by
  intro position
  have hb : (UInt8.ofNat v).toNat = v := toNat_ofNat (by omega)
  have hlead : lead position (UInt8.ofNat v) = .char (Char.ofNat v) := by
    rw [lead_eq, hb, if_pos h]
  rw [decodeFrom]
  simp only [hlead, hrest (position + 1)]
  rfl

theorem Decodes.pair (hrest : Decodes rest chars) (hleast : 0x80 ≤ v) (hmost : v < 0x800) :
    Decodes (UInt8.ofNat (v / 64 + 192) :: continuation v :: rest) (Char.ofNat v :: chars) := by
  intro position
  have hb : (UInt8.ofNat (v / 64 + 192)).toNat = v / 64 + 192 := toNat_ofNat (by omega)
  have hlead := lead_eq position (UInt8.ofNat (v / 64 + 192))
  rw [hb, if_neg (by omega), if_neg (by omega), if_pos (by omega), Nat.add_sub_cancel] at hlead
  rw [decodeFrom_begins hlead]
  refine decode_one ⟨?_, ?_, rfl⟩ rfl hrest
  · change 128 ≤ _
    omega
  · change _ ≤ 191
    omega

theorem Decodes.triple (hrest : Decodes rest chars) (hleast : 0x800 ≤ v) (hmost : v < 0x10000)
    (hvalid : v < 0xD800 ∨ 0xDFFF < v) :
    Decodes (UInt8.ofNat (v / 64 / 64 + 224) :: continuation (v / 64) :: continuation v :: rest)
      (Char.ofNat v :: chars) := by
  intro position
  have hb : (UInt8.ofNat (v / 64 / 64 + 224)).toNat = v / 64 / 64 + 224 := toNat_ofNat (by omega)
  have hlead := lead_eq position (UInt8.ofNat (v / 64 / 64 + 224))
  rw [hb, if_neg (by omega), if_neg (by omega), if_neg (by omega), if_pos (by omega),
    Nat.add_sub_cancel] at hlead
  rw [decodeFrom_begins hlead]
  -- The first continuation byte is kept from codes that are too small, and from halves of pairs.
  refine decode_two ⟨?_, ?_, rfl⟩ rfl hrest
  · split
    · change 160 ≤ _
      omega
    · change 128 ≤ _
      omega
  · change _ ≤ (if v / 64 / 64 + 224 = 0xED then (0x9F : UInt8) else 0xBF).toNat
    split
    · change _ ≤ 159
      omega
    · change _ ≤ 191
      omega

theorem Decodes.quadruple (hrest : Decodes rest chars) (hleast : 0x10000 ≤ v)
    (hmost : v < 0x110000) :
    Decodes (UInt8.ofNat (v / 64 / 64 / 64 + 240) :: continuation (v / 64 / 64) ::
      continuation (v / 64) :: continuation v :: rest) (Char.ofNat v :: chars) := by
  intro position
  have hb : (UInt8.ofNat (v / 64 / 64 / 64 + 240)).toNat = v / 64 / 64 / 64 + 240 :=
    toNat_ofNat (by omega)
  have hlead := lead_eq position (UInt8.ofNat (v / 64 / 64 / 64 + 240))
  rw [hb, if_neg (by omega), if_neg (by omega), if_neg (by omega), if_neg (by omega),
    if_pos (by omega), Nat.add_sub_cancel] at hlead
  rw [decodeFrom_begins hlead]
  refine decode_three ⟨?_, ?_, rfl⟩ rfl hrest
  · split
    · change 144 ≤ _
      omega
    · change 128 ≤ _
      omega
  · change _ ≤ (if v / 64 / 64 / 64 + 240 = 0xF4 then (0x8F : UInt8) else 0xBF).toNat
    split
    · change _ ≤ 143
      omega
    · change _ ≤ 191
      omega

theorem utf8EncodeChar_eq (c : Char) :
    String.utf8EncodeChar c =
      if c.toNat ≤ 0x7F then [UInt8.ofNat c.toNat]
      else if c.toNat ≤ 0x7FF then [UInt8.ofNat (c.toNat / 64 + 192), continuation c.toNat]
      else if c.toNat ≤ 0xFFFF then
        [UInt8.ofNat (c.toNat / 64 / 64 + 224), continuation (c.toNat / 64), continuation c.toNat]
      else
        [UInt8.ofNat (c.toNat / 64 / 64 / 64 + 240), continuation (c.toNat / 64 / 64),
          continuation (c.toNat / 64), continuation c.toNat] := by
  have hmost : c.toNat < 0x110000 := by
    rcases c.valid with h | ⟨_, h⟩
    · exact Nat.lt_trans h (by decide)
    · exact h
  have hv : c.val.toNat = c.toNat := rfl
  have hsquare : c.toNat / 4096 = c.toNat / 64 / 64 := by omega
  have hcube : c.toNat / 262144 = c.toNat / 64 / 64 / 64 := by omega
  simp only [String.utf8EncodeChar, hv, hsquare, hcube, continuation]
  split
  · rfl
  split
  · rw [Nat.mod_eq_of_lt (show c.toNat / 64 < 32 by omega)]
  split
  · rw [Nat.mod_eq_of_lt (show c.toNat / 64 / 64 < 16 by omega)]
  · rw [Nat.mod_eq_of_lt (show c.toNat / 64 / 64 / 64 < 8 by omega)]

/-! ## Texts -/

/-- The bytes of a character are decoded to it. -/
theorem Decodes.utf8EncodeChar (hrest : Decodes rest chars) (c : Char) :
    Decodes (String.utf8EncodeChar c ++ rest) (c :: chars) := by
  have hvalid : c.toNat < 0xD800 ∨ 0xDFFF < c.toNat ∧ c.toNat < 0x110000 := c.valid
  have hback : Char.ofNat c.toNat = c := Char.ofNat_toNat c
  suffices hdecode : Decodes (String.utf8EncodeChar c ++ rest) (Char.ofNat c.toNat :: chars) by
    rwa [hback] at hdecode
  rw [utf8EncodeChar_eq]
  split
  · exact hrest.short (by omega)
  split
  · exact hrest.pair (by omega) (by omega)
  split
  · exact hrest.triple (by omega) (by omega) (by omega)
  · exact hrest.quadruple (by omega) (by omega)

theorem decodes_encode (s : String) : Decodes (encode s) s.toList := by
  rw [encode]
  induction s.toList with
  | nil => exact fun _ ↦ rfl
  | cons c chars ih => exact ih.utf8EncodeChar c

/-- A text is decoded to what was encoded. -/
theorem decode_encode (s : String) : decode (encode s) = .ok s := by
  rw [decode, decodes_encode s 0]
  exact congrArg Except.ok String.ofList_toList

/-! ## Texts as they are kept -/

theorem unencodableFrom_chars (borne : Half → Bool) (position : Nat) (run : List Half)
    (chars : List Char) : unencodableFrom borne position run (chars.map .char) = none := by
  induction chars generalizing position run with
  | nil => rfl
  | cons c chars ih => exact ih (position + 1) []

theorem flatMap_letterBytes (chars : List Char) :
    (chars.map .char).flatMap letterBytes = chars.flatMap String.utf8EncodeChar := by
  rw [List.flatMap_map]
  rfl

/-- Every text of characters has its bytes. -/
theorem encodeWhole_kept (s : String) : encodeWhole (kept s) = .ok (encode s) := by
  rw [encodeWhole, letters_kept, unencodableFrom_chars]
  exact congrArg Except.ok (flatMap_letterBytes s.toList)

/-- A text without halves consists of characters. -/
theorem exists_chars_of_unencodableFrom {position : Nat} {run : List Half} {l : List Letter}
    (h : unencodableFrom (fun _ ↦ false) position run l = none) :
    ∃ chars : List Char, l = chars.map .char := by
  induction l generalizing position run with
  | nil => exact ⟨[], rfl⟩
  | cons letter rest ih =>
    cases letter with
    | char c =>
      obtain ⟨chars, rfl⟩ := ih h
      exact ⟨c :: chars, rfl⟩
    | half => cases h

@[simp]
theorem decodeWhole_eq_error_iff {bytes : List UInt8} {fault : Fault} :
    decodeWhole bytes = .error fault ↔ decode bytes = .error fault := by
  rw [decodeWhole]
  cases decode bytes <;> simp [Except.map]

/-- A text that has bytes is what these are decoded to. -/
theorem decodeWhole_of_encodeWhole {text : String} {bytes : List UInt8}
    (h : encodeWhole text = .ok bytes) : decodeWhole bytes = .ok text := by
  unfold encodeWhole at h
  split at h
  · next hnone =>
    obtain ⟨chars, hchars⟩ := exists_chars_of_unencodableFrom hnone
    cases h
    have hbytes : (letters text.toList).flatMap letterBytes = encode (String.ofList chars) := by
      rw [hchars, flatMap_letterBytes, encode, String.toList_ofList]
    rw [decodeWhole, hbytes, decode_encode]
    exact congrArg Except.ok (kept_of_letters hchars)
  · cases h

/-! ## The lossy decoder -/

namespace Pending

/-- The sequence without its place, which the lossy decoder does not know. -/
def unplaced (p : Pending) : Pending := { p with start := 0 }

theorem unplaced_accepts (p : Pending) (b : UInt8) : p.unplaced.accepts b = p.accepts b := rfl

theorem unplaced_missing (p : Pending) : p.unplaced.missing = p.missing := rfl

theorem unplaced_extend (p : Pending) (b : UInt8) : p.unplaced.extend b = p.extend b := rfl

theorem unplaced_advance (p : Pending) (b : UInt8) :
    p.unplaced.advance b = (p.advance b).unplaced := rfl

end Pending

def Lead.unplaced : Lead → Lead
  | .begins p => .begins p.unplaced
  | other => other

theorem unplaced_lead (position : Nat) (b : UInt8) : (lead position b).unplaced = lead 0 b := by
  simp only [lead_eq, apply_ite Lead.unplaced]
  rfl

/-- Where the strict decoder gives characters, the lossy one gives the same. -/
theorem decodeLossyFrom_of_decodeFrom (pending : Option Pending) {bytes : List UInt8}
    (h : decodeFrom position pending bytes = .ok chars) :
    decodeLossyFrom (pending.map Pending.unplaced) bytes = chars := by
  induction bytes generalizing position pending chars with
  | nil =>
    cases pending with
    | none =>
      cases h
      rfl
    | some p => cases h
  | cons b rest ih =>
    have hcons {c : Char} (h : (decodeFrom (position + 1) none rest).map (c :: ·) = .ok chars) :
        c :: decodeLossyFrom none rest = chars := by
      cases hrest : decodeFrom (position + 1) none rest with
      | error fault =>
        rw [hrest] at h
        cases h
      | ok more =>
        rw [hrest] at h
        cases h
        exact congrArg (c :: ·) (ih none hrest)
    cases pending with
    | none =>
      rw [decodeFrom] at h
      rw [Option.map_none, decodeLossyFrom, ← unplaced_lead position b]
      cases hlead : lead position b with
      | char c =>
        rw [hlead] at h
        exact hcons h
      | begins p =>
        rw [hlead] at h
        exact ih (some p) h
      | invalid =>
        rw [hlead] at h
        cases h
    | some p =>
      rw [decodeFrom] at h
      rw [Option.map_some, decodeLossyFrom, p.unplaced_accepts, p.unplaced_missing,
        p.unplaced_extend, p.unplaced_advance]
      split at h
      · next haccepted =>
        rw [if_pos haccepted]
        split at h
        · next hlast =>
          rw [if_pos hlast]
          exact hcons h
        · next hmore =>
          rw [if_neg hmore]
          exact ih (some (p.advance b)) h
      · cases h

/-- The lossy decoder gives back what was encoded as well. -/
theorem decodeLossy_encode (s : String) : decodeLossy (encode s) = s := by
  have hchars : decodeLossyFrom none (encode s) = s.toList :=
    decodeLossyFrom_of_decodeFrom none (decodes_encode s 0)
  rw [decodeLossy, hchars, String.ofList_toList]

end VpcMachines.Text.Utf8
