import Mathlib.Data.List.TakeDrop
import VpcMachines.Link.Query
import VpcMachines.Proofs.Text.Split
import VpcMachines.Proofs.Text.Utf8

/-!
# Values that links carry

A link carries a value in its query if one field gives the value, escaped in any of the allowed ways, to
a name that no other field has. Reading the link gives back exactly this value (`Carries.value?_eq`):
the parts of the link are told apart at their marks, and escapes stand for the bytes of the value.
-/

namespace VpcMachines.Link

open Text

/-! ## Escaped values -/

/-- Bytes, each written as a percent sign with two hexadecimal digits of either case. -/
inductive EscapedBytes : List Char → List UInt8 → Prop where
  | nil : EscapedBytes [] []
  | cons {a b : Char} {high low : Nat} {written : List Char} {bytes : List UInt8}
      (ha : hexDigit? a = some high) (hb : hexDigit? b = some low)
      (others : EscapedBytes written bytes) :
      EscapedBytes ('%' :: a :: b :: written) (UInt8.ofNat (high * 16 + low) :: bytes)

/-- Characters that have a meaning in a query and never stand for themselves. -/
def isReserved (c : Char) : Bool := c == '%' || c == '+' || c == '&' || c == '#'

/-- The ways to write a text in a query, letter by letter. A character is written as the bytes that encode
it, or as it is unless it is reserved, and a blank may be written as a plus sign. -/
inductive Escaped : List Letter → List Letter → Prop where
  | nil : Escaped [] []
  | plain {c : Char} {written s : List Letter} (hc : isReserved c = false)
      (others : Escaped written s) : Escaped (.char c :: written) (.char c :: s)
  | half (h : Half) {written s : List Letter} (others : Escaped written s) :
      Escaped (.half h :: written) (.half h :: s)
  | plus {written s : List Letter} (others : Escaped written s) :
      Escaped (.char '+' :: written) (.char ' ' :: s)
  | encoded {c : Char} {front : List Char} {written s : List Letter}
      (hbytes : EscapedBytes front (String.utf8EncodeChar c)) (others : Escaped written s) :
      Escaped (front.map .char ++ written) (.char c :: s)

variable {front run s : List Char} {letters₁ letters₂ : List Letter} {bytes : List UInt8}

theorem unescape_of_ne {c : Char} (hc : c ≠ '%') :
    unescape (c :: run) = String.utf8EncodeChar (if c = '+' then ' ' else c) ++ unescape run := by
  rw [unescape.eq_def]
  split
  · case h_1 h => cases h
  · case h_2 h =>
    cases h
    exact absurd rfl hc
  · case h_3 h =>
    cases h
    rfl

theorem EscapedBytes.unescape_append (h : EscapedBytes front bytes) (rest : List Char) :
    unescape (front ++ rest) = bytes ++ unescape rest := by
  induction h with
  | nil => rfl
  | cons ha hb others ih =>
    rw [List.cons_append, List.cons_append, List.cons_append, unescape, ha, hb]
    simp only [ih, List.cons_append]

/-- What is written stands for a text, whatever follows. -/
def StandsFor (run s : List Char) : Prop :=
  ∀ rest, unescape (run ++ rest) = s.flatMap String.utf8EncodeChar ++ unescape rest

theorem standsFor_nil : StandsFor [] [] := fun _ ↦ rfl

theorem StandsFor.concat {c : Char} (h : StandsFor run s)
    (hfront : ∀ rest, unescape (front ++ rest) = String.utf8EncodeChar c ++ unescape rest) :
    StandsFor (run ++ front) (s ++ [c]) := by
  intro rest
  rw [List.append_assoc, h, hfront, List.flatMap_append, List.append_assoc, List.flatMap_singleton]

theorem StandsFor.decode_eq (h : StandsFor run s) :
    (Utf8.decodeLossy (unescape run)).toList.map Letter.char = s.map .char := by
  have hbytes : unescape run = Utf8.encode (String.ofList s) := by
    have hrun := h []
    rw [List.append_nil] at hrun
    rw [hrun, Utf8.encode, String.toList_ofList]
    exact List.append_nil _
  rw [hbytes, Utf8.decodeLossy_encode, String.toList_ofList]

theorem clearFrom_append (run front : List Char) (rest : List Letter) :
    clearFrom run (front.map .char ++ rest) = clearFrom (run ++ front) rest := by
  induction front generalizing run with
  | nil => rw [List.append_nil, List.map_nil, List.nil_append]
  | cons c front ih =>
    rw [List.map_cons, List.cons_append, clearFrom, ih, List.append_assoc, List.singleton_append]

/-- However letters are written, they are read as they are. -/
theorem Escaped.clearFrom_eq (h : Escaped letters₁ letters₂) (hrun : StandsFor run s) :
    clearFrom run letters₁ = s.map .char ++ letters₂ := by
  induction h generalizing run s with
  | nil => rw [clearFrom, hrun.decode_eq, List.append_nil]
  | @plain c written others hc _ ih =>
    have hpercent : c ≠ '%' := by
      rintro rfl
      cases hc
    have hplus : c ≠ '+' := by
      rintro rfl
      cases hc
    have hnext : StandsFor (run ++ [c]) (s ++ [c]) :=
      hrun.concat fun rest ↦ by rw [List.singleton_append, unescape_of_ne hpercent, if_neg hplus]
    rw [clearFrom, ih hnext]
    simp
  | half h _ ih =>
    rw [clearFrom, hrun.decode_eq, ih standsFor_nil]
    rfl
  | plus _ ih =>
    have hnext : StandsFor (run ++ ['+']) (s ++ [' ']) :=
      hrun.concat fun rest ↦ by rw [List.singleton_append, unescape_of_ne (by decide), if_pos rfl]
    rw [clearFrom, ih hnext]
    simp
  | encoded hbytes _ ih =>
    rw [clearFrom_append, ih (hrun.concat hbytes.unescape_append)]
    simp

/-- A name or value is written as a text, letter by letter. -/
def Writes (written : List Char) (text : String) : Prop :=
  Escaped (letters written) (letters text.toList)

variable {written : List Char} {text : String}

theorem Writes.decodeField_eq (h : Writes written text) : decodeField written = text := by
  have hclear : clearFrom [] (letters written) = letters text.toList := h.clearFrom_eq standsFor_nil
  rw [decodeField, hclear, ofLetters_letters, String.ofList_toList]

theorem hexDigit?_ne {a : Char} {n : Nat} (h : hexDigit? a = some n) : a ≠ '&' ∧ a ≠ '#' := by
  constructor
  · rintro rfl
    cases h
  · rintro rfl
    cases h

theorem EscapedBytes.unmarked (h : EscapedBytes front bytes) : '&' ∉ front ∧ '#' ∉ front := by
  induction h with
  | nil => simp
  | cons ha hb others ih =>
    obtain ⟨ha₁, ha₂⟩ := hexDigit?_ne ha
    obtain ⟨hb₁, hb₂⟩ := hexDigit?_ne hb
    simp [ha₁.symm, ha₂.symm, hb₁.symm, hb₂.symm, ih]

theorem Escaped.unmarked (h : Escaped letters₁ letters₂) :
    .char '&' ∉ letters₁ ∧ .char '#' ∉ letters₁ := by
  induction h with
  | nil => simp
  | @plain c written s hc others ih =>
    have hamp : '&' ≠ c := by
      rintro rfl
      cases hc
    have hhash : '#' ≠ c := by
      rintro rfl
      cases hc
    simp [hamp, hhash, ih]
  | half h others ih => simp [ih]
  | plus others ih => simp [ih]
  | encoded hbytes others ih => simp [hbytes.unmarked, ih]

/-- What is written does not end a field or the query. -/
theorem Writes.unmarked (h : Writes written text) : '&' ∉ written ∧ '#' ∉ written := by
  obtain ⟨hamp, hhash⟩ := Escaped.unmarked h
  constructor
  · intro hmem
    exact hamp (char_mem_letters (by decide) (by decide) hmem)
  · intro hmem
    exact hhash (char_mem_letters (by decide) (by decide) hmem)

theorem Writes.ne_nil (h : Writes written text) (htext : text ≠ "") : written ≠ [] := by
  rintro rfl
  have hdecoded := h.decodeField_eq
  exact htext (hdecoded.symm.trans rfl)

/-! ## Links with a value -/

structure IsAuthority (host : List Char) : Prop where
  unended : ∀ c ∈ host, endsAuthority c = false
  brackets : checkBrackets host = .ok ()
  marks : checkMarks host = .ok ()

/-- A field whose name is another one. -/
structure IsOther (name : String) (field : List Char) : Prop where
  ampersand : '&' ∉ field
  hash : '#' ∉ field
  other : decodeField (cutAt '=' field).1 ≠ name

/-- The query gives a value to `start`, among fields with other names. -/
inductive Gives (value : String) : List Char → Prop where
  | intro {before after : List (List Char)} {written : List Char}
      (hbefore : ∀ field ∈ before, IsOther "start" field)
      (hafter : ∀ field ∈ after, IsOther "start" field) (hwritten : Writes written value) :
      Gives value (List.intercalate ['&'] (before ++ ("start=".toList ++ written) :: after))

/-- A link over https with a query that gives a value to `start`. A fragment may follow. -/
structure Carries (value link : String) : Prop where
  written : ∃ host path query fragment, IsAuthority host ∧ (path = [] ∨ path.head? = some '/') ∧
    '?' ∉ path ∧ '#' ∉ path ∧ Gives value query ∧ (fragment = [] ∨ fragment.head? = some '#') ∧
    link.toList = "https://".toList ++ host ++ path ++ '?' :: query ++ fragment
  unbroken : ∀ c ∈ link.toList, c ≠ '\t' ∧ c ≠ '\r' ∧ c ≠ '\n'

variable {value : String}

theorem readField_fst {field : List Char} {p : String × String} (h : readField field = some p) :
    p.1 = decodeField (cutAt '=' field).1 := by
  unfold readField at h
  split at h
  · case h_1 name c more hcut =>
    cases h
    rw [hcut]
  · cases h

theorem readField_start (h : Writes written value) (hvalue : value ≠ "") :
    readField ("start=".toList ++ written) = some ("start", value) := by
  have hcut : cutAt '=' ("start".toList ++ '=' :: written) = ("start".toList, some written) :=
    cutAt_mark (by decide)
  obtain ⟨c, more, rfl⟩ := List.exists_cons_of_ne_nil (h.ne_nil hvalue)
  change readField ("start".toList ++ '=' :: c :: more) = _
  have hname : decodeField "start".toList = "start" := by decide +kernel
  simp only [readField, hcut, hname, h.decodeField_eq]

theorem Gives.lookup_fields {query : List Char} (h : Gives value query) (hvalue : value ≠ "") :
    (fields query).lookup "start" = some value := by
  cases h with
  | @intro before after written hbefore hafter hwritten =>
  have hpieces : ∀ field ∈ before ++ ("start=".toList ++ written) :: after, '&' ∉ field := by
    simp only [List.forall_mem_append, List.forall_mem_cons]
    refine ⟨fun field hfield ↦ (hbefore field hfield).ampersand, ?_,
      fun field hfield ↦ (hafter field hfield).ampersand⟩
    rw [List.mem_append, not_or]
    exact ⟨by decide, hwritten.unmarked.1⟩
  rw [fields, splitAt_intercalate (by simp) hpieces, List.filterMap_append,
    List.filterMap_cons_some (readField_start hwritten hvalue)]
  refine List.lookup_eq_some_iff.mpr ⟨_, _, rfl, ?_⟩
  intro p hp
  obtain ⟨field, hfield, hread⟩ := List.mem_filterMap.mp hp
  rw [bne_iff_ne, readField_fst hread]
  exact (hbefore field hfield).other.symm

theorem Gives.hash {query : List Char} (h : Gives value query) : '#' ∉ query := by
  cases h with
  | @intro before after written hbefore hafter hwritten =>
  apply not_mem_intercalate (by decide)
  simp only [List.forall_mem_append, List.forall_mem_cons]
  refine ⟨fun field hfield ↦ (hbefore field hfield).hash, ?_,
    fun field hfield ↦ (hafter field hfield).hash⟩
  rw [List.mem_append, not_or]
  exact ⟨by decide, hwritten.unmarked.2⟩

theorem behindScheme_https (rest : List Char) :
    behindScheme ("https:".toList ++ rest) = rest := by
  have hcut : cutAt ':' ("https".toList ++ ':' :: rest) = ("https".toList, some rest) :=
    cutAt_mark (by decide)
  change behindScheme ("https".toList ++ ':' :: rest) = rest
  rw [behindScheme, hcut]
  exact if_pos (by decide)

theorem authority_eq {host rest : List Char} (hhost : ∀ c ∈ host, endsAuthority c = false)
    (hrest : ∃ c more, rest = c :: more ∧ endsAuthority c = true) :
    authority ('/' :: '/' :: (host ++ rest)) = (host, rest) := by
  obtain ⟨c, more, rfl, hc⟩ := hrest
  have hall : ∀ c ∈ host, (!endsAuthority c) = true := by
    intro c hc
    rw [hhost c hc]
    rfl
  rw [authority, List.span_eq_takeWhile_dropWhile, List.takeWhile_append_of_pos hall,
    List.dropWhile_append_of_pos hall]
  simp [hc]

theorem cutAt_fragment {front fragment : List Char} (hfront : '#' ∉ front)
    (hfragment : fragment = [] ∨ fragment.head? = some '#') :
    (cutAt '#' (front ++ fragment)).1 = front := by
  rw [cutAt_append hfront]
  rcases hfragment with rfl | hhead
  · exact List.append_nil front
  · obtain ⟨more, rfl⟩ := List.head?_eq_some_iff.mp hhead
    rw [cutAt, if_pos rfl, List.append_nil]

theorem queryOf_eq {host path query fragment : List Char} (hhost : IsAuthority host)
    (hpath : path = [] ∨ path.head? = some '/') (hquestion : '?' ∉ path) (hhash : '#' ∉ path)
    (hquery : '#' ∉ query) (hfragment : fragment = [] ∨ fragment.head? = some '#')
    (hunbroken : ∀ c ∈ "https://".toList ++ host ++ path ++ '?' :: query ++ fragment,
      c ≠ '\t' ∧ c ≠ '\r' ∧ c ≠ '\n') :
    queryOf ("https://".toList ++ host ++ path ++ '?' :: query ++ fragment) = .ok query := by
  have htidy : tidy ("https://".toList ++ host ++ path ++ '?' :: query ++ fragment) =
      "https:".toList ++ '/' :: '/' :: (host ++ (path ++ '?' :: query ++ fragment)) := by
    have hsame : "https://".toList ++ host ++ path ++ '?' :: query ++ fragment =
        "https:".toList ++ '/' :: '/' :: (host ++ (path ++ '?' :: query ++ fragment)) := by
      simp only [List.append_assoc]
      rfl
    rw [hsame] at hunbroken ⊢
    apply List.filter_eq_self.mpr
    intro c hc
    obtain ⟨htab, hreturn, hline⟩ := hunbroken c hc
    simp [htab, hreturn, hline]
  have hends : ∃ c more, path ++ '?' :: query ++ fragment = c :: more ∧ endsAuthority c = true := by
    rcases hpath with rfl | hhead
    · exact ⟨'?', _, rfl, rfl⟩
    · obtain ⟨more, rfl⟩ := List.head?_eq_some_iff.mp hhead
      exact ⟨'/', _, rfl, rfl⟩
  have hfront : '#' ∉ path ++ '?' :: query := by
    simp only [List.mem_append, List.mem_cons, not_or]
    exact ⟨hhash, by decide, hquery⟩
  simp only [queryOf, htidy, behindScheme_https, authority_eq hhost.unended hends,
    cutAt_fragment hfront hfragment, cutAt_mark hquestion, hhost.brackets, hhost.marks]
  rfl

theorem Carries.ne_empty {link : String} (h : Carries value link) : link ≠ "" := by
  rintro rfl
  obtain ⟨host, path, query, fragment, _, _, _, _, _, _, hlink⟩ := h.written
  cases hlink

/-- The value that a link carries is read from it. -/
theorem Carries.value?_eq {link : String} (h : Carries value link) (hvalue : value ≠ "") :
    value? link "start" = .ok (some value) := by
  obtain ⟨host, path, query, fragment, hhost, hpath, hquestion, hhash, hgives, hfragment, hlink⟩ :=
    h.written
  have hunbroken := h.unbroken
  rw [hlink] at hunbroken
  rw [Link.value?, hlink, queryOf_eq hhost hpath hquestion hhash hgives.hash hfragment hunbroken]
  exact congrArg Except.ok (hgives.lookup_fields hvalue)

end VpcMachines.Link
