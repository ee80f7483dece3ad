import Mathlib.Data.Bool.AllAny
import Mathlib.Data.List.Forall2
import VpcMachines.Proofs.Rest.Records

/-!
# Cursors in encoded queries

A query is encoded if only unreserved characters stand for themselves in it. Behind a host of plain ASCII
and a path, such a query gives back the names and values that it was made from, and the cursor of the next
page is the first value that is not empty and has the name `start` (`nextStart_inverts_encoding`). The
fields are told apart at their marks, which are never written for themselves, and line ends and tabs that
reading leaves out stand in the host or in the fragment only.
-/

namespace VpcMachines.Link

open Text

/-! ## Encoded texts -/

def isUnreserved (c : Char) : Bool :=
  c.isAlphanum || c == '-' || c == '.' || c == '_' || c == '~'

/-- A text as it is written if only unreserved characters stand for themselves. -/
structure Encoded (written : List Char) (text : String) : Prop where
  writes : Writes written text
  strict : ∀ c ∈ written, isUnreserved c = true ∨ c = '%' ∨ c = '+'

/-- A byte as a percent sign with two hexadecimal digits. -/
def percent (b : UInt8) : List Char :=
  ['%', Nat.digitChar (b.toNat / 16), Nat.digitChar (b.toNat % 16)]

/-- A text with the bytes of all characters written that are not unreserved. -/
def encodeField (s : List Char) : List Char :=
  s.flatMap fun c ↦ if isUnreserved c then [c] else (String.utf8EncodeChar c).flatMap percent

variable {written s : List Char} {text : String}

theorem hexDigit?_digitChar : ∀ n < 16, hexDigit? (Nat.digitChar n) = some n := by decide

theorem isUnreserved_digitChar : ∀ n < 16, isUnreserved (Nat.digitChar n) = true := by decide

theorem escapedBytes_percent (bytes : List UInt8) : EscapedBytes (bytes.flatMap percent) bytes := by
  induction bytes with
  | nil => exact .nil
  | cons b bytes ih =>
    have hb : b.toNat < 256 := b.toNat_lt
    have hbyte : UInt8.ofNat (b.toNat / 16 * 16 + b.toNat % 16) = b := by
      rw [Nat.div_add_mod', UInt8.ofNat_toNat]
    have hcons := EscapedBytes.cons (hexDigit?_digitChar (b.toNat / 16) (by omega))
      (hexDigit?_digitChar (b.toNat % 16) (by omega)) ih
    rwa [hbyte] at hcons

theorem not_isReserved {c : Char} (h : isUnreserved c = true) : isReserved c = false := by
  by_contra hreserved
  rw [Bool.not_eq_false] at hreserved
  simp only [isReserved, Bool.or_eq_true, beq_iff_eq] at hreserved
  rcases hreserved with ((rfl | rfl) | rfl) | rfl <;> cases h

theorem strict_encodeField (s : List Char) :
    ∀ c ∈ encodeField s, isUnreserved c = true ∨ c = '%' ∨ c = '+' := by
  intro c hc
  obtain ⟨source, -, hc⟩ := List.mem_flatMap.mp hc
  split at hc
  · case isTrue hsource =>
    rw [List.mem_singleton] at hc
    exact .inl (hc ▸ hsource)
  · obtain ⟨b, -, hc⟩ := List.mem_flatMap.mp hc
    have hb : b.toNat < 256 := b.toNat_lt
    simp only [percent, List.mem_cons, List.not_mem_nil, or_false] at hc
    rcases hc with rfl | rfl | rfl
    · exact .inr (.inl rfl)
    · exact .inl (isUnreserved_digitChar _ (by omega))
    · exact .inl (isUnreserved_digitChar _ (by omega))

theorem escaped_encodeField (s : List Char) :
    Escaped ((encodeField s).map .char) (s.map .char) := by
  induction s with
  | nil => exact .nil
  | cons c s ih =>
    rw [encodeField, List.flatMap_cons, List.map_append]
    by_cases hc : isUnreserved c = true
    · rw [if_pos hc]
      exact .plain (not_isReserved hc) ih
    · rw [if_neg hc]
      exact .encoded (escapedBytes_percent _) ih

/-- Every text of characters can be encoded. -/
theorem encoded_encodeField (s : String) : Encoded (encodeField s.toList) (kept s) := by
  have hmark : Half.mark ∉ encodeField s.toList := by
    intro hmem
    rcases strict_encodeField _ _ hmem with h | h | h <;> cases h
  refine ⟨?_, strict_encodeField _⟩
  rw [Writes, letters_of_not_mem hmark, letters_kept]
  exact escaped_encodeField s.toList

/-- No mark stands in what is encoded. -/
theorem Encoded.not_mem (h : Encoded written text) {mark : Char} (hmark : isUnreserved mark = false)
    (hpercent : mark ≠ '%') (hplus : mark ≠ '+') : mark ∉ written := by
  intro hmem
  rcases h.strict mark hmem with hunreserved | hc | hc
  · rw [hmark] at hunreserved
    cases hunreserved
  · exact hpercent hc
  · exact hplus hc

theorem Encoded.eq_nil_iff (h : Encoded written text) : written = [] ↔ text = "" := by
  constructor
  · intro hnil
    by_contra htext
    exact h.writes.ne_nil htext hnil
  · rintro rfl
    have hescaped : Escaped (letters written) [] := h.writes
    have hempty : letters written = [] := by
      generalize letters written = found at hescaped ⊢
      cases hescaped
      rfl
    rw [← ofLetters_letters written, hempty]
    rfl

/-! ## Encoded queries -/

/-- A field that gives a value to a name. -/
def EncodedField (field : List Char) (p : String × String) : Prop :=
  ∃ name value, field = name ++ '=' :: value ∧ Encoded name p.1 ∧ Encoded value p.2

variable {field : List Char} {p : String × String} {written : List (List Char)}
  {pairs : List (String × String)}

theorem EncodedField.not_mem (h : EncodedField field p) {mark : Char}
    (hmark : isUnreserved mark = false) (hpercent : mark ≠ '%') (hplus : mark ≠ '+')
    (hequals : mark ≠ '=') : mark ∉ field := by
  obtain ⟨name, value, rfl, hname, hvalue⟩ := h
  simp only [List.mem_append, List.mem_cons, not_or]
  exact ⟨hname.not_mem hmark hpercent hplus, hequals, hvalue.not_mem hmark hpercent hplus⟩

/-- A field counts unless its value is empty. -/
theorem EncodedField.readField_eq (h : EncodedField field p) :
    readField field = if p.2 ≠ "" then some p else none := by
  obtain ⟨name, value, rfl, hname, hvalue⟩ := h
  have hcut : cutAt '=' (name ++ '=' :: value) = (name, some value) :=
    cutAt_mark (hname.not_mem (by decide) (by decide) (by decide))
  cases value with
  | nil =>
    rw [if_neg (not_not.mpr (hvalue.eq_nil_iff.mp rfl))]
    simp only [readField, hcut]
  | cons c value =>
    have hfilled : p.2 ≠ "" := fun hempty ↦ List.cons_ne_nil c value (hvalue.eq_nil_iff.mpr hempty)
    rw [if_pos hfilled]
    simp only [readField, hcut, hname.writes.decodeField_eq, hvalue.writes.decodeField_eq]

theorem encodedField_encodeFields (pairs : List (String × String)) :
    List.Forall₂ EncodedField
      (pairs.map fun p ↦ encodeField p.1.toList ++ '=' :: encodeField p.2.toList)
      (pairs.map fun p ↦ (kept p.1, kept p.2)) := by
  rw [List.forall₂_map_left_iff, List.forall₂_map_right_iff, List.forall₂_same]
  intro p _
  exact ⟨_, _, rfl, encoded_encodeField _, encoded_encodeField _⟩

theorem not_mem_of_encoded (h : List.Forall₂ EncodedField written pairs) (mark : Char)
    (hmark : isUnreserved mark = false) (hpercent : mark ≠ '%') (hplus : mark ≠ '+')
    (hequals : mark ≠ '=') : ∀ field ∈ written, mark ∉ field := by
  have hboth : List.Forall₂ (fun field p ↦ mark ∉ field ∧ EncodedField field p) written pairs :=
    h.imp fun field p hfield ↦ ⟨hfield.not_mem hmark hpercent hplus hequals, hfield⟩
  exact ((List.forall₂_and_left _ _).mp hboth).1

theorem fields_eq (h : List.Forall₂ EncodedField written pairs) :
    fields (List.intercalate ['&'] written) = pairs.filter fun p ↦ p.2 ≠ "" := by
  have hread : written.filterMap readField = pairs.filter fun p ↦ p.2 ≠ "" := by
    induction h with
    | nil => rfl
    | @cons field p written pairs hfield others ih =>
      rw [List.filterMap_cons, hfield.readField_eq, List.filter_cons]
      by_cases hvalue : p.2 ≠ ""
      · simp [hvalue, ih]
      · simp [hvalue, ih]
  cases h with
  | nil => rfl
  | cons hfield others =>
    have hfree := not_mem_of_encoded (.cons hfield others) '&' rfl (by decide) (by decide) (by decide)
    rw [fields, splitAt_intercalate (List.cons_ne_nil _ _) hfree, hread]

/-- Among the fields that count, the first with a name is the first of all with that name and a value. -/
theorem lookup_filter (name : String) (pairs : List (String × String)) :
    (pairs.filter fun p ↦ p.2 ≠ "").lookup name =
      (pairs.find? fun p ↦ p.1 = name ∧ p.2 ≠ "").map Prod.snd := by
  induction pairs with
  | nil => rfl
  | cons p pairs ih =>
    obtain ⟨key, value⟩ := p
    rw [List.filter_cons, List.find?_cons]
    by_cases hvalue : value = ""
    · simpa [hvalue] using ih
    · by_cases hkey : key = name
      · simp [hvalue, hkey]
      · have hother : (name == key) = false := beq_eq_false_iff_ne.mpr (Ne.symm hkey)
        simpa [hvalue, hkey, List.lookup_cons, hother] using ih

/-! ## Links with an encoded query -/

/-- A link over https to a host of plain ASCII and a path, which takes up all that stands behind the host,
with the fields of a query. A fragment may follow. -/
structure Parts where
  host : List Char
  path : List Char
  written : List (List Char)
  fragment : List Char
  plain_host : ∀ c ∈ host, c.toNat < 0x80 ∧ c ≠ '[' ∧ c ≠ ']' ∧ endsAuthority c = false
  slash_path : path = [] ∨ path.head? = some '/'
  plain_path : ∀ c ∈ path, c ≠ '?' ∧ c ≠ '#' ∧ c ≠ '\t' ∧ c ≠ '\r' ∧ c ≠ '\n'
  hash_fragment : fragment = [] ∨ fragment.head? = some '#'

def Parts.query (l : Parts) : List Char := List.intercalate ['&'] l.written

def Parts.rest (l : Parts) : List Char := l.host ++ (l.path ++ '?' :: l.query) ++ l.fragment

def Parts.whole (l : Parts) : List Char := "https://".toList ++ l.rest

/-- A link whose query gives these values to these names. -/
def Encodes (pairs : List (String × String)) (link : String) : Prop :=
  ∃ l : Parts, List.Forall₂ EncodedField l.written pairs ∧ link.toList = l.whole

/-- Line ends and tabs are left out. -/
def unbroken (s : List Char) : List Char := s.filter fun c ↦ c != '\t' && c != '\r' && c != '\n'

theorem unbroken_append (front rest : List Char) :
    unbroken (front ++ rest) = unbroken front ++ unbroken rest := List.filter_append front rest

theorem unbroken_eq_self (h : ∀ c ∈ s, c ≠ '\t' ∧ c ≠ '\r' ∧ c ≠ '\n') : unbroken s = s := by
  apply List.filter_eq_self.mpr
  intro c hc
  obtain ⟨htab, hreturn, hline⟩ := h c hc
  simp [htab, hreturn, hline]

theorem unbroken_unbroken (s : List Char) : unbroken (unbroken s) = unbroken s := by
  simp [unbroken, List.filter_filter]

theorem of_mem_unbroken {c : Char} (h : c ∈ unbroken s) :
    c ∈ s ∧ c ≠ '\t' ∧ c ≠ '\r' ∧ c ≠ '\n' := by
  simpa [unbroken, and_assoc] using h

theorem tidy_https (rest : List Char) :
    tidy ("https://".toList ++ rest) = "https://".toList ++ unbroken rest := by
  have hfront : ("https://".toList ++ rest).dropWhile (fun c ↦ c.toNat ≤ 0x20) =
      "https://".toList ++ rest := List.dropWhile_cons_of_neg (by decide)
  rw [tidy, hfront, List.filter_append]
  rfl

theorem queryOf_congr {link link' : List Char} (h : tidy link = tidy link') :
    queryOf link = queryOf link' := by
  rw [queryOf, h, queryOf]

theorem isAuthority_of_ascii {host : List Char}
    (h : ∀ c ∈ host, c.toNat < 0x80 ∧ c ≠ '[' ∧ c ≠ ']' ∧ endsAuthority c = false) :
    IsAuthority host := by
  refine ⟨fun c hc ↦ (h c hc).2.2.2, ?_, ?_⟩
  · have hopening : host.contains '[' = false := by
      simpa using fun hc ↦ (h _ hc).2.1 rfl
    have hclosing : host.contains ']' = false := by
      simpa using fun hc ↦ (h _ hc).2.2.1 rfl
    rw [checkBrackets, hopening, hclosing]
  · have hplain : (host.any fun c ↦ disguisedMarks.contains c.toNat) = false := by
      rw [List.any_eq_false]
      intro c hc hmark
      have hlarge : ∀ code ∈ disguisedMarks, 0x80 ≤ code := by decide
      have hcode := hlarge c.toNat (List.contains_iff_mem.mp hmark)
      exact absurd (h c hc).1 (Nat.not_lt.mpr hcode)
    rw [checkMarks, hplain]
    rfl

theorem unbroken_fragment {fragment : List Char}
    (h : fragment = [] ∨ fragment.head? = some '#') :
    unbroken fragment = [] ∨ (unbroken fragment).head? = some '#' := by
  rcases h with rfl | hhead
  · exact .inl rfl
  · obtain ⟨more, rfl⟩ := List.head?_eq_some_iff.mp hhead
    exact .inr rfl

/-- Only the host and the fragment can hold what is left out. -/
theorem Parts.unbroken_rest (l : Parts) (h : List.Forall₂ EncodedField l.written pairs) :
    unbroken l.rest = unbroken l.host ++ (l.path ++ '?' :: l.query) ++ unbroken l.fragment := by
  have hfree (mark : Char) (hmark : isUnreserved mark = false) (hpercent : mark ≠ '%')
      (hplus : mark ≠ '+') (hequals : mark ≠ '=') (hjoin : mark ≠ '&') : mark ∉ l.query :=
    not_mem_intercalate hjoin (not_mem_of_encoded h mark hmark hpercent hplus hequals)
  have htab : '\t' ∉ l.query := hfree '\t' rfl (by decide) (by decide) (by decide) (by decide)
  have hreturn : '\r' ∉ l.query := hfree '\r' rfl (by decide) (by decide) (by decide) (by decide)
  have hline : '\n' ∉ l.query := hfree '\n' rfl (by decide) (by decide) (by decide) (by decide)
  have hfront : unbroken (l.path ++ '?' :: l.query) = l.path ++ '?' :: l.query := by
    apply unbroken_eq_self
    intro c hc
    rcases List.mem_append.mp hc with hc | hc
    · exact (l.plain_path c hc).2.2
    rcases List.mem_cons.mp hc with rfl | hc
    · decide
    · exact ⟨ne_of_mem_of_not_mem hc htab, ne_of_mem_of_not_mem hc hreturn,
        ne_of_mem_of_not_mem hc hline⟩
  rw [Parts.rest, unbroken_append, unbroken_append, hfront]

theorem Parts.queryOf_eq (l : Parts) (h : List.Forall₂ EncodedField l.written pairs) :
    queryOf l.whole = .ok l.query := by
  have hhash : '#' ∉ l.query := not_mem_intercalate (by decide)
    (not_mem_of_encoded h '#' rfl (by decide) (by decide) (by decide))
  have hhost : IsAuthority (unbroken l.host) :=
    isAuthority_of_ascii fun c hc ↦ l.plain_host c (of_mem_unbroken hc).1
  have hparts : "https://".toList ++ unbroken l.rest =
      "https://".toList ++ unbroken l.host ++ l.path ++ '?' :: l.query ++ unbroken l.fragment := by
    rw [l.unbroken_rest h]
    simp only [List.append_assoc]
  have hunbroken : ∀ c ∈ "https://".toList ++ unbroken l.rest, c ≠ '\t' ∧ c ≠ '\r' ∧ c ≠ '\n' := by
    intro c hc
    rcases List.mem_append.mp hc with hc | hc
    · have hscheme : ∀ c ∈ "https://".toList, c ≠ '\t' ∧ c ≠ '\r' ∧ c ≠ '\n' :=
        List.all_iff_forall_prop.mp (by decide)
      exact hscheme c hc
    · exact (of_mem_unbroken hc).2
  have htidy : tidy l.whole = tidy ("https://".toList ++ unbroken l.rest) := by
    rw [tidy_https, unbroken_unbroken]
    exact tidy_https l.rest
  calc
    queryOf l.whole
    _ = queryOf ("https://".toList ++ unbroken l.rest) := queryOf_congr htidy
    _ = .ok l.query := by
      rw [hparts] at hunbroken ⊢
      exact Link.queryOf_eq hhost l.slash_path (fun h ↦ (l.plain_path _ h).1 rfl)
        (fun h ↦ (l.plain_path _ h).2.1 rfl) hhash (unbroken_fragment l.hash_fragment) hunbroken

theorem Encodes.value?_eq {link : String} (h : Encodes pairs link) (name : String) :
    value? link name = .ok ((pairs.find? fun p ↦ p.1 = name ∧ p.2 ≠ "").map Prod.snd) := by
  obtain ⟨l, hwritten, hlink⟩ := h
  rw [Link.value?, hlink, l.queryOf_eq hwritten]
  exact congrArg Except.ok ((congrArg _ (fields_eq hwritten)).trans (lookup_filter name pairs))

theorem Encodes.ne_empty {link : String} (h : Encodes pairs link) : link ≠ "" := by
  rintro rfl
  obtain ⟨l, _, hlink⟩ := h
  cases hlink

end VpcMachines.Link

namespace VpcMachines.Rest

open Link (Encoded Encodes)

/-- However the fields of a query are encoded, the cursor of the next page is the first value that is not
empty and has the name `start`. -/
theorem nextStart_inverts_encoding :
    (∀ s : String, ∃ written, Encoded written (Text.kept s)) ∧
    ∀ (pairs : List (String × String)) (link : String) (fields members : List (String × Json)),
      Encodes pairs link → fields.lookup "next" = some (.object members) →
      members.lookup "href" = some (.text link) →
      nextStart (.object fields) =
        .ok ((pairs.find? fun p ↦ p.1 = "start" ∧ p.2 ≠ "").map Prod.snd) := by
  refine ⟨fun s ↦ ⟨_, Link.encoded_encodeField s⟩, ?_⟩
  intro pairs link fields members hlink hnext hhref
  exact nextStart_of_link hnext hhref hlink.ne_empty (hlink.value?_eq "start")

/-- A link with other fields, and an empty value in front of the cursor. -/
def crowdedLink : String :=
  "https://h:443/v1/images?limit=50&start=&start=%c3%a9%20%26%3d&start=b#start=c"

theorem encodes_crowdedLink :
    Encodes [("limit", "50"), ("start", ""), ("start", "é &="), ("start", "b")] crowdedLink := by
  let pairs := [("limit", "50"), ("start", ""), ("start", "é &="), ("start", "b")]
  have hkept : pairs.map (fun p ↦ (Text.kept p.1, Text.kept p.2)) = pairs := by decide +kernel
  have hfields := Link.encodedField_encodeFields pairs
  rw [hkept] at hfields
  refine ⟨⟨"h:443".toList, "/v1/images".toList, _, "#start=c".toList,
    List.all_iff_forall_prop.mp (by decide), .inr rfl, List.all_iff_forall_prop.mp (by decide),
    .inr rfl⟩, hfields, ?_⟩
  decide +kernel

theorem first_filled_start_of_crowdedLink :
    nextStart (.object [("next", .object [("href", .text crowdedLink)])]) = .ok (some "é &=") :=
  nextStart_inverts_encoding.2 _ crowdedLink _ _ encodes_crowdedLink rfl rfl

end VpcMachines.Rest
