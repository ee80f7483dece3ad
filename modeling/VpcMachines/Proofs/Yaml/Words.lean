import VpcMachines.Yaml.Scan

/-!
# Scanning words

A word consists of letters, digits and a few marks that mean nothing in YAML. Outside of flow
collections it is a plain scalar: in front of a colon it is a key, which belongs to the mapping around
it or opens one that is indented more (`tokensFrom_key`), and in the rest of a line it is a value
(`tokensFrom_value`). At the end of the text every open collection ends (`fetch_end`).

The lemmas about one token give the whole scan before and after it: its place, the text that is left,
the tokens with their number, the columns of the open collections, the start of a key, the flow
collections around it (none here), and whether a key may begin.
-/

namespace VpcMachines.Yaml

/-- Letters, digits, and marks that mean nothing in a plain scalar. -/
def isWordChar (c : Char) : Bool := c.isAlphanum || c == '+' || c == '/' || c == '='

/-- One or more characters of words. -/
structure IsWord (w : List Char) : Prop where
  ne_nil : w ≠ []
  plain : ∀ c ∈ w, isWordChar c = true

variable {c : Char} {w rest gap : List Char}

theorem IsWord.of_all (hw : w ≠ []) (h : w.all isWordChar = true) : IsWord w :=
  ⟨hw, List.all_eq_true.mp h⟩

theorem toNat_lt_of_isWordChar (h : isWordChar c = true) : c.toNat < 128 := by
  have hmost {most : UInt32} (h : c.val ≤ most) (hmost : most.toNat < 128) : c.toNat < 128 :=
    Nat.lt_of_le_of_lt (UInt32.le_iff_toNat_le.mp h) hmost
  simp only [isWordChar, Bool.or_eq_true, beq_iff_eq] at h
  rcases h with ((halphanum | rfl) | rfl) | rfl
  · rcases Bool.or_eq_true_iff.mp halphanum with halpha | hdigit
    · rcases Bool.or_eq_true_iff.mp halpha with hupper | hlower
      · exact hmost (of_decide_eq_true hupper).2 (by decide)
      · exact hmost (of_decide_eq_true (Bool.and_eq_true_iff.mp hlower).2) (by decide)
    · exact hmost (of_decide_eq_true (Bool.and_eq_true_iff.mp hdigit).2) (by decide)
  · decide
  · decide
  · decide

/-- A character of a word is neither a gap nor a mark at the front of a token. -/
theorem plain_of_isWordChar (h : isWordChar c = true) :
    isGapOrBreak c = false ∧ Scan.isIndicator c = false ∧ isAllowed c = true ∧
      c ≠ '\uFEFF' ∧ c ≠ '.' := by
  have hall : ∀ n < 128, isWordChar (Char.ofNat n) = true →
      isGapOrBreak (Char.ofNat n) = false ∧ Scan.isIndicator (Char.ofNat n) = false ∧
        isAllowed (Char.ofNat n) = true ∧ Char.ofNat n ≠ '\uFEFF' ∧ Char.ofNat n ≠ '.' := by
    decide +kernel
  have hc := hall c.toNat (toNat_lt_of_isWordChar h)
  rw [Char.ofNat_toNat] at hc
  exact hc h

theorem ne_of_isWordChar {x : Char} (h : isWordChar c = true) (hx : isWordChar x = false) :
    c ≠ x := by
  rintro rfl
  rw [h] at hx
  cases hx

theorem plainRun_word (h : ∀ c ∈ w, isWordChar c = true) (rest : List Char) :
    plainRun false (w ++ rest) = w ++ plainRun false rest := by
  induction w with
  | nil => rfl
  | cons c w ih =>
    obtain ⟨hc, hw⟩ := List.forall_mem_cons.mp h
    obtain ⟨hgap, hindicator, _⟩ := plain_of_isWordChar hc
    have hcolon : (c == ':') = false := beq_eq_false_iff_ne.mpr (ne_of_isWordChar hc rfl)
    rw [List.cons_append, plainRun, hgap, hcolon, ih hw]
    rfl

theorem isMark_of_ne {mark : Char} (h : c ≠ mark) : isMark mark (c :: rest) = false := by
  have hfirst : (c == mark) = false := beq_eq_false_iff_ne.mpr h
  unfold isMark
  split
  · next heq =>
    cases heq
    rw [hfirst]
    rfl
  · rfl

/-! ## Gaps -/

/-- Blanks and line ends. -/
def IsGap (gap : List Char) : Prop := ∀ c ∈ gap, c = ' ' ∨ c = '\n'

/-- The text is at a word, at a colon, or at its end. -/
def AtWord (s : List Char) : Prop := ∀ c ∈ s.head?, isWordChar c = true ∨ c = ':'

theorem AtWord.head (h : AtWord (c :: rest)) :
    isBreak c = false ∧ c ≠ ' ' ∧ c ≠ '#' ∧ c ≠ '-' ∧ c ≠ '.' := by
  rcases h c rfl with hc | rfl
  · obtain ⟨hgap, _⟩ := plain_of_isWordChar hc
    exact ⟨(Bool.or_eq_false_iff.mp hgap).2, ne_of_isWordChar hc rfl, ne_of_isWordChar hc rfl,
      ne_of_isWordChar hc rfl, ne_of_isWordChar hc rfl⟩
  · decide

theorem IsWord.atWord (hw : IsWord w) : AtWord (w ++ rest) := by
  obtain ⟨c, v, rfl⟩ := List.exists_cons_of_ne_nil hw.ne_nil
  rintro c ⟨⟩
  exact .inl (hw.plain c (List.mem_cons_self ..))

namespace Scan

theorem gapSize_word (h : AtWord rest) : gapSize false rest = (0, false) := by
  cases rest with
  | nil => rfl
  | cons c rest =>
    obtain ⟨hbreak, hblank, hcomment, _⟩ := h.head
    simp [gapSize, hbreak, hblank, hcomment]

theorem gapSize_gap (hgap : IsGap gap) (h : AtWord rest) :
    gapSize false (gap ++ rest) = (gap.length, gap.contains '\n') := by
  induction gap with
  | nil => exact gapSize_word h
  | cons c gap ih =>
    obtain ⟨rfl | rfl, hothers⟩ := List.forall_mem_cons.mp hgap
    · simp [gapSize, ih hothers, isBreak]
    · simp [gapSize, ih hothers, isBreak]

theorem head_gap_ne (hgap : IsGap gap) (h : AtWord rest) :
    (gap ++ rest).head? ≠ some '\uFEFF' := by
  cases gap with
  | nil =>
    intro hmark
    rcases h _ hmark with hc | hc <;> cases hc
  | cons c gap =>
    intro hmark
    cases Option.some.inj hmark
    rcases hgap _ (List.mem_cons_self ..) with h | h <;> cases h

theorem skipGap_gap {s : Scan} (hs : s.rest = gap ++ rest) (houter : s.outer = [])
    (hgap : IsGap gap) (h : AtWord rest) :
    s.skipGap =
      { s with
        place := gap.foldl Place.after s.place
        rest := rest
        keyAllowed := s.keyAllowed || gap.contains '\n' } := by
  have hmark : ¬(s.place.index = 0 ∧ s.rest.head? = some '\uFEFF') := by
    rw [hs]
    exact fun h' ↦ head_gap_ne hgap h h'.2
  have hsize : gapSize false s.rest = (gap.length, gap.contains '\n') := by
    rw [hs, gapSize_gap hgap h]
  have hflow : (s.advance gap.length).inFlow = false := by
    simp [inFlow, advance, houter]
  simp only [skipGap, hmark, if_false, hsize, hflow]
  cases hbreak : gap.contains '\n' with
  | false => simp [advance, hs]
  | true => simp [advance, hs]

theorem fetchAt_word (s : Scan) (hc : isWordChar c = true) :
    s.fetchAt c rest = s.fetchPlain := by
  obtain ⟨hgap, hindicator, _, _, hpoint⟩ := plain_of_isWordChar hc
  have hne {x : Char} (hx : isWordChar x = false) : c ≠ x := ne_of_isWordChar hc hx
  have hmark {mark : Char} (hx : isWordChar mark = false) : isMark mark (c :: rest) = false :=
    isMark_of_ne (hne hx)
  have hstarts : startsPlain s.inFlow c rest = true := by
    rw [startsPlain, hgap, hindicator]
    rfl
  have hother {x : Char} (hx : isWordChar x = false) : (c = x) = False := eq_false (hne hx)
  simp (disch := decide) only [fetchAt, hother, hmark, hstarts, false_and, Bool.false_eq_true,
    and_false, if_false, if_true]

/-! ## One token -/

variable {p q : Place} {tokens : List Token} {count : Nat} {indents : List Nat} {allowed : Bool}

/-- A block collection that is not indented more than this column stays open. -/
theorem closeDeeper_eq {s : Scan} {column : Nat} (h : ∀ i ∈ s.indents.head?, i ≤ column) :
    s.closeDeeper (some column) = s := by
  obtain ⟨place, rest, tokens, count, indents, start, outer, keyAllowed⟩ := s
  cases indents with
  | nil => simp [closeDeeper]
  | cons i indents =>
    have hi : ¬column < i := Nat.not_lt.mpr (h i rfl)
    simp [closeDeeper, hi]

theorem refresh_fresh {start : Option KeyStart} (h : ∀ k ∈ start, isStale p k = false) :
    refresh p start = .ok start := by
  cases start with
  | none => rfl
  | some k =>
    rw [refresh, h k rfl]
    rfl

/-- The next token is read behind the gap, where no collection ends. -/
theorem fetch_gap {start : Option KeyStart} (hgap : IsGap gap) (h : AtWord (c :: rest))
    (hq : gap.foldl Place.after p = q) (hin : ∀ i ∈ indents.head?, i ≤ q.column)
    (hstart : ∀ k ∈ start, isStale q k = false) :
    fetch ⟨p, gap ++ c :: rest, tokens, count, indents, start, [], allowed⟩ =
      fetchAt ⟨q, c :: rest, tokens, count, indents, start, [], allowed || gap.contains '\n'⟩
        c rest := by
  subst hq
  rw [fetch, skipGap_gap rfl rfl hgap h]
  simp only [dropStale, refresh_fresh hstart, List.mapM_nil, bind, Except.bind, pure, Except.pure]
  rw [closeDeeper_eq hin]

end Scan

/-! ## Plain scalars -/

theorem plainRun_nil_of_atGap (h : atGap rest = true) : plainRun false rest = [] := by
  cases rest with
  | nil => rfl
  | cons c rest =>
    rw [plainRun, show isGapOrBreak c = true from h]
    rfl

theorem plainRun_colon (h : atGap rest = true) : plainRun false (':' :: rest) = [] := by
  have hends : endsAtColon false rest = true := by
    cases rest with
    | nil => rfl
    | cons c rest =>
      rw [endsAtColon, show isGapOrBreak c = true from h]
      rfl
  rw [plainRun, hends]
  rfl

/-- A word ends in front of a colon. -/
theorem Plain.read_key {fuel indent : Nat} (hw : IsWord w) (hrest : atGap rest = true) :
    Plain.read false indent (fuel + 1) (w ++ ':' :: rest) = ⟨w, w.length, false⟩ := by
  have hrun : plainRun false (w ++ ':' :: rest) = w := by
    rw [plainRun_word hw.plain, plainRun_colon hrest, List.append_nil]
  have hsome : w.isEmpty = false := List.isEmpty_eq_false_iff.mpr hw.ne_nil
  simp [Plain.read, hrun, hsome, Between.read, isBreak]

theorem plainBreaks_word (h : AtWord rest) : plainBreaks rest = ([], 0, false) := by
  cases rest with
  | nil => rfl
  | cons c rest =>
    obtain ⟨hbreak, hblank, _⟩ := h.head
    simp [plainBreaks, hbreak, hblank]

theorem isSeparator_word (h : AtWord rest) : isSeparator rest = false := by
  cases rest with
  | nil => rfl
  | cons c rest =>
    obtain ⟨_, _, _, hdash, hpoint⟩ := h.head
    rw [isSeparator, isMark_of_ne hdash, isMark_of_ne hpoint]
    rfl

/-- A word ends with its line, if the next line is indented less. -/
theorem Plain.read_line {fuel indent : Nat} (hw : IsWord w) (hrest : AtWord rest)
    (hindent : 0 < indent) :
    Plain.read false indent (fuel + 1) (w ++ '\n' :: rest) = ⟨w, w.length + 1, true⟩ := by
  have hrun : plainRun false (w ++ '\n' :: rest) = w := by
    rw [plainRun_word hw.plain, plainRun_nil_of_atGap rfl, List.append_nil]
  have hsome : w.isEmpty = false := List.isEmpty_eq_false_iff.mpr hw.ne_nil
  simp [Plain.read, hrun, hsome, Between.read, isBreak, isSeparator_word hrest,
    plainBreaks_word hrest, hindent]

/-! ## Lines -/

variable {p q : Place} {tokens : List Token} {count : Nat} {indents : List Nat} {allowed : Bool}

/-- A word moves along its line. -/
theorem place_word (hw : ∀ c ∈ w, isWordChar c = true) (p : Place) :
    w.foldl Place.after p = ⟨p.index + w.length, p.line, p.column + w.length⟩ := by
  induction w generalizing p with
  | nil => rfl
  | cons c w ih =>
    obtain ⟨hc, hothers⟩ := List.forall_mem_cons.mp hw
    obtain ⟨hgap, _, _, hmark, _⟩ := plain_of_isWordChar hc
    have hbreak : isBreak c = false := (Bool.or_eq_false_iff.mp hgap).2
    rw [List.foldl_cons, ih hothers]
    simp [Place.after, hbreak, hmark]
    omega

namespace Scan

/-- A plain scalar is read; a key may begin with it where keys are allowed. -/
theorem fetchPlain_eq {s : Scan} {found : Plain} (houter : s.outer = []) (hstart : s.start = none)
    (hread : Plain.read false s.innerIndent s.rest.length s.rest = found) :
    s.fetchPlain =
      .ok (({ s with
          start := if s.keyAllowed then
            some ⟨s.count, s.indents.head? == some s.place.column, s.place⟩ else none
          keyAllowed := found.brokeLine }.advance found.size).push
        (.scalar (String.ofList found.text) true)) := by
  obtain ⟨place, rest, tokens, count, indents, start, outer, keyAllowed⟩ := s
  subst houter hstart hread
  cases keyAllowed <;> rfl

theorem advance_append {s : Scan} {a b : List Char} (hs : s.rest = a ++ b) :
    s.advance a.length = { s with place := a.foldl Place.after s.place, rest := b } := by
  simp [advance, hs]

/-- A word in front of a colon is read, and its start is noted. -/
theorem fetch_key (hgap : IsGap gap) (hw : IsWord w) (hrest : atGap rest = true)
    (hq : gap.foldl Place.after p = q) (hin : ∀ i ∈ indents.head?, i ≤ q.column)
    (hallowed : (allowed || gap.contains '\n') = true) :
    fetch ⟨p, gap ++ (w ++ ':' :: rest), tokens, count, indents, none, [], allowed⟩ =
      .ok ⟨w.foldl Place.after q, ':' :: rest, .scalar (String.ofList w) true :: tokens, count + 1,
        indents, some ⟨count, indents.head? == some q.column, q⟩, [], false⟩ := by
  obtain ⟨c, v, rfl⟩ := List.exists_cons_of_ne_nil hw.ne_nil
  have hc : isWordChar c = true := hw.plain c (List.mem_cons_self ..)
  have hat : AtWord (c :: (v ++ ':' :: rest)) := hw.atWord
  rw [List.cons_append, fetch_gap hgap hat hq hin (by simp), fetchAt_word _ hc, hallowed,
    fetchPlain_eq rfl rfl (Plain.read_key hw hrest), advance_append (a := c :: v) rfl]
  rfl

/-- The scan behind the colon of a key `t` that began at `q`: the mark of a key stands in front of `t`,
and the start of a mapping in front of that if it is indented more than the one around it. -/
def behindKey (p q : Place) (rest : List Char) (t : Token) (tokens : List Token) (count : Nat)
    (indents : List Nat) : Scan :=
  if indents.head?.all (· < q.column) then
    ⟨p.after ':', rest, .value :: t :: .key :: .blockMappingStart :: tokens, count + 4,
      q.column :: indents, none, [], false⟩
  else ⟨p.after ':', rest, .value :: t :: .key :: tokens, count + 3, indents, none, [], false⟩

theorem head_tokens_behindKey {t : Token} :
    ((behindKey p q rest t tokens count indents).tokens.head? == some .streamEnd) = false := by
  unfold behindKey
  split <;> rfl

theorem fetchValue_key {t : Token} {required : Bool} :
    fetchValue ⟨p, ':' :: rest, t :: tokens, count + 1, indents, some ⟨count, required, q⟩, [],
        false⟩ =
      .ok (behindKey p q rest t tokens count indents) := by
  have hone : count + 1 - count = 1 := by omega
  have htwo : count + 1 + 1 - count = 2 := by omega
  simp only [fetchValue, behindKey, insertAt, inFlow, isDeeper, hone, htwo]
  cases indents with
  | nil => rfl
  | cons i indents =>
    by_cases hi : i < q.column <;> simp [hi, pure, Except.pure, advance, push]

/-- The colon in front of a gap makes a key of what came before it in its line. -/
theorem fetch_colon {t : Token} {required : Bool} (hline : q.line = p.line)
    (hnear : p.index ≤ q.index + 1024) (hin : ∀ i ∈ indents.head?, i ≤ p.column)
    (hrest : atGap rest = true) :
    fetch ⟨p, ':' :: rest, t :: tokens, count + 1, indents, some ⟨count, required, q⟩, [], false⟩ =
      .ok (behindKey p q rest t tokens count indents) := by
  have hnone : IsGap [] := nofun
  have hat : AtWord (':' :: rest) := by
    intro x hx
    cases hx
    exact .inr rfl
  have hstart : ∀ k ∈ some (KeyStart.mk count required q), isStale p k = false := by
    simp [isStale, hline]
    omega
  have hmark {mark : Char} (h : ':' ≠ mark) : isMark mark (':' :: rest) = false := isMark_of_ne h
  have hvalue (s : Scan) : s.fetchAt ':' rest = s.fetchValue := by
    simp [fetchAt, hmark, hrest]
  rw [← List.nil_append (':' :: rest), fetch_gap hnone hat rfl hin hstart, hvalue]
  exact fetchValue_key

/-- A word in the rest of a line is a value, if the next line is indented less. -/
theorem fetch_line (hgap : IsGap gap) (hline : '\n' ∉ gap) (hw : IsWord w) (hrest : AtWord rest)
    (hq : gap.foldl Place.after p = q) (hin : ∀ i ∈ indents.head?, i ≤ q.column)
    (hindents : indents ≠ []) :
    fetch ⟨p, gap ++ (w ++ '\n' :: rest), tokens, count, indents, none, [], false⟩ =
      .ok ⟨(w.foldl Place.after q).after '\n', rest, .scalar (String.ofList w) true :: tokens,
        count + 1, indents, none, [], true⟩ := by
  obtain ⟨c, v, rfl⟩ := List.exists_cons_of_ne_nil hw.ne_nil
  have hc : isWordChar c = true := hw.plain c (List.mem_cons_self ..)
  have hat : AtWord (c :: (v ++ '\n' :: rest)) := hw.atWord
  have hbreak : gap.contains '\n' = false := by simpa using hline
  obtain ⟨column, others, rfl⟩ := List.exists_cons_of_ne_nil hindents
  have hread :
      Plain.read false (column + 1) (c :: v ++ '\n' :: rest).length (c :: v ++ '\n' :: rest) =
        ⟨c :: v, (c :: v ++ ['\n']).length, true⟩ := by
    rw [List.length_append, List.length_append]
    exact Plain.read_line hw hrest (Nat.succ_pos column)
  have hplain :
      fetchPlain ⟨q, c :: v ++ '\n' :: rest, tokens, count, column :: others, none, [], false⟩ = _ :=
    fetchPlain_eq rfl rfl hread
  have hsplit : c :: v ++ '\n' :: rest = (c :: v ++ ['\n']) ++ rest := by simp
  rw [List.cons_append, fetch_gap hgap hat hq hin (by simp), fetchAt_word _ hc, hbreak,
    ← List.cons_append, Bool.or_false, hplain, advance_append hsplit, List.foldl_append]
  rfl

theorem foldl_push (t : Token) (l : List Nat) (s : Scan) :
    l.foldl (fun s _ ↦ s.push t) s =
      { s with tokens := List.replicate l.length t ++ s.tokens, count := s.count + l.length } := by
  induction l generalizing s with
  | nil => rfl
  | cons i l ih =>
    have hcount : s.count + 1 + l.length = s.count + (l.length + 1) := by omega
    rw [List.foldl_cons, ih, List.length_cons, List.replicate_succ', List.append_assoc, ← hcount]
    rfl

theorem closeDeeper_some (s : Scan) (column : Nat) (h : s.outer = []) :
    s.closeDeeper (some column) =
      { s with
        tokens := List.replicate (s.indents.takeWhile (column < ·)).length .blockEnd ++ s.tokens
        count := s.count + (s.indents.takeWhile (column < ·)).length
        indents := s.indents.dropWhile (column < ·) } := by
  have hflow : s.inFlow = false := by simp [inFlow, h]
  simp only [closeDeeper, hflow, foldl_push]
  rfl

theorem closeAll_eq {s : Scan} (houter : s.outer = []) (hstart : s.start = none) :
    s.closeAll =
      .ok { s with
        tokens := List.replicate s.indents.length .blockEnd ++ s.tokens
        count := s.count + s.indents.length
        indents := []
        keyAllowed := false } := by
  obtain ⟨place, rest, tokens, count, indents, start, outer, keyAllowed⟩ := s
  subst houter hstart
  have hwhole (l : List Nat) :
      l.takeWhile (fun _ ↦ true) = l ∧ l.dropWhile (fun _ ↦ true) = [] := by
    induction l with
    | nil => exact ⟨rfl, rfl⟩
    | cons i l ih => exact ⟨congrArg (i :: ·) ih.1, ih.2⟩
  simp only [closeAll, closeDeeper, inFlow, foldl_push, hwhole indents]
  rfl

/-- At the end of the text, every open collection ends. -/
theorem fetch_end :
    fetch ⟨p, [], tokens, count, indents, none, [], allowed⟩ =
      .ok ⟨p, [], .streamEnd :: (List.replicate indents.length .blockEnd ++ tokens),
        count + indents.length + 1, [], none, [], false⟩ := by
  have hgap (s : Scan) (hs : s.rest = [] ++ []) (houter : s.outer = []) :=
    skipGap_gap hs houter nofun nofun
  have hboth : (indents.takeWhile (p.column < ·)).length +
      (indents.dropWhile (p.column < ·)).length = indents.length := by
    rw [← List.length_append, List.takeWhile_append_dropWhile]
  rw [fetch, hgap _ rfl rfl]
  simp only [dropStale, refresh, List.mapM_nil, bind, Except.bind, pure, Except.pure,
    List.foldl_nil, Bool.or_false, List.contains_nil]
  rw [closeDeeper_some _ _ rfl]
  simp only [closeAll_eq, push, ← List.append_assoc, List.replicate_append_replicate, Nat.add_assoc,
    hboth, Nat.add_comm (indents.dropWhile _).length]

theorem tokensFrom_step {s next : Scan} {fuel : Nat} (h : s.fetch = .ok next)
    (hnext : (next.tokens.head? == some .streamEnd) = false) :
    tokensFrom (fuel + 1) s = tokensFrom fuel next := by
  simp only [tokensFrom, h, hnext, Bool.false_eq_true, if_false]

theorem tokensFrom_end {s next : Scan} {fuel : Nat} (h : s.fetch = .ok next)
    (hnext : (next.tokens.head? == some .streamEnd) = true) :
    tokensFrom (fuel + 1) s = next.tokens.reverse := by
  simp only [tokensFrom, h, hnext, if_true]

/-! ## Entries -/

/-- A word in front of a colon is a key, in the mapping around it or in a new one. -/
theorem tokensFrom_key {fuel : Nat} (hgap : IsGap gap) (hw : IsWord w) (hlength : w.length ≤ 1024)
    (hrest : atGap rest = true) (hq : gap.foldl Place.after p = q)
    (hin : ∀ i ∈ indents.head?, i ≤ q.column)
    (hallowed : (allowed || gap.contains '\n') = true) :
    tokensFrom (fuel + 2)
        ⟨p, gap ++ (w ++ ':' :: rest), tokens, count, indents, none, [], allowed⟩ =
      tokensFrom fuel
        (behindKey ⟨q.index + w.length, q.line, q.column + w.length⟩ q rest
          (.scalar (String.ofList w) true) tokens count indents) := by
  have hinside : ∀ i ∈ indents.head?, i ≤ q.column + w.length :=
    fun i hi ↦ Nat.le_add_right_of_le (hin i hi)
  rw [tokensFrom_step (fetch_key hgap hw hrest hq hin hallowed) rfl, place_word hw.plain]
  have hnear : q.index + w.length ≤ q.index + 1024 := Nat.add_le_add_left hlength q.index
  exact tokensFrom_step (fetch_colon rfl hnear hinside hrest) head_tokens_behindKey

/-- A word in the rest of a line is a value. -/
theorem tokensFrom_value {fuel : Nat} (hgap : IsGap gap) (hline : '\n' ∉ gap) (hw : IsWord w)
    (hrest : AtWord rest) (hq : gap.foldl Place.after p = q) (hin : ∀ i ∈ indents.head?, i ≤ q.column)
    (hindents : indents ≠ []) :
    tokensFrom (fuel + 1) ⟨p, gap ++ (w ++ '\n' :: rest), tokens, count, indents, none, [], false⟩ =
      tokensFrom fuel
        ⟨⟨q.index + w.length + 1, q.line + 1, 0⟩, rest, .scalar (String.ofList w) true :: tokens,
          count + 1, indents, none, [], true⟩ := by
  rw [tokensFrom_step (fetch_line hgap hline hw hrest hq hin hindents) rfl, place_word hw.plain]
  rfl

end Scan

end VpcMachines.Yaml
