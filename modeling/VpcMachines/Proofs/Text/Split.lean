import VpcMachines.Text.Split

/-!
# Cutting and joining

A text is cut at the first occurrence of a mark, and pieces without the mark that are joined by it are
told apart again.
-/

namespace VpcMachines.Text

variable {mark : Char} {front rest : List Char}

theorem cutAt_append (h : mark ∉ front) :
    cutAt mark (front ++ rest) = (front ++ (cutAt mark rest).1, (cutAt mark rest).2) := by
  induction front with
  | nil => rfl
  | cons c front ih =>
    rw [List.mem_cons, not_or] at h
    rw [List.cons_append, cutAt, if_neg (Ne.symm h.1), ih h.2]
    rfl

/-- A text is cut at the first mark. -/
theorem cutAt_mark (h : mark ∉ front) : cutAt mark (front ++ mark :: rest) = (front, some rest) := by
  rw [cutAt_append h, cutAt, if_pos rfl, List.append_nil]

theorem splitAt_unmarked (h : mark ∉ front) : splitAt mark front = [front] := by
  induction front with
  | nil => rfl
  | cons c front ih =>
    rw [List.mem_cons, not_or] at h
    rw [splitAt, if_neg (Ne.symm h.1), ih h.2]

theorem splitAt_mark (h : mark ∉ front) :
    splitAt mark (front ++ mark :: rest) = front :: splitAt mark rest := by
  induction front with
  | nil => exact if_pos rfl
  | cons c front ih =>
    rw [List.mem_cons, not_or] at h
    rw [List.cons_append, splitAt, if_neg (Ne.symm h.1), ih h.2]

theorem splitAt_ne_nil (s : List Char) : splitAt mark s ≠ [] := by
  cases s with
  | nil => simp [splitAt]
  | cons c rest =>
    rw [splitAt]
    split
    · simp
    · split <;> simp

/-- A mark parts the pieces in front of it from those behind. -/
theorem splitAt_append (front rest : List Char) :
    splitAt mark (front ++ mark :: rest) = splitAt mark front ++ splitAt mark rest := by
  induction front with
  | nil => simp [splitAt]
  | cons c front ih =>
    rw [List.cons_append, splitAt, splitAt, ih]
    split
    · rw [List.cons_append]
    · cases hfront : splitAt mark front with
      | nil => exact absurd hfront (splitAt_ne_nil front)
      | cons piece pieces => rfl

/-- Pieces that are put together with marks between them are told apart at the marks. -/
theorem splitAt_intercalate {pieces : List (List Char)} (hpieces : pieces ≠ [])
    (h : ∀ piece ∈ pieces, mark ∉ piece) : splitAt mark (List.intercalate [mark] pieces) = pieces := by
  induction pieces with
  | nil => exact absurd rfl hpieces
  | cons piece pieces ih =>
    obtain ⟨hpiece, hothers⟩ := List.forall_mem_cons.mp h
    cases pieces with
    | nil =>
      rw [List.intercalate_singleton]
      exact splitAt_unmarked hpiece
    | cons next pieces =>
      rw [List.intercalate_cons_cons, List.append_assoc]
      change splitAt mark (piece ++ mark :: List.intercalate [mark] (next :: pieces)) = _
      rw [splitAt_mark hpiece, ih (List.cons_ne_nil _ _) hothers]

theorem not_mem_intercalate {c : Char} {pieces : List (List Char)} (hmark : c ≠ mark)
    (h : ∀ piece ∈ pieces, c ∉ piece) : c ∉ List.intercalate [mark] pieces := by
  induction pieces with
  | nil => simp
  | cons piece pieces ih =>
    obtain ⟨hpiece, hothers⟩ := List.forall_mem_cons.mp h
    cases pieces with
    | nil =>
      rw [List.intercalate_singleton]
      exact hpiece
    | cons next pieces =>
      rw [List.intercalate_cons_cons]
      simp only [List.mem_append, List.mem_singleton, not_or]
      exact ⟨⟨hpiece, hmark⟩, ih hothers⟩

end VpcMachines.Text
