import Mathlib.Data.List.Forall2

/-!
# Computations that may fail

Which faults a computation may fail with (`FailsOnly`) is carried through the ways in which computations
are put together. A list is gone through from the front: if all goes well there is a result for each
item, and otherwise one for each item in front of the first that fails.
-/

namespace VpcMachines

variable {ε α β : Type} {p : ε → Prop} {x : Except ε α} {f : α → Except ε β} {l : List α} {b : β}
  {e : ε} {values : List β}

theorem bind_error_cases {g : α → Except ε β} (h : x >>= g = .error e) :
    x = .error e ∨ ∃ a, x = .ok a ∧ g a = .error e := by
  cases x with
  | error e' =>
    cases h
    exact .inl rfl
  | ok a => exact .inr ⟨a, rfl, h⟩

theorem bind_ok_cases {g : α → Except ε β} (h : x >>= g = .ok b) : ∃ a, x = .ok a ∧ g a = .ok b := by
  cases x with
  | error e' => cases h
  | ok a => exact ⟨a, rfl, h⟩

theorem mapM_ok_iff : l.mapM f = .ok values ↔ List.Forall₂ (fun a b ↦ f a = .ok b) l values := by
  constructor
  · intro h
    induction l generalizing values with
    | nil =>
      cases h
      exact .nil
    | cons a l ih =>
      rw [List.mapM_cons] at h
      obtain ⟨b, hb, hrest⟩ := bind_ok_cases h
      obtain ⟨rest, hmap, hvalues⟩ := bind_ok_cases hrest
      cases hvalues
      exact .cons hb (ih hmap)
  · intro h
    induction h with
    | nil => rfl
    | cons hb _ ih =>
      rw [List.mapM_cons, hb, ih]
      rfl

/-- A list fails at its first item that does. -/
theorem mapM_error_iff :
    l.mapM f = .error e ↔
      ∃ before a after values, l = before ++ a :: after ∧ before.mapM f = .ok values ∧
        f a = .error e := by
  constructor
  · intro h
    induction l with
    | nil => cases h
    | cons a l ih =>
      rw [List.mapM_cons] at h
      rcases bind_error_cases h with ha | ⟨b, hb, hrest⟩
      · exact ⟨[], a, l, [], rfl, rfl, ha⟩
      rcases bind_error_cases hrest with hmap | ⟨rest, _, hvalues⟩
      · obtain ⟨before, a', after, values, rfl, hbefore, ha'⟩ := ih hmap
        refine ⟨a :: before, a', after, b :: values, rfl, ?_, ha'⟩
        rw [List.mapM_cons, hb, hbefore]
        rfl
      · cases hvalues
  · rintro ⟨before, a, after, values, rfl, hbefore, ha⟩
    rw [List.mapM_append, hbefore, List.mapM_cons, ha]
    rfl

/-- If this fails, it is with one of these faults. -/
def FailsOnly (p : ε → Prop) (x : Except ε α) : Prop := ∀ e, x = .error e → p e

namespace FailsOnly

theorem ok (a : α) : FailsOnly p (.ok a : Except ε α) := fun _ h ↦ nomatch h

theorem error {e : ε} (h : p e) : FailsOnly p (.error e : Except ε α) := by
  intro e' he
  cases he
  exact h

theorem bind (hx : FailsOnly p x) (hf : ∀ a, FailsOnly p (f a)) : FailsOnly p (x >>= f) := by
  intro e h
  cases x with
  | error e' =>
    cases h
    exact hx _ rfl
  | ok a => exact hf a e h

theorem mapM (hf : ∀ a, FailsOnly p (f a)) : FailsOnly p (l.mapM f) := by
  induction l with
  | nil =>
    rw [List.mapM_nil]
    exact ok []
  | cons a l ih =>
    rw [List.mapM_cons]
    apply bind (hf a)
    intro b
    apply bind ih
    intro rest
    exact ok _

theorem mono {q : ε → Prop} (hx : FailsOnly p x) (h : ∀ e, p e → q e) : FailsOnly q x :=
  fun e he ↦ h e (hx e he)

end FailsOnly

end VpcMachines
