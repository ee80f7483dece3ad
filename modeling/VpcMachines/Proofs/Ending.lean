import VpcMachines.Proofs.Trace

/-!
# Where calls fail

A program is orderly if its calls go well as long as it goes on: what did not go well is the last call
of a run, and the run ends without a value there. Being orderly is kept by composition, so it is shown
of an operation part by part. The answers that a program gets decide its run.
-/

namespace VpcMachines

variable {I J : Interface} {α β : Type}

/-- Every call got a reply. -/
def Answered (t : List (Event I)) : Prop := ∀ e ∈ t, ∃ reply, e.2 = .ok reply

theorem answered_nil : Answered ([] : List (Event I)) := by
  intro e he
  cases he

theorem answered_append {t₁ t₂ : List (Event I)} :
    Answered (t₁ ++ t₂) ↔ Answered t₁ ∧ Answered t₂ :=
  List.forall_mem_append

theorem answered_singleton {c : I.Call} {reply : I.Reply c} :
    Answered [(⟨c, .ok reply⟩ : Event I)] := by
  intro e he
  rw [List.mem_singleton.mp he]
  exact ⟨reply, rfl⟩

theorem answered_map_beside {t : List (Event I)} :
    Answered (t.map Event.beside : List (Event (I.sum J))) ↔ Answered t := by
  constructor
  · intro h e he
    exact h e.beside (List.mem_map_of_mem he)
  · intro h e he
    obtain ⟨inner, hinner, rfl⟩ := List.mem_map.mp he
    exact h inner hinner

/-- What is marked behind unmarked events is the last of them all. -/
theorem eq_last_of_marked {marked : Event I → Prop} {before front behind : List (Event I)}
    {e last : Event I} (h : ∀ e ∈ before, ¬marked e) (ht : before ++ [last] = front ++ e :: behind)
    (he : marked e) : front = before ∧ e = last ∧ behind = [] := by
  rcases List.append_eq_append_iff.mp ht with ⟨rest, rfl, hlast⟩ | ⟨rest, rfl, hlast⟩
  · cases rest with
    | nil =>
      cases hlast
      exact ⟨List.append_nil _, rfl, rfl⟩
    | cons first rest => simp at hlast
  · cases rest with
    | nil =>
      cases hlast
      exact ⟨(List.append_nil _).symm, rfl, rfl⟩
    | cons first rest =>
      cases hlast
      exact absurd he (h e (by simp))

/-- A failed call behind answered ones is the last of them all. -/
theorem eq_last_of_failed {before front behind : List (Event I)} {last : Event I} {c : I.Call}
    {cause : Fault} (h : Answered before)
    (ht : before ++ [last] = front ++ ⟨c, .error cause⟩ :: behind) :
    front = before ∧ last = ⟨c, .error cause⟩ ∧ behind = [] := by
  let failed : Event I → Prop := fun e ↦ ∃ cause, e.2 = .error cause
  have hbefore : ∀ e ∈ before, ¬failed e := by
    rintro e he ⟨cause, hcause⟩
    obtain ⟨reply, hreply⟩ := h e he
    rw [hreply] at hcause
    cases hcause
  obtain ⟨hfront, hlast, hbehind⟩ := eq_last_of_marked hbefore ht ⟨cause, rfl⟩
  exact ⟨hfront, hlast.symm, hbehind⟩

theorem not_answered_of_failed {front behind : List (Event I)} {c : I.Call} {cause : Fault} :
    ¬Answered (front ++ ⟨c, .error cause⟩ :: behind) := by
  intro h
  obtain ⟨reply, hreply⟩ := h ⟨c, .error cause⟩ (by simp)
  cases hreply

namespace Program

/-- As long as a program goes on, its calls are fine, and where it ends without a value, its calls show
why. -/
structure Orderly (fine : Event I → Prop) (hindered : List (Event I) → Option Fault → Prop)
    (p : Program I α) : Prop where
  smooth : ∀ t a, p.Runs t (.returned a) → ∀ e ∈ t, fine e
  stopped : ∀ t abort, p.Runs t (.aborted abort) → hindered t abort

namespace Orderly

variable {fine : Event I → Prop} {hindered : List (Event I) → Option Fault → Prop}

theorem pure (a : α) : (Pure.pure a : Program I α).Orderly fine hindered := by
  constructor
  · intro t b h
    obtain ⟨rfl, _⟩ := runs_done_iff.mp h
    simp
  · intro t abort h
    exact absurd (runs_done_iff.mp h).2 (Outcome.aborted_ne_returned _ _)

theorem fail {fault : Fault} (h : hindered [] (some fault)) :
    (fail fault : Program I α).Orderly fine hindered := by
  constructor
  · intro t a hrun
    cases (runs_fail_iff.mp hrun).2
  · intro t abort hrun
    obtain ⟨rfl, ho⟩ := runs_fail_iff.mp hrun
    cases abort <;> cases ho
    exact h

theorem bind {p : Program I α} {f : α → Program I β} (hp : p.Orderly fine hindered)
    (hf : ∀ a, (f a).Orderly fine hindered)
    (hbehind : ∀ t₁ t₂ abort, (∀ e ∈ t₁, fine e) → hindered t₂ abort → hindered (t₁ ++ t₂) abort) :
    (p >>= f).Orderly fine hindered := by
  constructor
  · intro t b h
    obtain ⟨t₁, a, t₂, rfl, hfirst, hrest⟩ := runs_bind_returned_iff.mp h
    exact List.forall_mem_append.mpr ⟨hp.smooth _ _ hfirst, (hf a).smooth _ _ hrest⟩
  · intro t abort h
    rcases runs_bind_aborted_iff.mp h with ⟨t₁, a, t₂, rfl, hfirst, hrest⟩ | hfirst
    · exact hbehind _ _ _ (hp.smooth _ _ hfirst) ((hf a).stopped _ _ hrest)
    · exact hp.stopped _ _ hfirst

end Orderly

/-! ## One run for the same answers -/

/-- The answers decide the run: no two runs of a program begin one list of events. -/
theorem eq_of_runs_of_prefix {p : Program I α} {t₁ t₂ t : List (Event I)} {o₁ o₂ : Outcome α}
    (h₁ : p.Runs t₁ o₁) (h₂ : p.Runs t₂ o₂) (hcut₁ : t₁ <+: t) (hcut₂ : t₂ <+: t) :
    t₁ = t₂ ∧ o₁ = o₂ := by
  induction h₁ generalizing t₂ t with
  | done a =>
    obtain ⟨rfl, rfl⟩ := runs_done_iff.mp h₂
    exact ⟨rfl, rfl⟩
  | fail fault =>
    obtain ⟨rfl, rfl⟩ := runs_fail_iff.mp h₂
    exact ⟨rfl, rfl⟩
  | exhausted =>
    obtain ⟨rfl, rfl⟩ := runs_exhausted_iff.mp h₂
    exact ⟨rfl, rfl⟩
  | call answer rest ih =>
    obtain ⟨other, rest₂, rfl, hrest₂⟩ := runs_call_iff.mp h₂
    obtain ⟨behind, rfl⟩ := hcut₁
    obtain ⟨heq, hcut⟩ := List.cons_prefix_cons.mp hcut₂
    cases heq
    obtain ⟨rfl, rfl⟩ := ih hrest₂ (List.prefix_append _ _) hcut
    exact ⟨rfl, rfl⟩

/-- Whatever was answered so far, a program has a way to go on to an end. -/
theorem exists_runs (p : Program I α) : ∃ t o, p.Runs t o := by
  induction p with
  | done a => exact ⟨_, _, .done a⟩
  | fail fault => exact ⟨_, _, .fail fault⟩
  | exhausted => exact ⟨_, _, .exhausted⟩
  | call c next ih =>
    obtain ⟨t, o, h⟩ := ih (.error .unimplemented)
    exact ⟨_, _, .call _ h⟩

end Program

end VpcMachines
