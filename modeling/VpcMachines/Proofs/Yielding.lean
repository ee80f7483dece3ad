import Mathlib.Data.List.Forall2
import VpcMachines.Proofs.Serving

/-!
# Programs that go one way

Where collaborators answer as they should, many programs can go in one way only: the calls that they make
and how they end are known beforehand. This is kept by composition, so it is shown part by part, and it is
kept where the calls are carried out over another interface. Where it does not matter what is called, a
program settles on an end, and of several things that are wrong the first counts.
-/

namespace VpcMachines

/-- This end, unless something is wrong before. The first of these flaws is the fault then. -/
def Outcome.unless {α : Type} (flaws : List Fault) (o : Outcome α) : Outcome α :=
  match flaws with
  | [] => o
  | flaw :: _ => .failed flaw

theorem Outcome.returned_eq_unless_iff {α : Type} {flaws : List Fault} {a b : α} :
    Outcome.returned a = .unless flaws (.returned b) ↔ flaws = [] ∧ a = b := by
  cases flaws <;> simp [Outcome.unless]

theorem Outcome.aborted_eq_unless_iff {α : Type} {flaws : List Fault} {abort : Option Fault}
    {a : α} : Outcome.aborted abort = .unless flaws (.returned a) ↔
      ∃ flaw more, flaws = flaw :: more ∧ abort = some flaw := by
  cases flaws with
  | nil => simp [Outcome.unless, Outcome.aborted_ne_returned]
  | cons flaw more => cases abort <;> simp [Outcome.unless, Outcome.aborted, eq_comm]

theorem Outcome.ofExcept_inj {α : Type} {a b : Except Fault α} (h : ofExcept a = ofExcept b) :
    a = b := by
  cases a <;> cases b <;> cases h <;> rfl

namespace Program

variable {I J : Interface} {α β : Type} {right : Event I → Prop} {calls calls₁ calls₂ : List I.Call}
  {p : Program I α} {o : Outcome α} {o' : Outcome β} {fault : Fault}

/-- If all answers are right, the program makes these calls and ends like this. -/
def Yields (right : Event I → Prop) (p : Program I α) (calls : List I.Call) (o : Outcome α) : Prop :=
  ∀ t end', p.Runs t end' → (∀ e ∈ t, right e) → t.map Sigma.fst = calls ∧ end' = o

/-- A run against a handler makes these calls and ends like this. -/
def Goes {σ : Type} (h : Handler I σ) (s : σ) (p : Program I α) (calls : List I.Call)
    (o : Outcome α) : Prop :=
  (p.trace h s).map Sigma.fst = calls ∧ (p.run h s).1 = o

/-- If a handler gives right answers only, then all of a run against it are right. -/
theorem forall_right_of_answers {σ : Type} {h : Handler I σ}
    (hright : ∀ c s, right ⟨c, (h.answer c s).1⟩) (p : Program I α) (s : σ) :
    ∀ e ∈ p.trace h s, right e := by
  intro e he
  obtain ⟨between, hanswer⟩ := exists_answer_of_mem_trace he
  have hbetween := hright e.1 between
  rwa [← hanswer] at hbetween

namespace Yields

theorem pure (a : α) : Yields right (Pure.pure a) [] (.returned a) := by
  intro t end' h _
  obtain ⟨rfl, rfl⟩ := runs_done_iff.mp h
  exact ⟨rfl, rfl⟩

theorem fail (fault : Fault) : Yields right (fail fault : Program I α) [] (.failed fault) := by
  intro t end' h _
  obtain ⟨rfl, rfl⟩ := runs_fail_iff.mp h
  exact ⟨rfl, rfl⟩

theorem request {c : I.Call} {reply : I.Reply c}
    (h : ∀ answer, right ⟨c, answer⟩ → answer = .ok reply) :
    Yields right (request c) [c] (.returned reply) := by
  intro t end' hrun hright
  obtain ⟨answer, rfl, rfl⟩ := runs_request_iff.mp hrun
  rw [h answer (hright _ (List.mem_singleton_self _))]
  exact ⟨rfl, rfl⟩

theorem bind {a : α} {f : α → Program I β} (hp : Yields right p calls₁ (.returned a))
    (hf : Yields right (f a) calls₂ o') : Yields right (p >>= f) (calls₁ ++ calls₂) o' := by
  intro t end' h hright
  rcases runs_bind_iff.mp h with ⟨t₁, b, t₂, rfl, hfirst, hrest⟩ | ⟨abort, rfl, hfirst⟩
  · obtain ⟨hright₁, hright₂⟩ := List.forall_mem_append.mp hright
    obtain ⟨hcalls, ho⟩ := hp _ _ hfirst hright₁
    cases ho
    obtain ⟨rfl, rfl⟩ := hf _ _ hrest hright₂
    rw [List.map_append, hcalls]
    exact ⟨rfl, rfl⟩
  · exact absurd (hp _ _ hfirst hright).2 (Outcome.aborted_ne_returned _ _)

/-- A composed program fails where its first part does. -/
theorem bind_failed {f : α → Program I β} (hp : Yields right p calls (.failed fault)) :
    Yields right (p >>= f) calls (.failed fault) := by
  intro t end' h hright
  rcases runs_bind_iff.mp h with ⟨t₁, b, t₂, rfl, hfirst, _⟩ | ⟨abort, rfl, hfirst⟩
  · obtain ⟨hright₁, _⟩ := List.forall_mem_append.mp hright
    cases (hp _ _ hfirst hright₁).2
  · obtain ⟨hcalls, ho⟩ := hp _ _ hfirst hright
    cases abort <;> cases ho
    exact ⟨hcalls, rfl⟩

theorem mapFault (hp : Yields right p calls o) (f : Fault → Fault) :
    Yields right (p.mapFault f) calls (o.mapFault f) := by
  intro t end' h hright
  obtain ⟨inner, rfl, hinner⟩ := runs_mapFault_iff.mp h
  obtain ⟨hcalls, rfl⟩ := hp _ _ hinner hright
  exact ⟨hcalls, rfl⟩

/-- A run against a handler that gives right answers only goes that way. -/
theorem goes {σ : Type} {h : Handler I σ} (hp : Yields right p calls o)
    (hright : ∀ c s, right ⟨c, (h.answer c s).1⟩) (s : σ) : p.Goes h s calls o :=
  hp _ _ (runs_trace h p s) (forall_right_of_answers hright p s)

theorem mono {right' : Event I → Prop} (hp : Yields right p calls o)
    (h : ∀ e, right' e → right e) : Yields right' p calls o := by
  intro t end' hrun hright
  exact hp t end' hrun fun e he ↦ h e (hright e he)

/-- A description of a call that succeeds does not show. -/
theorem described {a : α} (hp : Yields right p calls (.returned a)) (description : String) :
    Yields right (p.described description) calls (.returned a) :=
  hp.mapFault _

end Yields

/-- If all answers are right, the program ends like this, whatever it calls. -/
def Settles (right : Event I → Prop) (p : Program I α) (o : Outcome α) : Prop :=
  ∃ calls, p.Yields right calls o

namespace Settles

theorem pure (a : α) : Settles right (Pure.pure a) (.returned a) := ⟨_, .pure a⟩

theorem mono {right' : Event I → Prop} (hp : Settles right p o)
    (h : ∀ e, right' e → right e) : Settles right' p o := by
  obtain ⟨calls, hyields⟩ := hp
  exact ⟨calls, hyields.mono h⟩

theorem end_eq {t : List (Event I)} {end' : Outcome α} (hp : Settles right p o)
    (h : p.Runs t end') (hright : ∀ e ∈ t, right e) : end' = o := by
  obtain ⟨calls, hyields⟩ := hp
  exact (hyields _ _ h hright).2

theorem run_eq {σ : Type} {h : Handler I σ} (hp : Settles right p o)
    (hright : ∀ c s, right ⟨c, (h.answer c s).1⟩) (s : σ) : (p.run h s).1 = o :=
  hp.end_eq (runs_trace h p s) (forall_right_of_answers hright p s)

/-- The flaws of the first part come before those of the rest. -/
theorem bind_unless {a : α} {f : α → Program I β} {flaws₁ flaws₂ : List Fault}
    (hp : Settles right p (.unless flaws₁ (.returned a)))
    (hf : Settles right (f a) (.unless flaws₂ o')) :
    Settles right (p >>= f) (.unless (flaws₁ ++ flaws₂) o') := by
  obtain ⟨calls₁, hfirst⟩ := hp
  cases flaws₁ with
  | nil =>
    obtain ⟨calls₂, hrest⟩ := hf
    exact ⟨_, hfirst.bind hrest⟩
  | cons flaw flaws₁ => exact ⟨_, hfirst.bind_failed⟩

end Settles

/-! ## Programs next to another collaborator -/

/-- Right answers of the first of two collaborators. -/
def Beside (right : Event I → Prop) : Event (I.sum J) → Prop
  | ⟨.inl c, answer⟩ => right ⟨c, answer⟩
  | ⟨.inr _, _⟩ => True

theorem Yields.beside (hp : Yields right p calls o) :
    (p.beside : Program (I.sum J) α).Yields (Beside right)
      (calls.map fun c ↦ (.inl c : (I.sum J).Call)) o := by
  intro t end' hrun hright
  obtain ⟨u, rfl, hu⟩ := runs_beside_iff.mp hrun
  have hinner : ∀ e ∈ u, right e := fun e he ↦ hright e.beside (List.mem_map_of_mem he)
  obtain ⟨rfl, rfl⟩ := hp _ _ hu hinner
  have houter : (u.map Sigma.fst).map (fun c ↦ (.inl c : (I.sum J).Call)) =
      u.map fun e ↦ .inl e.1 := List.map_map
  have hbeside : ((u.map Event.beside).map Sigma.fst : List (I.sum J).Call) =
      u.map fun e ↦ .inl e.1 := List.map_map
  exact ⟨hbeside.trans houter.symm, rfl⟩

/-! ## Programs that are carried out -/

variable {serve : (c : I.Call) → Program J (I.Reply c)} {right' : Event J → Prop}
  {inner : List (List J.Call)} {u : List (Event I)} {t : List (Event J)}

/-- Where the inner answers are right, each call gets an answer, and a right one. -/
def Upholds (serve : (c : I.Call) → Program J (I.Reply c)) (right' : Event J → Prop)
    (right : Event I → Prop) : Prop :=
  ∀ c t end', (serve c).Runs t end' → (∀ e ∈ t, right' e) →
    ∃ answer, end' = .ofExcept answer ∧ right ⟨c, answer⟩

/-- A call that is upheld is not cut off. -/
theorem Upholds.not_exhausted (hserve : Upholds serve right' right) {c : I.Call}
    (hright : ∀ e ∈ t, right' e) : ¬(serve c).Runs t .exhausted := by
  intro hrun
  obtain ⟨answer, ho, _⟩ := hserve _ _ _ hrun hright
  cases answer <;> cases ho

theorem Upholds.right_of_served (hserve : Upholds serve right' right) (h : Served serve u t)
    (hright : ∀ e ∈ t, right' e) : ∀ e ∈ u, right e := by
  intro e he
  obtain ⟨inner, hrun, hsub⟩ := h.exists_run he
  obtain ⟨answer, ho, hanswer⟩ := hserve _ _ _ hrun fun e he ↦ hright e (hsub he)
  rwa [← Outcome.ofExcept_inj ho] at hanswer

/-- The inner calls of each call. -/
abbrev CarriedOutBy (serve : (c : I.Call) → Program J (I.Reply c)) (right' : Event J → Prop) :
    List I.Call → List (List J.Call) → Prop :=
  List.Forall₂ fun c inner ↦ ∃ end', (serve c).Yields right' inner end'

theorem calls_of_served (h : Served serve u t) (hright : ∀ e ∈ t, right' e)
    (hinner : CarriedOutBy serve right' (u.map Sigma.fst) inner) :
    t.map Sigma.fst = inner.flatten := by
  induction h generalizing inner with
  | nil =>
    cases hinner
    rfl
  | cons first others ih =>
    cases hinner with
    | cons hcall hlater =>
      obtain ⟨hfirst, hothers⟩ := List.forall_mem_append.mp hright
      obtain ⟨end', hyields⟩ := hcall
      rw [List.map_append, (hyields _ _ first hfirst).1, ih hothers hlater, List.flatten_cons]

/-- A program that goes one way goes one way when it is carried out, too. -/
theorem Yields.interpret (hp : Yields right p calls o) (hserve : Upholds serve right' right)
    (hinner : CarriedOutBy serve right' calls inner) :
    (p.interpret serve).Yields right' inner.flatten o := by
  intro t end' hrun hright
  cases interpretRun_of_runs hrun with
  | served run served =>
    obtain ⟨rfl, rfl⟩ := hp _ _ run (hserve.right_of_served served hright)
    exact ⟨calls_of_served served hright hinner, rfl⟩
  | cutOff _ _ last =>
    exact absurd last (hserve.not_exhausted (List.forall_mem_append.mp hright).2)

theorem Settles.interpret_end_eq {end' : Outcome α} (hp : Settles right p o)
    (hserve : Upholds serve right' right) (hrun : (p.interpret serve).Runs t end')
    (hright : ∀ e ∈ t, right' e) : end' = o := by
  cases interpretRun_of_runs hrun with
  | served run served => exact hp.end_eq run (hserve.right_of_served served hright)
  | cutOff _ _ last =>
    exact absurd last (hserve.not_exhausted (List.forall_mem_append.mp hright).2)

end Program

end VpcMachines
