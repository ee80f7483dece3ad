import VpcMachines.Program

/-!
# Traces of programs

A trace lists the calls that a program makes, in order and with the answers that they get. The relation
`Program.Runs` leaves the answers open, so that a statement about all runs holds for collaborators that
answer in any way, also by what they were asked before. Runs of a composed program split at the seam.
A behaviour says what a collaborator with a state may answer, and a path is a trace that it allows.
-/

namespace VpcMachines

/-- A call with the answer that it got. -/
abbrev Event (I : Interface) := (c : I.Call) × Except Fault (I.Reply c)

/-- A call to the first of two collaborators. -/
def Event.beside {I J : Interface} (e : Event I) : Event (I.sum J) := ⟨.inl e.1, e.2⟩

namespace Outcome

variable {α β : Type}

/-- An end without a value: a fault, or none where the run was cut off. -/
def aborted : Option Fault → Outcome α
  | some fault => .failed fault
  | none => .exhausted

def mapFault (f : Fault → Fault) : Outcome α → Outcome α
  | .returned a => .returned a
  | .failed fault => .failed (f fault)
  | .exhausted => .exhausted

@[simp]
theorem mapFault_returned (f : Fault → Fault) (a : α) :
    (returned a).mapFault f = .returned a := rfl

@[simp]
theorem mapFault_failed (f : Fault → Fault) (fault : Fault) :
    (failed fault : Outcome α).mapFault f = .failed (f fault) := rfl

@[simp]
theorem mapFault_exhausted (f : Fault → Fault) :
    (exhausted : Outcome α).mapFault f = .exhausted := rfl

def ofExcept : Except Fault α → Outcome α
  | .ok a => .returned a
  | .error fault => .failed fault

/-- How a described call ends that gets an answer. -/
def ofAnswer (description : String) (answer : Except Fault α) : Outcome α :=
  (ofExcept answer).mapFault (Fault.inCall description)

@[simp]
theorem ofAnswer_ok (description : String) (a : α) :
    ofAnswer description (.ok a) = .returned a := rfl

@[simp]
theorem ofAnswer_error (description : String) (fault : Fault) :
    (ofAnswer description (.error fault) : Outcome α) =
      .failed (fault.inCall description) := rfl

@[simp]
theorem aborted_ne_returned (abort : Option Fault) (a : α) :
    (aborted abort : Outcome α) ≠ .returned a := by
  cases abort <;> simp [aborted]

@[simp]
theorem aborted_inj {abort abort' : Option Fault} :
    (aborted abort : Outcome α) = aborted abort' ↔ abort = abort' := by
  cases abort <;> cases abort' <;> simp [aborted]

theorem ofAnswer_eq_returned_iff {description : String} {answer : Except Fault α} {a : α} :
    ofAnswer description answer = .returned a ↔ answer = .ok a := by
  cases answer <;> simp

theorem aborted_eq_ofAnswer_iff {description : String} {answer : Except Fault α}
    {abort : Option Fault} :
    aborted abort = ofAnswer description answer ↔
      ∃ cause, answer = .error cause ∧ abort = some (cause.inCall description) := by
  cases answer <;> cases abort <;> simp [aborted]

theorem ofAnswer_eq_failed_iff {description : String} {answer : Except Fault α} {fault : Fault} :
    ofAnswer description answer = .failed fault ↔
      ∃ cause, answer = .error cause ∧ fault = cause.inCall description := by
  cases answer <;> simp [eq_comm]

end Outcome

namespace Program

variable {I J : Interface} {α β : Type}

/-- A run of a program: the calls that it makes with the answers that they get, and how it ends. -/
inductive Runs : Program I α → List (Event I) → Outcome α → Prop where
  | done (a : α) : Runs (.done a) [] (.returned a)
  | fail (fault : Fault) : Runs (.fail fault) [] (.failed fault)
  | exhausted : Runs .exhausted [] .exhausted
  | call {c : I.Call} {next : Except Fault (I.Reply c) → Program I α} {t : List (Event I)}
      {o : Outcome α} (answer : Except Fault (I.Reply c)) (rest : Runs (next answer) t o) :
      Runs (.call c next) (⟨c, answer⟩ :: t) o

/-- The calls of a program that is run against a handler. -/
def trace {σ : Type} (h : Handler I σ) : Program I α → σ → List (Event I)
  | call c next, s =>
    let (answer, s) := h.answer c s
    ⟨c, answer⟩ :: (next answer).trace h s
  | _, _ => []

theorem runs_trace {σ : Type} (h : Handler I σ) (p : Program I α) (s : σ) :
    p.Runs (p.trace h s) (p.run h s).1 := by
  induction p generalizing s with
  | done a => exact .done a
  | fail fault => exact .fail fault
  | exhausted => exact .exhausted
  | call c next ih => exact .call _ (ih _ _)

/-- What a call got in a run against a handler is what the handler answers in some state. -/
theorem exists_answer_of_mem_trace {σ : Type} {h : Handler I σ} {p : Program I α} {s : σ}
    {e : Event I} (he : e ∈ p.trace h s) : ∃ between, e.2 = (h.answer e.1 between).1 := by
  induction p generalizing s with
  | done a => cases he
  | fail fault => cases he
  | exhausted => cases he
  | call c next ih =>
    rcases List.mem_cons.mp he with rfl | hlater
    · exact ⟨s, rfl⟩
    · exact ih _ hlater

@[simp]
theorem runs_done_iff {a : α} {t : List (Event I)} {o : Outcome α} :
    (done a : Program I α).Runs t o ↔ t = [] ∧ o = .returned a := by
  constructor
  · rintro ⟨⟩
    exact ⟨rfl, rfl⟩
  · rintro ⟨rfl, rfl⟩
    exact .done a

@[simp]
theorem runs_fail_iff {fault : Fault} {t : List (Event I)} {o : Outcome α} :
    (fail fault : Program I α).Runs t o ↔ t = [] ∧ o = .failed fault := by
  constructor
  · rintro ⟨⟩
    exact ⟨rfl, rfl⟩
  · rintro ⟨rfl, rfl⟩
    exact .fail fault

@[simp]
theorem runs_exhausted_iff {t : List (Event I)} {o : Outcome α} :
    (exhausted : Program I α).Runs t o ↔ t = [] ∧ o = .exhausted := by
  constructor
  · rintro ⟨⟩
    exact ⟨rfl, rfl⟩
  · rintro ⟨rfl, rfl⟩
    exact .exhausted

theorem runs_call_iff {c : I.Call} {next : Except Fault (I.Reply c) → Program I α}
    {t : List (Event I)} {o : Outcome α} :
    (call c next).Runs t o ↔ ∃ answer rest, t = ⟨c, answer⟩ :: rest ∧ (next answer).Runs rest o := by
  constructor
  · intro h
    cases h with
    | call answer rest => exact ⟨answer, _, rfl, rest⟩
  · rintro ⟨answer, rest, rfl, h⟩
    exact .call answer h

theorem runs_ofExcept_iff {answer : Except Fault α} {t : List (Event I)} {o : Outcome α} :
    (ofExcept answer : Program I α).Runs t o ↔ t = [] ∧ o = .ofExcept answer := by
  cases answer with
  | ok a => exact runs_done_iff
  | error fault => exact runs_fail_iff

theorem done_bind (a : α) (f : α → Program I β) : (pure a >>= f) = f a := rfl

theorem bind_assoc {γ : Type} (p : Program I α) (f : α → Program I β) (g : β → Program I γ) :
    p >>= f >>= g = p >>= fun a ↦ f a >>= g := by
  change (p.bind f).bind g = p.bind fun a ↦ (f a).bind g
  induction p with
  | done a => rfl
  | fail fault => rfl
  | exhausted => rfl
  | call c next ih =>
    simp only [bind]
    congr 1
    funext answer
    exact ih answer

/-- A composed program runs its first part to a value and goes on with it, or ends where that ends. -/
theorem runs_bind_iff {p : Program I α} {f : α → Program I β} {t : List (Event I)}
    {o : Outcome β} :
    (p >>= f).Runs t o ↔
      (∃ t₁ a t₂, t = t₁ ++ t₂ ∧ p.Runs t₁ (.returned a) ∧ (f a).Runs t₂ o) ∨
        ∃ abort, o = .aborted abort ∧ p.Runs t (.aborted abort) := by
  change (p.bind f).Runs t o ↔ _
  induction p generalizing t with
  | done a =>
    constructor
    · intro h
      exact .inl ⟨[], a, t, rfl, .done a, h⟩
    · rintro (⟨t₁, b, t₂, rfl, h, hf⟩ | ⟨abort, rfl, h⟩)
      · obtain ⟨rfl, hb⟩ := runs_done_iff.mp h
        cases hb
        exact hf
      · cases abort <;> simp [Outcome.aborted] at h
  | fail fault =>
    constructor
    · intro h
      obtain ⟨rfl, rfl⟩ := runs_fail_iff.mp h
      exact .inr ⟨some fault, rfl, .fail fault⟩
    · rintro (⟨_, _, _, _, h, _⟩ | ⟨abort, rfl, h⟩)
      · simp at h
      · cases abort <;> simp_all [Outcome.aborted, bind]
  | exhausted =>
    constructor
    · intro h
      obtain ⟨rfl, rfl⟩ := runs_exhausted_iff.mp h
      exact .inr ⟨none, rfl, .exhausted⟩
    · rintro (⟨_, _, _, _, h, _⟩ | ⟨abort, rfl, h⟩)
      · simp at h
      · cases abort <;> simp_all [Outcome.aborted, bind]
  | call c next ih =>
    simp only [bind, runs_call_iff, ih]
    constructor
    · rintro ⟨answer, rest, rfl, ⟨t₁, a, t₂, rfl, hp, hf⟩ | ⟨abort, rfl, hp⟩⟩
      · exact .inl ⟨⟨c, answer⟩ :: t₁, a, t₂, rfl, ⟨answer, t₁, rfl, hp⟩, hf⟩
      · exact .inr ⟨abort, rfl, answer, rest, rfl, hp⟩
    · rintro (⟨_, a, t₂, rfl, ⟨answer, t₁, rfl, hp⟩, hf⟩ | ⟨abort, rfl, answer, rest, rfl, hp⟩)
      · exact ⟨answer, t₁ ++ t₂, rfl, .inl ⟨t₁, a, t₂, rfl, hp, hf⟩⟩
      · exact ⟨answer, rest, rfl, .inr ⟨abort, rfl, hp⟩⟩

theorem runs_bind_returned_iff {p : Program I α} {f : α → Program I β} {t : List (Event I)}
    {b : β} :
    (p >>= f).Runs t (.returned b) ↔
      ∃ t₁ a t₂, t = t₁ ++ t₂ ∧ p.Runs t₁ (.returned a) ∧ (f a).Runs t₂ (.returned b) := by
  rw [runs_bind_iff]
  constructor
  · rintro (hreturned | ⟨abort, ho, _⟩)
    · exact hreturned
    · exact absurd ho.symm (Outcome.aborted_ne_returned _ _)
  · intro hreturned
    exact .inl hreturned

theorem runs_bind_aborted_iff {p : Program I α} {f : α → Program I β} {t : List (Event I)}
    {abort : Option Fault} :
    (p >>= f).Runs t (.aborted abort) ↔
      (∃ t₁ a t₂, t = t₁ ++ t₂ ∧ p.Runs t₁ (.returned a) ∧ (f a).Runs t₂ (.aborted abort)) ∨
        p.Runs t (.aborted abort) := by
  simp [runs_bind_iff]

theorem runs_mapFault_iff {p : Program I α} {f : Fault → Fault} {t : List (Event I)}
    {o : Outcome α} :
    (p.mapFault f).Runs t o ↔ ∃ inner : Outcome α, o = inner.mapFault f ∧ p.Runs t inner := by
  induction p generalizing t with
  | done a => simpa [mapFault] using and_comm
  | fail fault => simpa [mapFault] using and_comm
  | exhausted => simpa [mapFault] using and_comm
  | call c next ih =>
    simp only [mapFault, runs_call_iff, ih]
    constructor
    · rintro ⟨answer, rest, rfl, inner, rfl, h⟩
      exact ⟨inner, rfl, answer, rest, rfl, h⟩
    · rintro ⟨inner, rfl, answer, rest, rfl, h⟩
      exact ⟨answer, rest, rfl, inner, rfl, h⟩

theorem runs_mapFault_returned_iff {p : Program I α} {f : Fault → Fault} {t : List (Event I)}
    {a : α} : (p.mapFault f).Runs t (.returned a) ↔ p.Runs t (.returned a) := by
  rw [runs_mapFault_iff]
  constructor
  · rintro ⟨inner, ho, h⟩
    cases inner <;> cases ho
    exact h
  · intro h
    exact ⟨_, rfl, h⟩

theorem runs_mapFault_aborted_iff {p : Program I α} {f : Fault → Fault} {t : List (Event I)}
    {abort : Option Fault} :
    (p.mapFault f).Runs t (.aborted abort) ↔
      ∃ inner : Option Fault, abort = inner.map f ∧ p.Runs t (.aborted inner) := by
  rw [runs_mapFault_iff]
  constructor
  · rintro ⟨inner, ho, h⟩
    cases inner with
    | returned a => exact absurd ho (Outcome.aborted_ne_returned _ _)
    | failed fault =>
      cases abort <;> cases ho
      exact ⟨some fault, rfl, h⟩
    | exhausted =>
      cases abort <;> cases ho
      exact ⟨none, rfl, h⟩
  · rintro ⟨inner, rfl, h⟩
    refine ⟨.aborted inner, ?_, h⟩
    cases inner <;> rfl

theorem runs_request_iff {c : I.Call} {t : List (Event I)} {o : Outcome (I.Reply c)} :
    (request c).Runs t o ↔ ∃ answer, t = [⟨c, answer⟩] ∧ o = .ofExcept answer := by
  simp only [request, runs_call_iff, runs_ofExcept_iff]
  constructor
  · rintro ⟨answer, _, rfl, rfl, rfl⟩
    exact ⟨answer, rfl, rfl⟩
  · rintro ⟨answer, rfl, rfl⟩
    exact ⟨answer, [], rfl, rfl, rfl⟩

theorem runs_request_returned_iff {c : I.Call} {t : List (Event I)} {reply : I.Reply c} :
    (request c).Runs t (.returned reply) ↔ t = [⟨c, .ok reply⟩] := by
  rw [runs_request_iff]
  constructor
  · rintro ⟨answer, rfl, ho⟩
    cases answer <;> cases ho
    rfl
  · rintro rfl
    exact ⟨_, rfl, rfl⟩

theorem runs_request_aborted_iff {c : I.Call} {t : List (Event I)} {abort : Option Fault} :
    (request c).Runs t (.aborted abort) ↔
      ∃ cause, abort = some cause ∧ t = [⟨c, .error cause⟩] := by
  rw [runs_request_iff]
  constructor
  · rintro ⟨answer, rfl, ho⟩
    cases abort <;> cases answer <;> cases ho
    exact ⟨_, rfl, rfl⟩
  · rintro ⟨cause, rfl, rfl⟩
    exact ⟨_, rfl, rfl⟩

/-- One described call gets one answer, and ends as that answer says. -/
theorem runs_described_request_iff {c : I.Call} {description : String} {t : List (Event I)}
    {o : Outcome (I.Reply c)} :
    ((request c).described description).Runs t o ↔
      ∃ answer, t = [⟨c, answer⟩] ∧ o = .ofAnswer description answer := by
  simp only [described, runs_mapFault_iff, runs_request_iff]
  constructor
  · rintro ⟨_, rfl, answer, rfl, rfl⟩
    exact ⟨answer, rfl, rfl⟩
  · rintro ⟨answer, rfl, rfl⟩
    exact ⟨_, rfl, answer, rfl, rfl⟩

/-- A program that begins with a described call fails with it, or goes on with its reply. -/
theorem runs_described_bind_cases {c : I.Call} {description : String}
    {f : I.Reply c → Program I β} {t : List (Event I)} {o : Outcome β}
    (h : ((request c).described description >>= f).Runs t o) :
    (∃ cause : Fault, t = [⟨c, .error cause⟩] ∧ o = .failed (cause.inCall description)) ∨
      ∃ reply rest, t = ⟨c, .ok reply⟩ :: rest ∧ (f reply).Runs rest o := by
  rcases runs_bind_iff.mp h with ⟨t₁, reply, rest, rfl, hcall, hrest⟩ | ⟨abort, rfl, hcall⟩
  · obtain ⟨answer, rfl, ho⟩ := runs_described_request_iff.mp hcall
    cases Outcome.ofAnswer_eq_returned_iff.mp ho.symm
    exact .inr ⟨reply, rest, rfl, hrest⟩
  · obtain ⟨answer, rfl, ho⟩ := runs_described_request_iff.mp hcall
    obtain ⟨cause, rfl, rfl⟩ := Outcome.aborted_eq_ofAnswer_iff.mp ho
    exact .inl ⟨cause, rfl, rfl⟩

/-- Next to another collaborator a program makes the same calls. -/
theorem runs_beside_iff {p : Program I α} {t : List (Event (I.sum J))} {o : Outcome α} :
    (p.beside : Program (I.sum J) α).Runs t o ↔
      ∃ u : List (Event I), t = u.map Event.beside ∧ p.Runs u o := by
  induction p generalizing t with
  | done a => simp [beside, and_left_comm]
  | fail fault => simp [beside, and_left_comm]
  | exhausted => simp [beside, and_left_comm]
  | call c next ih =>
    constructor
    · intro h
      obtain ⟨answer, rest, rfl, hrest⟩ := runs_call_iff.mp h
      obtain ⟨u, rfl, hu⟩ := (ih answer).mp hrest
      exact ⟨⟨c, answer⟩ :: u, rfl, runs_call_iff.mpr ⟨answer, u, rfl, hu⟩⟩
    · rintro ⟨_, rfl, h⟩
      obtain ⟨answer, u, rfl, hu⟩ := runs_call_iff.mp h
      exact .call (I := I.sum J) (c := .inl c) answer ((ih answer).mpr ⟨u, rfl, hu⟩)

end Program

/-! ## Programs that make only certain calls -/

namespace Program

variable {I J : Interface} {α β : Type} {test : I.Call → Prop}

/-- Whatever answers come, every call that the program makes passes a test. -/
def CallsOnly (test : I.Call → Prop) : Program I α → Prop
  | done _ => True
  | fail _ => True
  | exhausted => True
  | call c next => test c ∧ ∀ answer, (next answer).CallsOnly test

@[simp]
theorem callsOnly_pure (a : α) : (pure a : Program I α).CallsOnly test := trivial

@[simp]
theorem callsOnly_fail (fault : Fault) : (fail fault : Program I α).CallsOnly test := trivial

@[simp]
theorem callsOnly_exhausted : (exhausted : Program I α).CallsOnly test := trivial

@[simp]
theorem callsOnly_ofExcept (answer : Except Fault α) :
    (ofExcept answer : Program I α).CallsOnly test := by
  cases answer <;> trivial

theorem CallsOnly.bind {p : Program I α} {f : α → Program I β} (hp : p.CallsOnly test)
    (hf : ∀ a, (f a).CallsOnly test) : (p >>= f).CallsOnly test := by
  induction p with
  | done a => exact hf a
  | fail fault => trivial
  | exhausted => trivial
  | call c next ih => exact ⟨hp.1, fun answer ↦ ih answer (hp.2 answer)⟩

theorem CallsOnly.mapFault {p : Program I α} (hp : p.CallsOnly test) (f : Fault → Fault) :
    (p.mapFault f).CallsOnly test := by
  induction p with
  | done a => trivial
  | fail fault => trivial
  | exhausted => trivial
  | call c next ih => exact ⟨hp.1, fun answer ↦ ih answer (hp.2 answer)⟩

theorem callsOnly_request {c : I.Call} (hc : test c) : (request c).CallsOnly test :=
  ⟨hc, callsOnly_ofExcept⟩

theorem callsOnly_described_request {c : I.Call} {description : String} (hc : test c) :
    ((request c).described description).CallsOnly test :=
  (callsOnly_request hc).mapFault _

theorem CallsOnly.of_mem_run {p : Program I α} {t : List (Event I)} {o : Outcome α}
    (hp : p.CallsOnly test) (h : p.Runs t o) : ∀ e ∈ t, test e.1 := by
  induction h with
  | done => simp
  | fail => simp
  | exhausted => simp
  | call answer rest ih => exact List.forall_mem_cons.mpr ⟨hp.1, ih (hp.2 answer)⟩

end Program

/-! ## Behaviours of collaborators -/

/-- What a collaborator may answer to a call in a state, and the state that it is in then. -/
abbrev Behaviour (I : Interface) (σ : Type) := σ → (c : I.Call) → Except Fault (I.Reply c) → σ → Prop

namespace Behaviour

variable {I : Interface} {σ τ : Type} {B : Behaviour I σ} {s s' : σ} {t t₁ t₂ : List (Event I)}

/-- A trace that a collaborator allows, from one state to another. -/
def Path (B : Behaviour I σ) : σ → List (Event I) → σ → Prop
  | s, [], s' => s' = s
  | s, e :: t, s' => ∃ between, B s e.1 e.2 between ∧ Path B between t s'

@[simp]
theorem path_nil : B.Path s [] s' ↔ s' = s := Iff.rfl

theorem path_cons {e : Event I} :
    B.Path s (e :: t) s' ↔ ∃ between, B s e.1 e.2 between ∧ B.Path between t s' := Iff.rfl

@[simp]
theorem path_singleton {e : Event I} : B.Path s [e] s' ↔ B s e.1 e.2 s' := by
  simp [path_cons]

theorem path_append :
    B.Path s (t₁ ++ t₂) s' ↔ ∃ between, B.Path s t₁ between ∧ B.Path between t₂ s' := by
  induction t₁ generalizing s with
  | nil => simp
  | cons e t₁ ih =>
    simp only [List.cons_append, path_cons, ih]
    constructor
    · rintro ⟨a, ha, b, hb, h⟩
      exact ⟨b, ⟨a, ha, hb⟩, h⟩
    · rintro ⟨b, ⟨a, ha, hb⟩, h⟩
      exact ⟨a, ha, b, hb, h⟩

/-- A run against a handler, whose states keep to a behaviour in some view, is a path of these views. -/
theorem path_trace {α : Type} {h : Handler I τ} {view : τ → σ}
    (hserve : ∀ c s, B (view s) c (h.answer c s).1 (view (h.answer c s).2)) (p : Program I α)
    (s : τ) : B.Path (view s) (p.trace h s) (view (p.run h s).2) := by
  induction p generalizing s with
  | done => rfl
  | fail => rfl
  | exhausted => rfl
  | call c next ih =>
    have hfirst : B (view s) c (h.answer c s).1 (view (h.answer c s).2) := hserve c s
    exact ⟨_, hfirst, ih _ _⟩

/-- What no call of a trace changes is the same at both ends. -/
theorem Path.view_eq {view : σ → τ} (h : B.Path s t s')
    (hview : ∀ e ∈ t, ∀ a b, B a e.1 e.2 b → view b = view a) : view s' = view s := by
  induction t generalizing s with
  | nil => rw [path_nil.mp h]
  | cons e t ih =>
    obtain ⟨between, he, ht⟩ := path_cons.mp h
    have hfirst : view between = view s := hview e (by simp) _ _ he
    have hrest : view s' = view between :=
      ih ht fun e' he' ↦ hview e' (List.mem_cons_of_mem _ he')
    rw [hrest, hfirst]

end Behaviour

end VpcMachines
