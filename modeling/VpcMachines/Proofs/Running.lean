import VpcMachines.Proofs.Trace

/-!
# Runs of composed programs against a handler

A run against a handler from one of its states has a trace, an end and a state behind it. The run of a
composed program is put together from the runs of its parts, each from the state that the one before
left.
-/

namespace VpcMachines

namespace Program

variable {I : Interface} {α β σ : Type} {h : Handler I σ} {p : Program I α} {s s' s'' : σ}
  {t t' : List (Event I)} {o : Outcome β}

/-- A run against a handler, from one of its states to another. -/
structure RunsTo (h : Handler I σ) (p : Program I α) (s : σ) (t : List (Event I)) (o : Outcome α)
    (s' : σ) : Prop where
  trace_eq : p.trace h s = t
  run_eq : p.run h s = (o, s')

namespace RunsTo

theorem pure (a : α) : RunsTo h (Pure.pure a) s [] (.returned a) s := ⟨rfl, rfl⟩

theorem exhausted : RunsTo h (exhausted : Program I α) s [] .exhausted s := ⟨rfl, rfl⟩

theorem call {c : I.Call} {answer : Except Fault (I.Reply c)}
    {next : Except Fault (I.Reply c) → Program I α} {o : Outcome α}
    (hanswer : h.answer c s = (answer, s')) (hnext : RunsTo h (next answer) s' t o s'') :
    RunsTo h (.call c next) s (⟨c, answer⟩ :: t) o s'' := by
  constructor
  · rw [Program.trace, hanswer]
    exact congrArg _ hnext.trace_eq
  · rw [Program.run, hanswer]
    exact hnext.run_eq

theorem ofExcept (answer : Except Fault α) :
    RunsTo h (.ofExcept answer) s [] (.ofExcept answer) s := by
  cases answer <;> exact ⟨rfl, rfl⟩


theorem bind {a : α} {f : α → Program I β} (hp : RunsTo h p s t (.returned a) s')
    (hf : RunsTo h (f a) s' t' o s'') : RunsTo h (p >>= f) s (t ++ t') o s'' := by
  change RunsTo h (p.bind f) s _ o s''
  induction p generalizing s t with
  | done b =>
    obtain ⟨rfl, hrun⟩ := hp
    cases hrun
    exact hf
  | fail fault => cases hp.run_eq
  | exhausted => cases hp.run_eq
  | call c next ih =>
    obtain ⟨rfl, hrun⟩ := hp
    exact .call rfl (ih _ ⟨rfl, hrun⟩)

theorem bind_done {a : α} {b : β} {f : α → Program I β} (hp : RunsTo h p s t (.returned a) s')
    (hf : f a = .done b) : RunsTo h (p >>= f) s t (.returned b) s' := by
  have hdone : RunsTo h (f a) s' [] (.returned b) s' := by
    rw [hf]
    exact .pure b
  have hbind := hp.bind hdone
  rwa [List.append_nil] at hbind

theorem bind_exhausted {f : α → Program I β} (hp : RunsTo h p s t .exhausted s') :
    RunsTo h (p >>= f) s t .exhausted s' := by
  change RunsTo h (p.bind f) s t _ s'
  induction p generalizing s t with
  | done b => cases hp.run_eq
  | fail fault => cases hp.run_eq
  | exhausted =>
    obtain ⟨rfl, hrun⟩ := hp
    cases hrun
    exact .exhausted
  | call c next ih =>
    obtain ⟨rfl, hrun⟩ := hp
    exact .call rfl (ih _ ⟨rfl, hrun⟩)

theorem observe {answer : Except Fault α} (hp : RunsTo h p s t (.ofExcept answer) s') :
    RunsTo h p.observe s t (.returned answer) s' := by
  induction p generalizing s t with
  | done b =>
    obtain ⟨rfl, hrun⟩ := hp
    cases answer <;> cases hrun
    exact .pure _
  | fail fault =>
    obtain ⟨rfl, hrun⟩ := hp
    cases answer <;> cases hrun
    exact .pure _
  | exhausted => cases answer <;> cases hp.run_eq
  | call c next ih =>
    obtain ⟨rfl, hrun⟩ := hp
    exact .call rfl (ih _ ⟨rfl, hrun⟩)

end RunsTo

end Program

end VpcMachines
