import VpcMachines.Fault

/-!
# Programs that call collaborators

A program is a value: it ends, or it makes a call and goes on with whatever answer comes, a reply or a
fault. What the collaborators do is left open until a program is run against a handler, which may
answer differently at every call. A walk over a listing that has no end is cut off, which shows as a
program that is exhausted.
-/

namespace VpcMachines

/-- The calls that collaborators offer, and the type of the reply to each. -/
structure Interface where
  Call : Type
  Reply : Call → Type

/-- Two collaborators side by side. -/
def Interface.sum (I J : Interface) : Interface where
  Call := I.Call ⊕ J.Call
  Reply
    | .inl c => I.Reply c
    | .inr c => J.Reply c

inductive Program (I : Interface) (α : Type) where
  | done (value : α)
  | fail (fault : Fault)
  | exhausted
  | call (c : I.Call) (next : Except Fault (I.Reply c) → Program I α)

namespace Program

variable {I J : Interface} {α β : Type}

def bind : Program I α → (α → Program I β) → Program I β
  | done a, f => f a
  | fail fault, _ => fail fault
  | exhausted, _ => exhausted
  | call c next, f => call c fun reply ↦ (next reply).bind f

instance : Monad (Program I) where
  pure := done
  bind := bind

def ofExcept : Except Fault α → Program I α
  | .ok a => done a
  | .error fault => fail fault

/-- One call, which fails if its answer is a fault. -/
def request (c : I.Call) : Program I (I.Reply c) := call c ofExcept

/-- The program with its faults as values. -/
def observe : Program I α → Program I (Except Fault α)
  | done a => done (.ok a)
  | fail fault => done (.error fault)
  | exhausted => exhausted
  | call c next => call c fun reply ↦ (next reply).observe

def mapFault (f : Fault → Fault) : Program I α → Program I α
  | done a => done a
  | fail fault => fail (f fault)
  | exhausted => exhausted
  | call c next => call c fun reply ↦ (next reply).mapFault f

/-- A program as one call, described for the fault that it may end with. -/
def described (description : String) (p : Program I α) : Program I α :=
  p.mapFault (Fault.inCall description)

/-- The program with each call carried out by a program over another interface. -/
def interpret (serve : (c : I.Call) → Program J (I.Reply c)) : Program I α → Program J α
  | done a => done a
  | fail fault => fail fault
  | exhausted => exhausted
  | call c next => (serve c).observe.bind fun reply ↦ (next reply).interpret serve

/-- The program next to another collaborator that it does not call. -/
def beside : Program I α → Program (I.sum J) α
  | done a => done a
  | fail fault => fail fault
  | exhausted => exhausted
  | call c next => @call (I.sum J) α (.inl c) fun reply ↦ (next reply).beside

end Program

/-- How a run ends. -/
inductive Outcome (α : Type) where
  | returned (value : α)
  | failed (fault : Fault)
  | exhausted

/-- A collaborator with a state: what it answers to each call. -/
structure Handler (I : Interface) (σ : Type) where
  answer : (c : I.Call) → σ → Except Fault (I.Reply c) × σ

/-- Two collaborators that share a state. -/
def Handler.sum {I J : Interface} {σ : Type} (h : Handler I σ) (k : Handler J σ) :
    Handler (I.sum J) σ where
  answer
    | .inl c, s => h.answer c s
    | .inr c, s => k.answer c s

/-- Runs a program to its end. -/
def Program.run {I : Interface} {σ α : Type} (h : Handler I σ) :
    Program I α → σ → Outcome α × σ
  | done a, s => (.returned a, s)
  | fail fault, s => (.failed fault, s)
  | exhausted, s => (.exhausted, s)
  | call c next, s =>
    let (reply, s) := h.answer c s
    (next reply).run h s

end VpcMachines
