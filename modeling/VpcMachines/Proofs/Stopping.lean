import VpcMachines.Proofs.Ending

/-!
# Why programs stop

The programs here go on as long as their calls are answered. One that ends without a value was stopped:
its last call failed, a listing repeated a cursor, something else was not as it has to be, or a bound on
the pages of a listing cut it off. In all cases but the first every call was answered.
-/

namespace VpcMachines

open Program

variable {I : Interface} {α β : Type}

namespace Fault

variable {description : String} {f : Fault}

@[simp]
theorem isOwn_inCall : (f.inCall description).isOwn = true := by
  unfold inCall
  split
  · assumption
  · rfl

theorem inCall_of_isOwn (h : f.isOwn = true) : f.inCall description = f := if_pos h

theorem inCall_of_foreign (h : f.isOwn = false) :
    f.inCall description = .callFailed description f := by
  simp [inCall, h]

theorem inWalk_of_isStop (h : f.category.isStop = true) : f.inWalk = .walkStopped f := if_pos h

theorem inWalk_of_not_isStop (h : f.category.isStop = false) : f.inWalk = f := by
  simp [inWalk, h]

end Fault

/-- What faults tell about the calls of an interface: how a call is described where its failure is that of
the program, whether it is made inside a walk, and which calls show that a listing repeats a cursor. -/
structure Report (I : Interface) where
  description? : I.Call → Option String
  isWalked : I.Call → Bool
  repeats : List (Event I) → String → Prop
  behind : ∀ t₁ t₂ cursor, repeats t₂ cursor → repeats (t₁ ++ t₂) cursor

namespace Report

variable {R : Report I} {c : I.Call} {cause : Fault}

/-- The fault of a failed call where the call is described, behind the walk that it was made in. -/
def raised (R : Report I) (c : I.Call) (cause : Fault) : Fault :=
  if R.isWalked c then cause.inWalk else cause

theorem raised_of_single (h : R.isWalked c = false) : R.raised c cause = cause := by
  simp [raised, h]

theorem raised_of_walked (h : R.isWalked c = true) : R.raised c cause = cause.inWalk := if_pos h

theorem raised_of_not_isStop (h : cause.category.isStop = false) : R.raised c cause = cause := by
  unfold raised
  split
  · exact Fault.inWalk_of_not_isStop h
  · rfl

end Report

/-- Why a run ends without a value. The fault of a call that is not described is left open. -/
inductive Stopped (R : Report I) (unmet : Fault → Prop) (limit : Nat) :
    List (Event I) → Option Fault → Prop where
  | described {before : List (Event I)} {c : I.Call} {description : String}
      (hbefore : Answered before) (hc : R.description? c = some description) (cause : Fault) :
      Stopped R unmet limit (before ++ [⟨c, .error cause⟩])
        (some ((R.raised c cause).inCall description))
  | undescribed {before : List (Event I)} {c : I.Call} (hbefore : Answered before)
      (hc : R.description? c = none) (cause fault : Fault) :
      Stopped R unmet limit (before ++ [⟨c, .error cause⟩]) (some fault)
  | repeated {t : List (Event I)} {cursor : String} (hcalls : Answered t)
      (hrepeats : R.repeats t cursor) :
      Stopped R unmet limit t (some (.cursorRepeated cursor))
  | unmet {t : List (Event I)} {fault : Fault} (hcalls : Answered t) (hkind : unmet fault) :
      Stopped R unmet limit t (some fault)
  | cutOff {t : List (Event I)} (hcalls : Answered t) (hlong : limit ≤ t.length) :
      Stopped R unmet limit t none

namespace Stopped

variable {R : Report I} {unmet unmet' : Fault → Prop} {limit : Nat} {t t₁ t₂ : List (Event I)}
  {abort : Option Fault}

theorem behind (h₁ : Answered t₁) (h : Stopped R unmet limit t₂ abort) :
    Stopped R unmet limit (t₁ ++ t₂) abort := by
  cases h with
  | described hbefore hc cause =>
    rw [← List.append_assoc]
    exact .described (answered_append.mpr ⟨h₁, hbefore⟩) hc cause
  | undescribed hbefore hc cause fault =>
    rw [← List.append_assoc]
    exact .undescribed (answered_append.mpr ⟨h₁, hbefore⟩) hc cause fault
  | repeated hcalls h => exact .repeated (answered_append.mpr ⟨h₁, hcalls⟩) (R.behind _ _ _ h)
  | unmet hcalls hkind => exact .unmet (answered_append.mpr ⟨h₁, hcalls⟩) hkind
  | cutOff hcalls hlong =>
    refine .cutOff (answered_append.mpr ⟨h₁, hcalls⟩) ?_
    rw [List.length_append]
    omega

theorem mono (h : Stopped R unmet limit t abort) (himp : ∀ fault, unmet fault → unmet' fault) :
    Stopped R unmet' limit t abort := by
  cases h with
  | described hbefore hc cause => exact .described hbefore hc cause
  | undescribed hbefore hc cause fault => exact .undescribed hbefore hc cause fault
  | repeated hcalls hrepeats => exact .repeated hcalls hrepeats
  | unmet hcalls hkind => exact .unmet hcalls (himp _ hkind)
  | cutOff hcalls hlong => exact .cutOff hcalls hlong

/-- Only the last call of a run that is stopped may have failed. -/
theorem answered_dropLast (h : Stopped R unmet limit t abort) : Answered t.dropLast := by
  have hshorter {u : List (Event I)} (hu : Answered u) : Answered u.dropLast :=
    fun e he ↦ hu e (List.dropLast_subset u he)
  cases h with
  | described hbefore => rwa [List.dropLast_concat]
  | undescribed hbefore => rwa [List.dropLast_concat]
  | repeated hcalls => exact hshorter hcalls
  | unmet hcalls => exact hshorter hcalls
  | cutOff hcalls => exact hshorter hcalls

end Stopped

/-- Programs whose calls are answered as long as they go on, and that stop in the ways listed. -/
abbrev Program.Stops (R : Report I) (unmet : Fault → Prop) (limit : Nat) (p : Program I α) : Prop :=
  p.Orderly (fun e ↦ ∃ reply, e.2 = .ok reply) (Stopped R unmet limit)

namespace Program.Stops

variable {R : Report I} {unmet unmet' : Fault → Prop} {limit : Nat} {p : Program I α}
  {t t₁ t₂ : List (Event I)}

theorem andThen {f : α → Program I β} (hp : p.Stops R unmet limit)
    (hf : ∀ a, (f a).Stops R unmet limit) : (p >>= f).Stops R unmet limit :=
  Orderly.bind hp hf fun _ _ _ ↦ Stopped.behind

theorem fail_of_unmet {fault : Fault} (h : unmet fault) :
    (fail fault : Program I α).Stops R unmet limit :=
  .fail (.unmet answered_nil h)

theorem described_request {c : I.Call} {description : String}
    (hc : R.description? c = some description) (hsingle : R.isWalked c = false) :
    ((request c).described description).Stops R unmet limit := by
  constructor
  · intro t reply h
    cases runs_request_returned_iff.mp (runs_mapFault_returned_iff.mp h)
    exact answered_singleton
  · intro t abort h
    obtain ⟨answer, rfl, ho⟩ := runs_described_request_iff.mp h
    obtain ⟨cause, rfl, rfl⟩ := Outcome.aborted_eq_ofAnswer_iff.mp ho
    have hdescribed : Stopped R unmet limit [⟨c, .error cause⟩]
        (some ((R.raised c cause).inCall description)) :=
      .described answered_nil hc cause
    rwa [Report.raised_of_single hsingle] at hdescribed

theorem mono (hp : p.Stops R unmet limit) (himp : ∀ fault, unmet fault → unmet' fault) :
    p.Stops R unmet' limit :=
  ⟨hp.smooth, fun _ _ h ↦ (hp.stopped _ _ h).mono himp⟩

theorem limit_le (hp : p.Stops R unmet limit) (h : p.Runs t .exhausted) : limit ≤ t.length := by
  cases hp.stopped t none h with
  | cutOff _ hlong => exact hlong

/-- Wherever such a program calls something, the calls before were answered. -/
theorem answered_before (hp : p.Stops R unmet limit) {e : Event I} {o : Outcome α}
    (h : p.Runs (t₁ ++ e :: t₂) o) : Answered t₁ := by
  have hstopped {abort : Option Fault} (habort : Stopped R unmet limit (t₁ ++ e :: t₂) abort) :
      Answered t₁ := by
    have hanswered := habort.answered_dropLast
    rw [List.dropLast_append_cons] at hanswered
    exact (answered_append.mp hanswered).1
  cases o with
  | returned a => exact (answered_append.mp (hp.smooth _ _ h)).1
  | failed fault => exact hstopped (hp.stopped _ (some fault) h)
  | exhausted => exact hstopped (hp.stopped _ none h)

end Program.Stops

end VpcMachines
