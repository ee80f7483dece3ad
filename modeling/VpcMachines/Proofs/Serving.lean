import VpcMachines.Proofs.Stopping

/-!
# Programs that are carried out over another interface

Where each call of a program is carried out by a program over another interface, a run is made up of one
run for each call (`interpretRun_of_runs`). If each of these heeds refusals, which means that it ends at
the first one with a provider fault of the same status, then so does the whole, because the program stops
where a call fails, and a fault of the family comes through as it is.
-/

namespace VpcMachines

open Program

variable {I J : Interface} {α : Type} {t : List (Event J)}

namespace Program

theorem runs_observe_cases {p : Program J α} {o : Outcome (Except Fault α)}
    (h : p.observe.Runs t o) :
    (∃ answer, o = .returned answer ∧ p.Runs t (.ofExcept answer)) ∨
      (o = .exhausted ∧ p.Runs t .exhausted) := by
  induction p generalizing t with
  | done a =>
    obtain ⟨rfl, rfl⟩ := runs_done_iff.mp h
    exact .inl ⟨.ok a, rfl, .done a⟩
  | fail fault =>
    obtain ⟨rfl, rfl⟩ := runs_done_iff.mp h
    exact .inl ⟨.error fault, rfl, .fail fault⟩
  | exhausted =>
    obtain ⟨rfl, rfl⟩ := runs_exhausted_iff.mp h
    exact .inr ⟨rfl, .exhausted⟩
  | call c next ih =>
    obtain ⟨answer, rest, rfl, hrest⟩ := runs_call_iff.mp h
    rcases ih answer hrest with ⟨result, rfl, hrun⟩ | ⟨rfl, hrun⟩
    · exact .inl ⟨result, rfl, .call answer hrun⟩
    · exact .inr ⟨rfl, .call answer hrun⟩

end Program

/-! ## One run for each call -/

/-- Each call was carried out by a run that gave its answer, one after the other. -/
inductive Served (serve : (c : I.Call) → Program J (I.Reply c)) :
    List (Event I) → List (Event J) → Prop where
  | nil : Served serve [] []
  | cons {c : I.Call} {answer : Except Fault (I.Reply c)} {u : List (Event I)}
      {t rest : List (Event J)} (first : (serve c).Runs t (.ofExcept answer))
      (others : Served serve u rest) : Served serve (⟨c, answer⟩ :: u) (t ++ rest)

variable {serve : (c : I.Call) → Program J (I.Reply c)} {p : Program I α}
  {u u₁ u₂ : List (Event I)}

theorem Served.append_cases (h : Served serve (u₁ ++ u₂) t) :
    ∃ t₁ t₂, t = t₁ ++ t₂ ∧ Served serve u₁ t₁ ∧ Served serve u₂ t₂ := by
  induction u₁ generalizing t with
  | nil => exact ⟨[], t, rfl, .nil, h⟩
  | cons e u₁ ih =>
    cases h with
    | cons first others =>
      obtain ⟨t₁, t₂, rfl, h₁, h₂⟩ := ih others
      exact ⟨_, t₂, (List.append_assoc _ _ _).symm, .cons first h₁, h₂⟩

theorem Served.exists_run (h : Served serve u t) {e : Event I} (he : e ∈ u) :
    ∃ inner, (serve e.1).Runs inner (.ofExcept e.2) ∧ inner ⊆ t := by
  induction h with
  | nil => cases he
  | cons first others ih =>
    rcases List.mem_cons.mp he with rfl | hlater
    · exact ⟨_, first, List.subset_append_left _ _⟩
    · obtain ⟨inner, hrun, hsub⟩ := ih hlater
      exact ⟨inner, hrun, List.subset_append_of_subset_right _ hsub⟩

/-- The runs of a program that is carried out. It may be cut off while a call is. -/
inductive InterpretRun (serve : (c : I.Call) → Program J (I.Reply c)) (p : Program I α) :
    List (Event J) → Outcome α → Prop where
  | served {u : List (Event I)} {t : List (Event J)} {o : Outcome α} (run : p.Runs u o)
      (calls : Served serve u t) : InterpretRun serve p t o
  | cutOff {u behind : List (Event I)} {t₁ t₂ : List (Event J)} {c : I.Call}
      {answer : Except Fault (I.Reply c)} {o : Outcome α}
      (run : p.Runs (u ++ ⟨c, answer⟩ :: behind) o) (calls : Served serve u t₁)
      (last : (serve c).Runs t₂ .exhausted) : InterpretRun serve p (t₁ ++ t₂) .exhausted

/-- A program is carried out in one of the ways listed. -/
theorem interpretRun_of_runs {o : Outcome α} (h : (p.interpret serve).Runs t o) :
    InterpretRun serve p t o := by
  induction p generalizing t with
  | done a =>
    obtain ⟨rfl, rfl⟩ := runs_done_iff.mp h
    exact .served (.done a) .nil
  | fail fault =>
    obtain ⟨rfl, rfl⟩ := runs_fail_iff.mp h
    exact .served (.fail fault) .nil
  | exhausted =>
    obtain ⟨rfl, rfl⟩ := runs_exhausted_iff.mp h
    exact .served .exhausted .nil
  | call c next ih =>
    rcases runs_bind_iff.mp h with ⟨t₁, reply, t₂, rfl, hcall, hrest⟩ | ⟨abort, rfl, hcall⟩
    · rcases runs_observe_cases hcall with ⟨answer, ho, hserve⟩ | ⟨ho, _⟩
      · cases ho
        cases ih reply hrest with
        | served run calls => exact .served (.call reply run) (.cons hserve calls)
        | cutOff run calls last =>
          rw [← List.append_assoc]
          exact .cutOff (.call reply run) (.cons hserve calls) last
      · cases ho
    · rcases runs_observe_cases hcall with ⟨answer, ho, _⟩ | ⟨ho, hserve⟩
      · exact absurd ho (Outcome.aborted_ne_returned _ _)
      · cases abort <;> cases ho
        -- what the program would have done with an answer does not matter
        obtain ⟨behind, o, hbehind⟩ := exists_runs (next (.error .unimplemented))
        have hrun : (call c next).Runs ([] ++ ⟨c, .error .unimplemented⟩ :: behind) o :=
          .call _ hbehind
        exact .cutOff hrun .nil hserve

/-- An event of the run that carries out a call of a program, with what was carried out before it. -/
inductive Served.Within (serve : (c : I.Call) → Program J (I.Reply c)) (p : Program I α)
    (t : List (Event J)) (e : Event J) : Prop where
  | intro {before behind : List (Event I)} {c : I.Call} {answer : Except Fault (I.Reply c)}
      {o : Outcome α} {front inner : List (Event J)} {ending : Outcome (I.Reply c)}
      (run : p.Runs (before ++ ⟨c, answer⟩ :: behind) o) (earlier : Served serve before front)
      (hfront : front ⊆ t) (call : (serve c).Runs inner ending) (he : e ∈ inner)

theorem Served.exists_call (h : Served serve u t) {e : Event J} (he : e ∈ t) :
    ∃ before c answer behind front inner, u = before ++ ⟨c, answer⟩ :: behind ∧
      Served serve before front ∧ front ⊆ t ∧ (serve c).Runs inner (.ofExcept answer) ∧ e ∈ inner := by
  induction h with
  | nil => cases he
  | @cons c answer u first rest hfirst others ih =>
    rcases List.mem_append.mp he with hnow | hlater
    · exact ⟨[], c, answer, u, [], first, rfl, .nil, List.nil_subset _, hfirst, hnow⟩
    · obtain ⟨before, c', answer', behind, front, inner, rfl, hbefore, hfront, hinner, hmem⟩ :=
        ih hlater
      refine ⟨⟨c, answer⟩ :: before, c', answer', behind, first ++ front, inner, rfl,
        .cons hfirst hbefore, ?_, hinner, hmem⟩
      exact List.append_subset.mpr ⟨List.subset_append_left _ _,
        List.subset_append_of_subset_right _ hfront⟩

/-- Whatever is asked, it is asked to carry out some call of the program. -/
theorem InterpretRun.within {o : Outcome α} (h : InterpretRun serve p t o) {e : Event J}
    (he : e ∈ t) : Served.Within serve p t e := by
  cases h with
  | served run calls =>
    obtain ⟨before, c, answer, behind, front, inner, rfl, hbefore, hfront, hinner, hmem⟩ :=
      calls.exists_call he
    exact .intro run hbefore hfront hinner hmem
  | @cutOff u behind t₁ t₂ c answer o run calls last =>
    rcases List.mem_append.mp he with hearlier | hlast
    · obtain ⟨before, c', answer', rest, front, inner, rfl, hbefore, hfront, hinner, hmem⟩ :=
        calls.exists_call hearlier
      rw [List.append_assoc, List.cons_append] at run
      exact .intro run hbefore (List.subset_append_of_subset_left _ hfront) hinner hmem
    · exact .intro run calls (List.subset_append_left _ _) last hlast

/-! ## Refusals -/

/-- At most the last event is a refusal, and then the fault has the status of it. -/
inductive Heeded (refusal? : Event J → Option Int) : List (Event J) → Option Fault → Prop where
  | refused {before : List (Event J)} {e : Event J} {status : Int} {fault : Fault}
      (hbefore : ∀ e ∈ before, refusal? e = none) (he : refusal? e = some status)
      (hkind : fault.category = .provider) (hstatus : fault.status? = some status) :
      Heeded refusal? (before ++ [e]) (some fault)
  | other {t : List (Event J)} {abort : Option Fault} (h : ∀ e ∈ t, refusal? e = none) :
      Heeded refusal? t abort

variable {refusal? : Event J → Option Int} {t₁ t₂ : List (Event J)} {abort : Option Fault}

theorem Heeded.behind (h₁ : ∀ e ∈ t₁, refusal? e = none) (h : Heeded refusal? t₂ abort) :
    Heeded refusal? (t₁ ++ t₂) abort := by
  cases h with
  | refused hbefore he hkind hstatus =>
    rw [← List.append_assoc]
    exact .refused (List.forall_mem_append.mpr ⟨h₁, hbefore⟩) he hkind hstatus
  | other h => exact .other (List.forall_mem_append.mpr ⟨h₁, h⟩)

/-- Programs that end at the first refusal. -/
abbrev Program.Heeds (refusal? : Event J → Option Int) (p : Program J α) : Prop :=
  p.Orderly (fun e ↦ refusal? e = none) (Heeded refusal?)

/-- Programs that are cut off by a bound on their calls only. -/
def Program.Bounded (limit : Nat) (p : Program I α) : Prop :=
  ∀ t, p.Runs t .exhausted → limit ≤ t.length

/-- Programs that can carry out a call: they heed refusals, and to return anything they have to ask. -/
structure Program.IsService (refusal? : Event J → Option Int) (limit : Nat) (p : Program J α) :
    Prop where
  heeds : p.Heeds refusal?
  bounded : p.Bounded limit
  asks : ∀ t a, p.Runs t (.returned a) → t ≠ []

variable {limit : Nat}

/-- Where all calls got replies, nothing was refused, and for each of them something was asked. -/
theorem Served.accepted (hserve : ∀ c, (serve c).IsService refusal? limit) (h : Served serve u t)
    (hu : Answered u) : (∀ e ∈ t, refusal? e = none) ∧ u.length ≤ t.length := by
  induction h with
  | nil => exact ⟨List.forall_mem_nil _, Nat.le_refl _⟩
  | @cons c answer u first rest hfirst others ih =>
    obtain ⟨⟨_, hreply⟩, hu⟩ := List.forall_mem_cons.mp hu
    obtain ⟨hrest, hlength⟩ := ih hu
    cases answer with
    | error cause => cases hreply
    | ok reply =>
      have hasked : 0 < first.length := List.length_pos_iff.mpr ((hserve c).asks _ _ hfirst)
      refine ⟨List.forall_mem_append.mpr ⟨(hserve c).heeds.smooth _ _ hfirst, hrest⟩, ?_⟩
      rw [List.length_cons, List.length_append]
      omega

/-- Behind a refusal nothing follows, and the program fails with its status. -/
theorem Program.Heeds.refused {p : Program J α} {o : Outcome α} (hp : p.Heeds refusal?)
    (h : p.Runs t o) {before behind : List (Event J)} {e : Event J} {status : Int}
    (ht : t = before ++ e :: behind) (he : refusal? e = some status) :
    behind = [] ∧ ∃ fault, o = .failed fault ∧ fault.category = .provider ∧
      fault.status? = some status := by
  have hmem : e ∈ t := by rw [ht]; simp
  have hmarked : refusal? e ≠ none := by rw [he]; exact Option.some_ne_none status
  have hnot (hnone : ∀ e ∈ t, refusal? e = none) : False := hmarked (hnone e hmem)
  cases o with
  | returned a => exact (hnot (hp.smooth _ _ h)).elim
  | exhausted =>
    cases hp.stopped t none h with
    | other hnone => exact (hnot hnone).elim
  | failed fault =>
    cases hp.stopped t (some fault) h with
    | other hnone => exact (hnot hnone).elim
    | refused hbefore hlast hkind hstatus =>
      have hquiet := fun e he ↦ not_not_intro (hbefore e he)
      obtain ⟨_, rfl, rfl⟩ := eq_last_of_marked hquiet ht hmarked
      rw [he] at hlast
      cases hlast
      exact ⟨rfl, fault, rfl, hkind, hstatus⟩

variable {R : Report I} {unmet : Fault → Prop}

/-- What a run that is stopped heeds, the runs that carried out its calls heed. -/
theorem Stopped.heeded (hserve : ∀ c, (serve c).IsService refusal? limit)
    (hquiet : ∀ c, R.description? c = none → ∀ t fault, (serve c).Runs t (.failed fault) →
      ∀ e ∈ t, refusal? e = none)
    (hstopped : Stopped R unmet limit u abort) (h : Served serve u t) : Heeded refusal? t abort := by
  cases hstopped with
  | described hbefore hc cause =>
    obtain ⟨t₁, t₂, rfl, h₁, h₂⟩ := h.append_cases
    obtain ⟨hfront, _⟩ := h₁.accepted hserve hbefore
    cases h₂ with
    | cons hfailed others =>
      cases others
      rw [List.append_nil]
      refine .behind hfront ?_
      cases (hserve _).heeds.stopped _ (some cause) hfailed with
      | refused hearlier he hkind hstatus =>
        have hown : cause.isOwn = true := by rw [Fault.isOwn, hkind]; rfl
        rw [Report.raised_of_not_isStop (by rw [hkind]; rfl), Fault.inCall_of_isOwn hown]
        exact .refused hearlier he hkind hstatus
      | other hnone => exact .other hnone
  | undescribed hbefore hc cause fault =>
    obtain ⟨t₁, t₂, rfl, h₁, h₂⟩ := h.append_cases
    obtain ⟨hfront, _⟩ := h₁.accepted hserve hbefore
    cases h₂ with
    | cons hfailed others =>
      cases others
      rw [List.append_nil]
      exact .behind hfront (.other (hquiet _ hc _ cause hfailed))
  | repeated hcalls => exact .other (h.accepted hserve hcalls).1
  | unmet hcalls => exact .other (h.accepted hserve hcalls).1
  | cutOff hcalls => exact .other (h.accepted hserve hcalls).1

/-- A program that stops where a call fails heeds refusals as the services do that carry it out. -/
theorem Program.Stops.heeds_interpret (hp : p.Stops R unmet limit)
    (hserve : ∀ c, (serve c).IsService refusal? limit)
    (hquiet : ∀ c, R.description? c = none → ∀ t fault, (serve c).Runs t (.failed fault) →
      ∀ e ∈ t, refusal? e = none) : (p.interpret serve).Heeds refusal? := by
  constructor
  · intro t a h
    have hrun := interpretRun_of_runs h
    generalize ho : Outcome.returned a = o at hrun
    cases hrun with
    | served run calls =>
      subst ho
      exact (calls.accepted hserve (hp.smooth _ _ run)).1
    | cutOff => cases ho
  · intro t abort h
    have hrun := interpretRun_of_runs h
    generalize ho : (Outcome.aborted abort : Outcome α) = o at hrun
    cases hrun with
    | served run calls =>
      subst ho
      exact (hp.stopped _ _ run).heeded hserve hquiet calls
    | cutOff run calls last =>
      cases abort <;> cases ho
      have hfront := (calls.accepted hserve (hp.answered_before run)).1
      have hcut : Heeded refusal? _ none := (hserve _).heeds.stopped _ none last
      exact .behind hfront hcut

theorem Program.Stops.bounded_interpret (hp : p.Stops R unmet limit)
    (hserve : ∀ c, (serve c).IsService refusal? limit) : (p.interpret serve).Bounded limit := by
  intro t h
  have hrun := interpretRun_of_runs h
  generalize ho : (Outcome.exhausted : Outcome α) = o at hrun
  cases hrun with
  | served run calls =>
    subst ho
    cases hp.stopped _ none run with
    | cutOff hcalls hlong => exact Nat.le_trans hlong (calls.accepted hserve hcalls).2
  | cutOff run calls last =>
    have hlong := (hserve _).bounded _ last
    rw [List.length_append]
    omega

end VpcMachines
