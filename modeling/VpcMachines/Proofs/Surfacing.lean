import VpcMachines.Pool.Membership
import VpcMachines.Proofs.Lookups
import VpcMachines.Proofs.Machine.Bootstrap

/-!
# How failures of calls surface

Where a call to the cloud fails, no operation goes on: the operation fails with the same fault if it is
one of the family, and otherwise with a provider fault that wraps it once and names the call
(`failures_surface`). Only the end of an iteration, raised by a call for a page, does not get out of the
walk as it is: what is wrapped then is the fault that the walk makes of it. Unless a call failed, an
operation that fails with a provider fault met a listing that repeats a cursor. Nothing is assumed about
the collaborators.
-/

namespace VpcMachines

open Program

variable {I : Interface} {α : Type}

/-- An operation fails with `fault` because a call failed for `cause`. -/
structure Fault.SurfacesAs (cause : Fault) (description : String) (fault : Fault) : Prop where
  own : cause.isOwn = true → fault = cause
  foreign : cause.isOwn = false → fault.category = .provider ∧ fault.cause? = some cause ∧
    fault.message = s!"{description}: {cause.message}" ∧ fault.status? = none

/-- An operation fails with `fault` because a call inside a walk ended an iteration, which is `cause`. -/
structure Fault.StopsAs (cause : Fault) (description : String) (fault : Fault) : Prop where
  category : fault.category = .provider
  between : ∃ between, fault.cause? = some between ∧ between.category = .runtime ∧
    between.cause? = some cause
  message : fault.message = description ++ ": " ++ "generator raised StopIteration"
  status : fault.status? = none

theorem Fault.surfacesAs_inCall (cause : Fault) (description : String) :
    cause.SurfacesAs description (cause.inCall description) := by
  constructor
  · intro hown
    exact inCall_of_isOwn hown
  · intro hforeign
    rw [inCall_of_foreign hforeign]
    exact ⟨rfl, rfl, rfl, rfl⟩

theorem Fault.stopsAs_inCall (cause : Fault) (description : String) :
    cause.StopsAs description ((Fault.walkStopped cause).inCall description) := by
  have hforeign : (Fault.walkStopped cause).isOwn = false := rfl
  rw [inCall_of_foreign hforeign]
  exact ⟨rfl, ⟨_, rfl, rfl, rfl⟩, rfl, rfl⟩

/-- An operation fails with `fault` because the call `c` failed for `cause`. -/
structure Surfaced (R : Report I) (c : I.Call) (cause : Fault) (description : String)
    (fault : Fault) : Prop where
  asIs : ¬(R.isWalked c = true ∧ cause.category.isStop = true) → cause.SurfacesAs description fault
  stopped : R.isWalked c = true → cause.category.isStop = true → cause.StopsAs description fault

theorem surfaced_inCall (R : Report I) (c : I.Call) (cause : Fault) (description : String) :
    Surfaced R c cause description ((R.raised c cause).inCall description) := by
  constructor
  · intro hother
    have hraised : R.raised c cause = cause := by
      rcases not_and_or.mp hother with hsingle | hkind
      · exact Report.raised_of_single (Bool.eq_false_iff.mpr hsingle)
      · exact Report.raised_of_not_isStop (Bool.eq_false_iff.mpr hkind)
    rw [hraised]
    exact Fault.surfacesAs_inCall cause description
  · intro hwalked hkind
    rw [Report.raised_of_walked hwalked, Fault.inWalk_of_isStop hkind]
    exact Fault.stopsAs_inCall cause description

/-- What the operation with the calls `t` and the end `o` makes of failures. -/
structure Transparent (R : Report I) (t : List (Event I)) (o : Outcome α) : Prop where
  /-- Behind a described call that failed nothing is called, and the operation fails for its cause. -/
  surfaced : ∀ (before behind : List (Event I)) (c : I.Call) (cause : Fault) (description : String),
    t = before ++ ⟨c, .error cause⟩ :: behind → R.description? c = some description →
    behind = [] ∧ ∃ fault, o = .failed fault ∧ Surfaced R c cause description fault
  /-- A provider fault behind answered calls is that of a repeated cursor. -/
  provider : ∀ fault, Answered t → o = .failed fault → fault.category = .provider →
    ∃ cursor, fault = .cursorRepeated cursor ∧ R.repeats t cursor

variable {R : Report I} {limit : Nat} {t : List (Event I)} {abort : Option Fault}

theorem Transparent.of_answered {o : Outcome α} (h : Answered t)
    (ho : ∀ fault, o = .failed fault → fault.category = .provider →
      ∃ cursor, fault = .cursorRepeated cursor ∧ R.repeats t cursor) : Transparent R t o := by
  constructor
  · intro before behind c cause description ht
    rw [ht] at h
    exact absurd h not_answered_of_failed
  · intro fault _
    exact ho fault

/-- Where the last call failed, only that call has to surface. -/
theorem Transparent.of_failed {o : Outcome α} {before : List (Event I)} {c : I.Call} {cause : Fault}
    (hbefore : Answered before)
    (hc : ∀ description, R.description? c = some description →
      ∃ fault, o = .failed fault ∧ Surfaced R c cause description fault) :
    Transparent R (before ++ [⟨c, .error cause⟩]) o := by
  constructor
  · intro front behind c' cause' description ht hdescription
    obtain ⟨_, hlast, rfl⟩ := eq_last_of_failed hbefore ht
    cases hlast
    exact ⟨rfl, hc description hdescription⟩
  · intro fault hcalls
    exact absurd hcalls not_answered_of_failed

/-- Programs that by themselves fail with no provider fault. -/
abbrev Program.IsTransparent (R : Report I) (limit : Nat) (p : Program I α) : Prop :=
  p.Stops R (fun fault ↦ fault.category ≠ .provider) limit

theorem Stopped.transparent {unmet : Fault → Prop}
    (hunmet : ∀ fault, unmet fault → fault.category ≠ .provider)
    (h : Stopped R unmet limit t abort) : Transparent R t (.aborted abort : Outcome α) := by
  cases h with
  | described hbefore hc cause =>
    refine .of_failed hbefore fun description hdescription ↦ ?_
    rw [hc] at hdescription
    cases hdescription
    exact ⟨_, rfl, surfaced_inCall R _ cause _⟩
  | undescribed hbefore hc cause fault =>
    refine .of_failed hbefore fun description hdescription ↦ ?_
    rw [hc] at hdescription
    cases hdescription
  | repeated hcalls hrepeats =>
    refine .of_answered hcalls fun fault ho _ ↦ ?_
    cases ho
    exact ⟨_, rfl, hrepeats⟩
  | unmet hcalls hkind =>
    refine .of_answered hcalls fun fault ho hprovider ↦ ?_
    cases ho
    exact absurd hprovider (hunmet _ hkind)
  | cutOff hcalls => exact .of_answered hcalls nofun

theorem Program.IsTransparent.transparent {p : Program I α} {o : Outcome α}
    (hp : p.IsTransparent R limit) (h : p.Runs t o) : Transparent R t o := by
  cases o with
  | returned a => exact .of_answered (hp.smooth _ _ h) nofun
  | failed fault => exact (hp.stopped t (some fault) h).transparent fun _ hkind ↦ hkind
  | exhausted => exact (hp.stopped t none h).transparent fun _ hkind ↦ hkind

theorem Program.IsLookup.isTransparent {p : Program Cloud α} (hp : p.IsLookup limit) :
    p.IsTransparent Cloud.report limit :=
  hp.mono fun _ hkind ↦ hkind.2

/-! ## Next to what is at hand -/

/-- Of what is at hand only the lookup of the account is described. -/
def Machine.report : Report (Cloud.sum Local) where
  description?
    | .inl c => some c.description
    | .inr .account => some "looking up account ID"
    | .inr _ => none
  isWalked
    | .inl c => c.isListing
    | .inr _ => false
  repeats t cursor := ∃ before u, t = before ++ u.map Event.beside ∧ Cloud.RepeatsCursor u cursor
  behind t₁ _ _ := by
    rintro ⟨before, u, rfl, h⟩
    exact ⟨t₁ ++ before, u, (List.append_assoc _ _ _).symm, h⟩

theorem Stopped.beside {unmet : Fault → Prop} {t : List (Event Cloud)}
    (h : Stopped Cloud.report unmet limit t abort) :
    Stopped Machine.report unmet limit (t.map Event.beside) abort := by
  cases h with
  | @described before c description hbefore hc cause =>
    rw [List.map_append]
    exact .described (R := Machine.report) (c := .inl c) (answered_map_beside.mpr hbefore) hc cause
  | undescribed _ hc => cases hc
  | repeated hcalls hrepeats =>
    exact .repeated (answered_map_beside.mpr hcalls) ⟨[], _, rfl, hrepeats⟩
  | unmet hcalls hkind => exact .unmet (answered_map_beside.mpr hcalls) hkind
  | cutOff hcalls hlong =>
    refine .cutOff (answered_map_beside.mpr hcalls) ?_
    rwa [List.length_map]

theorem Program.Stops.beside {unmet : Fault → Prop} {p : Program Cloud α}
    (hp : p.Stops Cloud.report unmet limit) :
    (p.beside : Machine.Action α).Stops Machine.report unmet limit := by
  constructor
  · intro t a h
    obtain ⟨u, rfl, hu⟩ := runs_beside_iff.mp h
    exact answered_map_beside.mpr (hp.smooth _ _ hu)
  · intro t abort h
    obtain ⟨u, rfl, hu⟩ := runs_beside_iff.mp h
    exact (hp.stopped _ _ hu).beside

/-! ## The operations -/

namespace Pool

variable {loadBalancer pool : String}

theorem isTransparent_fetch : (fetch loadBalancer).IsTransparent Cloud.report limit := by
  refine .andThen (.described_request rfl rfl) fun record ↦ ?_
  cases record with
  | none => exact .fail_of_unmet nofun
  | some b => exact .pure b

theorem isTransparent_members : (members loadBalancer pool).IsTransparent Cloud.report limit :=
  .andThen (.described_request rfl rfl) fun _ ↦ .pure _

theorem isTransparent_requireActive (b : LoadBalancer) :
    (requireActive loadBalancer b).IsTransparent Cloud.report limit := by
  unfold requireActive
  split
  · exact .pure ()
  · exact .fail_of_unmet nofun

theorem isTransparent_addressOf (found : Option Instance) :
    (addressOf found).IsTransparent Cloud.report limit := by
  cases found with
  | none => exact .fail_of_unmet nofun
  | some i => exact .pure _

theorem isTransparent_ensureMember (limit : Nat) (settings : Settings) (address : String)
    (port : Option Int) :
    (ensureMember settings loadBalancer address port).IsTransparent Cloud.report limit := by
  unfold ensureMember
  simp only
  split
  · exact .fail_of_unmet nofun
  · refine .andThen isTransparent_fetch fun b ↦ ?_
    split
    · exact .fail_of_unmet nofun
    · refine .andThen (isTransparent_requireActive b) fun _ ↦
        .andThen isTransparent_members fun present ↦ ?_
      split
      · exact .pure _
      · exact .described_request rfl rfl

theorem isTransparent_deleteMember (limit : Nat) (instanceId : String) :
    (deleteMember loadBalancer instanceId).IsTransparent Cloud.report limit := by
  refine .andThen isTransparent_fetch fun b ↦ ?_
  split
  · exact .pure ()
  · refine .andThen (.described_request rfl rfl) fun found ↦
      .andThen (isTransparent_requireActive b) fun _ ↦
        .andThen isTransparent_members fun present ↦ ?_
    split
    · exact .pure ()
    · refine .andThen (isTransparent_addressOf found) fun address ↦ ?_
      split
      · exact .pure ()
      · exact .described_request rfl rfl

end Pool

namespace Machine

theorem isTransparent_delete (limit : Nat) (status : MachineStatus) :
    (delete status).IsTransparent Cloud.report limit := by
  unfold delete
  split
  · exact .pure ()
  · exact .described_request rfl rfl

/-- Reading the bootstrap text calls what is at hand, whose failures are not described. -/
theorem isTransparent_bootstrapData (spec : MachineSpec) :
    (bootstrapData spec).IsTransparent report limit := by
  constructor
  · intro t text h
    obtain ⟨name, secret, key, value, _, _, _, rfl⟩ := bootstrapObtained_of_runs h
    exact answered_append.mpr ⟨answered_singleton, answered_singleton⟩
  · intro t abort h
    obtain ⟨fault, rfl, hlacking | hunguarded⟩ := lacking_or_unguarded_of_runs h
    · cases hlacking with
      | unnamed => exact .unmet answered_nil nofun
      | unreadable _ cause => exact .undescribed (R := report) answered_nil rfl cause _
      | missing =>
        exact .unmet (answered_append.mpr ⟨answered_singleton, answered_singleton⟩) nofun
    · cases hunguarded with
      | keyless =>
        exact .undescribed (R := report) (c := .inr .dataKey) answered_singleton rfl fault fault
      | undecodable =>
        exact .unmet (answered_append.mpr ⟨answered_singleton, answered_singleton⟩) nofun

theorem isTransparent_create (pages : Nat) (spec : MachineSpec) (network : Option NetworkStatus) :
    (create pages spec network).IsTransparent report pages := by
  refine .andThen (isLookup_findInstance spec.name).isTransparent.beside fun found ↦ ?_
  split
  · exact .pure _
  · split
    · exact .fail_of_unmet nofun
    · refine .andThen (isTransparent_bootstrapData spec) fun text ↦
        .andThen (isLookup_prototype text).isTransparent.beside fun request ↦ ?_
      have hsubmit : (submit request).IsTransparent Cloud.report pages := .described_request rfl rfl
      exact hsubmit.beside

theorem isTransparent_identified (limit : Nat) (cluster instanceId : String)
    (account : Option String) :
    (match filled account with
      | none => .fail .noAccount
      | some account => pure s!"ibm://{account}///{cluster}/{instanceId}" :
        Action String).IsTransparent report limit := by
  split
  · exact .fail_of_unmet nofun
  · exact .pure _

theorem isTransparent_providerId (limit : Nat) (settings : Settings) (hasLookup : Bool)
    (cluster instanceId : String) :
    (providerId settings hasLookup cluster instanceId).IsTransparent report limit := by
  have hformat := isTransparent_identified limit cluster instanceId
  unfold providerId
  split
  · exact .fail_of_unmet nofun
  · simp only
    split
    · exact .andThen (.described_request rfl rfl) hformat
    · exact .andThen (.pure settings.accountId) hformat

end Machine

end VpcMachines
