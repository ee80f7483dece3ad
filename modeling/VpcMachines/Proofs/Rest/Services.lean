import VpcMachines.Proofs.Listing.Cursors
import VpcMachines.Proofs.Serving
import VpcMachines.Rest.Client

/-!
# Calls to the cloud over HTTP

Whatever is replied, carrying out a call ends at the first error status with that status, goes on for
ever only through a lookup by name, and sends at least one request. A call for a single record gives one
if it gives anything.
-/

namespace VpcMachines.Rest

open Program

variable {α β : Type} {limit pages : Nat} {c : Connection}

/-- The error status of a reply. -/
def refusal? : Event Http → Option Int
  | ⟨_, .ok reply⟩ => if 400 ≤ Reply.status reply then some (Reply.status reply) else none
  | ⟨_, .error _⟩ => none

theorem refusal?_of_lt {request : Request} {reply : Reply} (h : reply.status < 400) :
    refusal? ⟨request, .ok reply⟩ = none :=
  if_neg (by omega)

/-- Programs that send a request at least, and then end at the first error status. -/
abbrev IsService (limit : Nat) (p : Program Http α) : Prop := p.IsService refusal? limit

/-! ## Single requests -/

/-- The runs of a single request: it is not sent, it cannot be carried, or there is a reply, whose status
says whether it is read. -/
inductive ExchangeRun : List (Event Http) → Outcome Json → Prop where
  | notSent (fault : Fault) : ExchangeRun [] (.failed fault)
  | notCarried (request : Request) (cause fault : Fault) :
      ExchangeRun [⟨request, .error cause⟩] (.failed fault)
  | refused (request : Request) {reply : Reply} (described : String) (h : 400 ≤ reply.status) :
      ExchangeRun [⟨request, .ok reply⟩] (.failed (.refused described reply.status reply.body))
  | accepted (request : Request) {reply : Reply} (h : reply.status < 400)
      (answer : Except Fault Json) : ExchangeRun [⟨request, .ok reply⟩] (.ofExcept answer)

theorem exchangeRun_of_reply (request : Request) (described : String) (reply : Reply) :
    ExchangeRun [⟨request, .ok reply⟩] (.ofExcept (content described reply)) := by
  by_cases h : 400 ≤ reply.status
  · have hcontent : content described reply =
        .error (.refused described reply.status reply.body) := if_pos h
    rw [hcontent]
    exact .refused request described h
  · exact .accepted request (by omega) _

/-- A request runs in one of the ways listed. -/
theorem exchangeRun_of_runs {method : Method} {path : String}
    {filters : List (String × Option String)} {body : Option Json} {t : List (Event Http)}
    {o : Outcome Json} (h : (exchange c method path filters body).Runs t o) : ExchangeRun t o := by
  unfold exchange at h
  split at h
  · obtain ⟨rfl, rfl⟩ := runs_fail_iff.mp h
    exact .notSent _
  · rcases runs_bind_iff.mp h with ⟨t₁, reply, t₂, rfl, hrequest, hrest⟩ | ⟨abort, rfl, hrequest⟩
    · cases runs_request_returned_iff.mp (runs_mapFault_returned_iff.mp hrequest)
      obtain ⟨rfl, rfl⟩ := runs_ofExcept_iff.mp hrest
      exact exchangeRun_of_reply _ _ reply
    · obtain ⟨inner, rfl, hfailed⟩ := runs_mapFault_aborted_iff.mp hrequest
      obtain ⟨cause, rfl, rfl⟩ := runs_request_aborted_iff.mp hfailed
      exact .notCarried _ cause _

theorem isService_exchange {method : Method} {path : String}
    {filters : List (String × Option String)} {body : Option Json} :
    IsService limit (exchange c method path filters body) := by
  refine ⟨⟨?_, ?_⟩, ?_, ?_⟩
  · intro t v h
    have hrun := exchangeRun_of_runs h
    generalize ho : Outcome.returned v = o at hrun
    cases hrun with
    | accepted request hstatus => exact List.forall_mem_singleton.mpr (refusal?_of_lt hstatus)
    | _ => cases ho
  · intro t abort h
    have hrun := exchangeRun_of_runs h
    generalize ho : (Outcome.aborted abort : Outcome Json) = o at hrun
    cases hrun with
    | notSent fault => exact .other (List.forall_mem_nil _)
    | notCarried request cause fault => exact .other (List.forall_mem_singleton.mpr rfl)
    | refused request described hstatus =>
      cases abort <;> cases ho
      exact .refused (List.forall_mem_nil _) (if_pos hstatus) rfl rfl
    | accepted request hstatus =>
      exact .other (List.forall_mem_singleton.mpr (refusal?_of_lt hstatus))
  · intro t h
    have hrun := exchangeRun_of_runs h
    generalize ho : (Outcome.exhausted : Outcome Json) = o at hrun
    cases hrun with
    | accepted _ _ answer => cases answer <;> cases ho
    | _ => cases ho
  · rintro t v h rfl
    have hrun := exchangeRun_of_runs h
    generalize ho : Outcome.returned v = o at hrun
    cases hrun
    cases ho

/-- What is replied is read without further requests. -/
theorem isService_read {p : Program Http α} {f : α → Program Http β} (hp : IsService limit p)
    (hf : ∀ a, ∃ answer, f a = ofExcept answer) : IsService limit (p >>= f) := by
  have hread {a : α} {t : List (Event Http)} {o : Outcome β} (h : (f a).Runs t o) :
      t = [] ∧ ∃ answer, o = .ofExcept answer := by
    obtain ⟨answer, hanswer⟩ := hf a
    rw [hanswer] at h
    obtain ⟨rfl, rfl⟩ := runs_ofExcept_iff.mp h
    exact ⟨rfl, answer, rfl⟩
  refine ⟨⟨?_, ?_⟩, ?_, ?_⟩
  · intro t b h
    obtain ⟨t₁, a, t₂, rfl, hfirst, hrest⟩ := runs_bind_returned_iff.mp h
    obtain ⟨rfl, _⟩ := hread hrest
    rw [List.append_nil]
    exact hp.heeds.smooth _ _ hfirst
  · intro t abort h
    rcases runs_bind_aborted_iff.mp h with ⟨t₁, a, t₂, rfl, hfirst, hrest⟩ | hfirst
    · obtain ⟨rfl, _⟩ := hread hrest
      rw [List.append_nil]
      exact .other (hp.heeds.smooth _ _ hfirst)
    · exact hp.heeds.stopped _ _ hfirst
  · intro t h
    have haborted : (p >>= f).Runs t (.aborted none) := h
    rcases runs_bind_aborted_iff.mp haborted with ⟨t₁, a, t₂, rfl, _, hrest⟩ | hfirst
    · obtain ⟨_, answer, ho⟩ := hread hrest
      cases answer <;> cases ho
    · exact hp.bounded t hfirst
  · intro t b h
    obtain ⟨t₁, a, t₂, rfl, hfirst, _⟩ := runs_bind_returned_iff.mp h
    have hasked := hp.asks _ _ hfirst
    exact List.append_ne_nil_of_left_ne_nil hasked t₂

/-! ## Lookups by name -/

section Lookup

variable {fetch : Walk.Fetch Http α} {test : α → Bool}

theorem heeds_andThen {p : Program Http α} {f : α → Program Http β} (hp : p.Heeds refusal?)
    (hf : ∀ a, (f a).Heeds refusal?) : (p >>= f).Heeds refusal? :=
  Orderly.bind hp hf fun _ _ _ ↦ Heeded.behind

theorem heeds_fetchPage (hfetch : ∀ start, (fetch start).Heeds refusal?) (start : Option String)
    (seen : List String) : (Walk.fetchPage fetch start seen).Heeds refusal? := by
  refine heeds_andThen ⟨?_, ?_⟩ fun _ ↦ .pure _
  · intro t page h
    exact (hfetch start).smooth _ _ (runs_mapFault_returned_iff.mp h)
  · intro t abort h
    obtain ⟨inner, rfl, hinner⟩ := runs_mapFault_aborted_iff.mp h
    cases (hfetch start).stopped _ _ hinner with
    | refused hbefore he hkind hstatus =>
      have hsame : Fault.inWalk _ = _ := Fault.inWalk_of_not_isStop (by rw [hkind]; rfl)
      exact .refused hbefore he (by rwa [hsame]) (by rwa [hsame])
    | other h => exact .other h

theorem heeds_next (hfetch : ∀ start, (fetch start).Heeds refusal?) (walk : Walk) :
    (walk.next fetch).Heeds refusal? := by
  cases walk with
  | start => exact heeds_fetchPage hfetch none []
  | behind cursor seen =>
    simp only [Walk.next]
    split
    · exact .pure _
    · split
      · exact .fail (.other (List.forall_mem_nil _))
      · exact heeds_fetchPage hfetch _ _
  | ended => exact .pure _

theorem heeds_find (hfetch : ∀ start, (fetch start).Heeds refusal?) (limit : Nat) (walk : Walk) :
    (Walk.find fetch test limit walk).Heeds refusal? := by
  induction limit generalizing walk with
  | zero =>
    constructor
    · intro t found h
      cases (runs_exhausted_iff.mp h).2
    · intro t abort h
      rw [(runs_exhausted_iff.mp h).1]
      exact .other (List.forall_mem_nil _)
  | succ limit ih =>
    refine heeds_andThen (heeds_next hfetch walk) fun step ↦ ?_
    obtain ⟨found, onward⟩ := step
    cases found with
    | none => exact .pure _
    | some page =>
      simp only
      split
      · exact .pure _
      · exact ih onward

/-- A search for which pages are requested is cut off by its own bound only. -/
theorem isService_findNamed {fetch : Walk.Fetch Http NamedResource} {name : String}
    (hfetch : ∀ bound start, IsService bound (fetch start)) :
    IsService pages (findNamed fetch name pages) := by
  have hend (start : Option String) (t : List (Event Http)) : ¬(fetch start).Runs t .exhausted := by
    intro h
    have hlong := (hfetch (t.length + 1) start).bounded t h
    omega
  refine ⟨heeds_find (fun start ↦ (hfetch 0 start).heeds) pages .start, ?_, ?_⟩
  · intro t h
    exact Walk.length_of_find_exhausted (fun start ↦ (hfetch 0 start).asks) hend h
  · intro t found h
    cases pages with
    | zero => cases (runs_exhausted_iff.mp h).2
    | succ pages =>
      obtain ⟨t₁, ⟨page, onward⟩, t₂, rfl, hnext, _⟩ := runs_bind_returned_iff.mp h
      obtain ⟨t₃, first, t₄, rfl, hfirst, _⟩ := runs_bind_returned_iff.mp hnext
      have hasked := (hfetch 0 none).asks _ _ (runs_mapFault_returned_iff.mp hfirst)
      rw [List.append_assoc]
      exact List.append_ne_nil_of_left_ne_nil hasked _

end Lookup

/-! ## Calls -/

theorem map_ofExcept (f : α → β) (answer : Except Fault α) :
    f <$> (ofExcept answer : Program Http α) = ofExcept (f <$> answer) := by
  cases answer <;> rfl

theorem bind_ofExcept (f : α → Except Fault β) (answer : Except Fault α) :
    (ofExcept answer >>= fun a ↦ ofExcept (f a) : Program Http β) = ofExcept (answer >>= f) := by
  cases answer <;> rfl

theorem isService_namedPage (name : String) (start : Option String) :
    IsService limit (namedPage c name start) :=
  isService_read isService_exchange fun _ ↦ ⟨_, rfl⟩

/-- Each call is carried out by a service. -/
theorem isService_serve (call : CloudCall) : IsService pages (serve c pages call) := by
  cases call with
  | listInstances name start => exact isService_read isService_exchange fun _ ↦ ⟨_, rfl⟩
  | createInstance request =>
    refine isService_read isService_exchange fun v ↦ ?_
    simp only [map_ofExcept, bind_ofExcept]
    exact ⟨_, rfl⟩
  | getInstance id => exact isService_read isService_exchange fun v ↦ ⟨_, map_ofExcept _ _⟩
  | deleteInstance id => exact isService_read isService_exchange fun v ↦ ⟨.ok (), rfl⟩
  | listImages start => exact isService_namedPage _ _
  | listKeys start => exact isService_namedPage _ _
  | getSubnetByName name => exact isService_findNamed fun _ ↦ isService_namedPage _
  | getSecurityGroupByName name => exact isService_findNamed fun _ ↦ isService_namedPage _
  | getSecurityGroup id => exact isService_read isService_exchange fun v ↦ ⟨_, map_ofExcept _ _⟩
  | getLoadBalancer id => exact isService_read isService_exchange fun v ↦ ⟨_, map_ofExcept _ _⟩
  | listPoolMembers loadBalancer pool =>
    exact isService_read isService_exchange fun v ↦ ⟨_, map_ofExcept _ _⟩
  | createPoolMember loadBalancer pool address port =>
    exact isService_read isService_exchange fun v ↦ ⟨_, map_ofExcept _ _⟩
  | deletePoolMember loadBalancer pool member =>
    exact isService_read isService_exchange fun v ↦ ⟨.ok (), rfl⟩

/-- The reply to a call for a single record is a record. -/
def Recorded : Event Cloud → Prop
  | ⟨.createInstance _, .ok created⟩ => Option.isSome (α := Instance) created
  | ⟨.getInstance _, .ok found⟩ => Option.isSome (α := Instance) found
  | ⟨.getLoadBalancer _, .ok found⟩ => Option.isSome (α := LoadBalancer) found
  | ⟨.createPoolMember _ _ _ _, .ok created⟩ => Option.isSome (α := PoolMember) created
  | _ => True

theorem isSome_of_runs {p : Program Http α} {f : α → Except Fault β} {t : List (Event Http)}
    {found : Option β} (h : (p >>= fun a ↦ some <$> ofExcept (f a)).Runs t (.returned found)) :
    found.isSome := by
  obtain ⟨t₁, a, t₂, rfl, _, hrest⟩ := runs_bind_returned_iff.mp h
  rw [map_ofExcept] at hrest
  obtain ⟨_, ho⟩ := runs_ofExcept_iff.mp hrest
  cases hread : f a with
  | error fault =>
    rw [hread] at ho
    cases ho
  | ok b =>
    rw [hread] at ho
    cases ho
    rfl

theorem recorded_of_runs_serve {call : CloudCall} {answer : Except Fault call.Reply}
    {t : List (Event Http)} (h : (serve c pages call).Runs t (.ofExcept answer)) :
    Recorded ⟨call, answer⟩ := by
  cases answer with
  | error fault => cases call <;> trivial
  | ok reply =>
    cases call with
    | createInstance request =>
      obtain ⟨t₁, v, t₂, rfl, _, hrest⟩ := runs_bind_returned_iff.mp h
      exact isSome_of_runs hrest
    | getInstance id => exact isSome_of_runs h
    | getLoadBalancer id => exact isSome_of_runs h
    | createPoolMember loadBalancer pool address port => exact isSome_of_runs h
    | _ => trivial

end VpcMachines.Rest
