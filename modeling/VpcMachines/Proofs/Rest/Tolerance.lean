import VpcMachines.Proofs.Machine.Failures
import VpcMachines.Proofs.Pool.Exits
import VpcMachines.Proofs.Rest.Services

/-!
# Operations over HTTP, whatever is replied

An operation that is carried out over HTTP ends with a record or with a fault of the family, whatever
the replies are and whichever requests cannot be carried. An error status ends it at once, and the fault
tells this status. Two conditions are not about replies: the port of a member is one, and the bootstrap
data that are read are text.
-/

namespace VpcMachines.Rest

open Program

variable {I J : Interface} {α : Type} {limit pages : Nat} {c : Connection}

/-! ## Next to what is at hand -/

/-- The error status of a reply, among calls to what is at hand. -/
def refusalBeside? : Event (Http.sum Local) → Option Int
  | ⟨.inl request, answer⟩ => refusal? ⟨request, answer⟩
  | ⟨.inr _, _⟩ => none

theorem forall_map_beside_iff {t : List (Event Http)} :
    (∀ e ∈ (t.map Event.beside : List (Event (Http.sum Local))), refusalBeside? e = none) ↔
      ∀ e ∈ t, refusal? e = none :=
  List.forall_mem_map

theorem heeded_beside {t : List (Event Http)} {abort : Option Fault}
    (h : Heeded refusal? t abort) : Heeded refusalBeside? (t.map Event.beside) abort := by
  cases h with
  | refused hbefore he hkind hstatus =>
    rw [List.map_append]
    exact .refused (forall_map_beside_iff.mpr hbefore) he hkind hstatus
  | other h => exact .other (forall_map_beside_iff.mpr h)

theorem isService_beside {p : Program Http α} (hp : IsService limit p) :
    (p.beside : Program (Http.sum Local) α).IsService refusalBeside? limit := by
  refine ⟨⟨?_, ?_⟩, ?_, ?_⟩
  · intro t a h
    obtain ⟨u, rfl, hu⟩ := runs_beside_iff.mp h
    exact forall_map_beside_iff.mpr (hp.heeds.smooth _ _ hu)
  · intro t abort h
    obtain ⟨u, rfl, hu⟩ := runs_beside_iff.mp h
    exact heeded_beside (hp.heeds.stopped _ _ hu)
  · intro t h
    obtain ⟨u, rfl, hu⟩ := runs_beside_iff.mp h
    rw [List.length_map]
    exact hp.bounded u hu
  · intro t a h
    obtain ⟨u, rfl, hu⟩ := runs_beside_iff.mp h
    exact List.map_eq_nil_iff.not.mpr (hp.asks _ _ hu)

/-- A call to what is at hand is handed on as it is. -/
theorem runs_serveBeside_local {call : LocalCall} {t : List (Event (Http.sum Local))}
    {o : Outcome call.Reply} (h : (serveBeside c pages (.inr call)).Runs t o) :
    ∃ answer, t = [⟨.inr call, answer⟩] ∧ o = .ofExcept answer :=
  runs_request_iff (I := Http.sum Local) (c := .inr call).mp h

theorem refusalBeside?_local {call : LocalCall} {answer : Except Fault call.Reply} :
    ∀ e ∈ ([⟨.inr call, answer⟩] : List (Event (Http.sum Local))), refusalBeside? e = none := by
  rw [List.forall_mem_singleton]
  rfl

theorem isService_serveBeside (call : (Cloud.sum Local).Call) :
    (serveBeside c pages call).IsService refusalBeside? pages := by
  cases call with
  | inl call => exact isService_beside (isService_serve call)
  | inr call =>
    refine ⟨⟨?_, ?_⟩, ?_, ?_⟩
    · intro t reply h
      obtain ⟨answer, rfl, _⟩ := runs_serveBeside_local h
      exact refusalBeside?_local
    · intro t abort h
      obtain ⟨answer, rfl, _⟩ := runs_serveBeside_local h
      exact .other refusalBeside?_local
    · intro t h
      obtain ⟨answer, _, ho⟩ := runs_serveBeside_local h
      cases answer <;> cases ho
    · intro t reply h
      obtain ⟨answer, rfl, _⟩ := runs_serveBeside_local h
      exact List.cons_ne_nil _ _

/-- What is at hand was asked just as the program asked it. -/
theorem mem_of_served_local {u : List (Event (Cloud.sum Local))} {t : List (Event (Http.sum Local))}
    (h : Served (serveBeside c pages) u t) {call : LocalCall} {answer : Except Fault call.Reply}
    (hmem : (⟨.inr call, answer⟩ : Event (Cloud.sum Local)) ∈ u) :
    (⟨.inr call, answer⟩ : Event (Http.sum Local)) ∈ t := by
  obtain ⟨inner, hrun, hsub⟩ := h.exists_run hmem
  obtain ⟨given, rfl, ho⟩ := runs_serveBeside_local hrun
  have hsame : answer = given := by cases answer <;> cases given <;> cases ho <;> rfl
  rw [hsame]
  exact hsub (List.mem_singleton_self _)

theorem recorded_of_served {u : List (Event Cloud)} {t : List (Event Http)}
    (h : Served (serve c pages) u t) : ∀ e ∈ u, Recorded e := by
  intro e he
  obtain ⟨inner, hrun, _⟩ := h.exists_run he
  exact recorded_of_runs_serve hrun

/-! ## How operations end -/

/-- An operation gave what it has to give, or failed with a fault of the family. -/
def Settled (good : α → Prop) (o : Outcome α) : Prop :=
  (∃ a, o = .returned a ∧ good a) ∨ ∃ fault, o = .failed fault ∧ fault.isOwn = true

theorem settled_ofAnswer {good : α → Prop} {description : String} {answer : Except Fault α}
    (h : ∀ a, answer = .ok a → good a) : Settled good (.ofAnswer description answer) := by
  cases answer with
  | ok a => exact .inl ⟨a, rfl, h a rfl⟩
  | error cause => exact .inr ⟨_, rfl, Fault.isOwn_inCall⟩

theorem settled_ensureMember {loadBalancer address : String} {port : Int} {u : List (Event Cloud)}
    {o : Outcome (Option PoolMember)} (h : Pool.EnsureRun loadBalancer address port u o)
    (hport : Pool.isPort port = true) (hrecords : ∀ e ∈ u, Recorded e) :
    Settled (fun found ↦ found.isSome = true) o := by
  cases h with
  | portOutOfRange hnot =>
    rw [hnot] at hport
    cases hport
  | fetchFailed cause => exact .inr ⟨_, rfl, Fault.isOwn_inCall⟩
  | noRecord => cases hrecords _ (List.mem_singleton_self _)
  | noPools => exact .inr ⟨_, rfl, rfl⟩
  | notActive => exact .inr ⟨_, rfl, rfl⟩
  | listFailed _ _ cause => exact .inr ⟨_, rfl, Fault.isOwn_inCall⟩
  | present => exact .inl ⟨_, rfl, rfl⟩
  | created =>
    refine settled_ofAnswer fun created hcreated ↦ ?_
    subst hcreated
    exact hrecords _ (.tail _ (.tail _ (.head _)))

theorem settled_deleteMember {loadBalancer instanceId : String} {u : List (Event Cloud)}
    {o : Outcome Unit} (h : Pool.DeleteRun loadBalancer instanceId u o)
    (hrecords : ∀ e ∈ u, Recorded e) : Settled (fun _ ↦ True) o := by
  cases h with
  | fetchFailed cause => exact .inr ⟨_, rfl, Fault.isOwn_inCall⟩
  | noRecord => cases hrecords _ (List.mem_singleton_self _)
  | noPools => exact .inl ⟨_, rfl, trivial⟩
  | instanceFailed _ cause => exact .inr ⟨_, rfl, Fault.isOwn_inCall⟩
  | notActive => exact .inr ⟨_, rfl, rfl⟩
  | listFailed _ _ cause => exact .inr ⟨_, rfl, Fault.isOwn_inCall⟩
  | noInstance => cases hrecords _ (.tail _ (.head _))
  | noMembers => exact .inl ⟨_, rfl, trivial⟩
  | absent => exact .inl ⟨_, rfl, trivial⟩
  | deleted => exact settled_ofAnswer fun _ _ ↦ trivial

theorem settled_delete {status : MachineStatus} {u : List (Event Cloud)} {o : Outcome Unit}
    (h : Machine.DeleteRun status u o) : Settled (fun _ ↦ True) o := by
  cases h with
  | noInstance => exact .inl ⟨_, rfl, trivial⟩
  | requested => exact settled_ofAnswer fun _ _ ↦ trivial

theorem settled_lookup {p : Program Cloud α} (hp : p.IsLookup pages) {u : List (Event Cloud)}
    {o : Outcome α} (h : p.Runs u o) : o = .exhausted ∨ Settled (fun _ ↦ True) o := by
  cases o with
  | returned a => exact .inr (.inl ⟨a, rfl, trivial⟩)
  | failed fault => exact .inr (.inr ⟨fault, rfl, hp.isOwn h⟩)
  | exhausted => exact .inl rfl

/-- The bootstrap data that were read are text, and their key was known. -/
structure ReadsText (t : List (Event (Http.sum Local))) : Prop where
  key : ∀ cause, (⟨.inr .dataKey, .error cause⟩ : Event (Http.sum Local)) ∉ t
  text : ∀ (space name : String) (secret : Secret) (key : String) (value : SecretValue),
    (⟨.inr (.secret space name), .ok secret⟩ : Event (Http.sum Local)) ∈ t →
    (⟨.inr .dataKey, .ok key⟩ : Event (Http.sum Local)) ∈ t → secret.value? key = some value →
    ∃ text, value.asText = .ok text

theorem ReadsText.not_unguarded {spec : MachineSpec} {u bootstrap : List (Event (Cloud.sum Local))}
    {t : List (Event (Http.sum Local))} {fault : Fault} (ht : ReadsText t)
    (h : Served (serveBeside c pages) u t) (hsub : bootstrap ⊆ u) :
    ¬Machine.BootstrapUnguarded spec bootstrap fault := by
  intro hunguarded
  cases hunguarded with
  | keyless hname cause =>
    exact ht.key _ (mem_of_served_local h (hsub (.tail _ (.head _))))
  | @undecodable name key secret b failure hname hvalue hbytes =>
    have hsecret : (⟨.inr (.secret spec.secretNamespace name), .ok secret⟩ :
        Event (Http.sum Local)) ∈ t := mem_of_served_local h (hsub (.head _))
    have hkey : (⟨.inr .dataKey, .ok key⟩ : Event (Http.sum Local)) ∈ t :=
      mem_of_served_local h (hsub (.tail _ (.head _)))
    obtain ⟨text, htext⟩ := ht.text _ _ _ _ _ hsecret hkey hvalue
    rw [Machine.asText_eq_error_iff.mpr ⟨b, rfl, hbytes⟩] at htext
    cases htext

theorem settled_create {spec : MachineSpec} {network : Option NetworkStatus}
    {u : List (Event (Cloud.sum Local))} {t : List (Event (Http.sum Local))}
    {o : Outcome (Option Instance)} (run : (Machine.create pages spec network).Runs u o)
    (h : Served (serveBeside c pages) u t) (ht : ReadsText t) :
    o = .exhausted ∨ Settled (fun found ↦ found.isSome = true) o := by
  have hrun := Machine.createRun_of_runs run
  cases o with
  | exhausted => exact .inl rfl
  | failed fault =>
    right
    rcases hrun.own_or_unguarded rfl with hown | ⟨listing, bootstrap, _, hunguarded, rfl⟩
    · exact .inr ⟨fault, rfl, hown⟩
    · exact absurd hunguarded (ht.not_unguarded h (List.subset_append_right _ _))
  | returned found =>
    cases found with
    | some i => exact .inr (.inl ⟨some i, rfl, rfl⟩)
    | none =>
      obtain ⟨before, request, rfl⟩ := hrun.request_of_returned_none rfl
      obtain ⟨inner, hserve, _⟩ := h.exists_run (List.mem_append_right before (.head _))
      obtain ⟨t', _, hinner⟩ := runs_beside_iff.mp hserve
      have hrecord : Recorded ⟨.createInstance request, .ok none⟩ := recorded_of_runs_serve hinner
      cases hrecord

/-! ## Operations -/

/-- What holds of the requests `t` and the end `o` of an operation. -/
structure Tolerant (refusal? : Event J → Option Int) (pages : Nat) (good : α → Prop)
    (t : List (Event J)) (o : Outcome α) : Prop where
  /-- The operation gives what it has to give or fails with a fault of the family, unless the bound on
  the pages of a listing cuts it off. -/
  settled : Settled good o ∨ (o = .exhausted ∧ pages ≤ t.length)
  /-- An error status is the last that is replied, and the operation fails with it. -/
  refused : ∀ (before behind : List (Event J)) (e : Event J) (status : Int),
    t = before ++ e :: behind → refusal? e = some status →
    behind = [] ∧ ∃ fault, o = .failed fault ∧ fault.category = .provider ∧
      fault.status? = some status

theorem tolerant_of_runs {R : Report I} {serve : (c : I.Call) → Program J (I.Reply c)}
    {refusal? : Event J → Option Int} {p : Program I α} {good : α → Prop} {t : List (Event J)}
    {o : Outcome α} (hp : p.IsTransparent R pages)
    (hserve : ∀ c, (serve c).IsService refusal? pages)
    (hquiet : ∀ c, R.description? c = none → ∀ t fault, (serve c).Runs t (.failed fault) →
      ∀ e ∈ t, refusal? e = none)
    (hsettled : ∀ u, p.Runs u o → Served serve u t → o = .exhausted ∨ Settled good o)
    (h : (p.interpret serve).Runs t o) : Tolerant refusal? pages good t o := by
  have hbounded (ho : o = .exhausted) : pages ≤ t.length := by
    subst ho
    exact hp.bounded_interpret hserve t h
  constructor
  · cases interpretRun_of_runs h with
    | served run calls =>
      rcases hsettled _ run calls with ho | hsettled
      · exact .inr ⟨ho, hbounded ho⟩
      · exact .inl hsettled
    | cutOff => exact .inr ⟨rfl, hbounded rfl⟩
  · intro before behind e status
    exact (hp.heeds_interpret hserve hquiet).refused h

/-- An operation on the cloud alone, over HTTP. -/
theorem tolerant_overHttp {p : Program Cloud α} {good : α → Prop} {t : List (Event Http)}
    {o : Outcome α} (hp : p.IsTransparent Cloud.report pages)
    (hsettled : ∀ u, p.Runs u o → (∀ e ∈ u, Recorded e) → o = .exhausted ∨ Settled good o)
    (h : (overHttp c pages p).Runs t o) : Tolerant refusal? pages good t o :=
  tolerant_of_runs hp isService_serve nofun
    (fun u run calls ↦ hsettled u run (recorded_of_served calls)) h

theorem tolerant_create {spec : MachineSpec} {network : Option NetworkStatus}
    {t : List (Event (Http.sum Local))} {o : Outcome (Option Instance)} (ht : ReadsText t)
    (h : (overHttpBeside c pages (Machine.create pages spec network)).Runs t o) :
    Tolerant refusalBeside? pages (fun found ↦ found.isSome = true) t o := by
  refine tolerant_of_runs (Machine.isTransparent_create pages spec network) isService_serveBeside ?_
    (fun u run calls ↦ settled_create run calls ht) h
  intro call hcall t fault hfailed
  cases call with
  | inl call => cases hcall
  | inr call =>
    obtain ⟨answer, rfl, _⟩ := runs_serveBeside_local hfailed
    exact refusalBeside?_local

/-- Over HTTP, every operation ends with a record or a fault of the family, whatever is replied and
whatever cannot be carried, and an error status ends it with a fault that tells the status. -/
theorem operations_tolerate_any_reply {σ τ : Type} (http : Handler Http σ) (s : σ)
    (all : Handler (Http.sum Local) τ) (w : τ) (c : Connection) (settings : Settings) (pages : Nat)
    (spec : MachineSpec) (network : Option NetworkStatus) (status : MachineStatus)
    (loadBalancer address instanceId : String) (port : Option Int) (kind : ResourceKind)
    (r : Option Reference) (hport : Pool.isPort (port.getD settings.apiServerPort) = true)
    (htext : ReadsText ((overHttpBeside c pages (Machine.create pages spec network)).trace all w)) :
    let create := overHttpBeside c pages (Machine.create pages spec network)
    let delete := overHttp c pages (Machine.delete status)
    let ensureMember := overHttp c pages (Pool.ensureMember settings loadBalancer address port)
    let deleteMember := overHttp c pages (Pool.deleteMember loadBalancer instanceId)
    let resolve := overHttp c pages (Reference.resolve pages r kind network)
    Tolerant refusalBeside? pages (fun found ↦ found.isSome = true) (create.trace all w)
        (create.run all w).1 ∧
      Tolerant refusal? pages (fun _ ↦ True) (delete.trace http s) (delete.run http s).1 ∧
      Tolerant refusal? pages (fun found ↦ found.isSome = true) (ensureMember.trace http s)
        (ensureMember.run http s).1 ∧
      Tolerant refusal? pages (fun _ ↦ True) (deleteMember.trace http s)
        (deleteMember.run http s).1 ∧
      Tolerant refusal? pages (fun _ ↦ True) (resolve.trace http s) (resolve.run http s).1 := by
  refine ⟨tolerant_create htext (runs_trace all _ w), ?_, ?_, ?_, ?_⟩
  · exact tolerant_overHttp (Machine.isTransparent_delete pages status)
      (fun _ run _ ↦ .inr (settled_delete (Machine.deleteRun_of_runs run))) (runs_trace http _ s)
  · exact tolerant_overHttp (Pool.isTransparent_ensureMember pages settings address port)
      (fun _ run hrecords ↦
        .inr (settled_ensureMember (Pool.ensureRun_of_runs run) hport hrecords))
      (runs_trace http _ s)
  · exact tolerant_overHttp (Pool.isTransparent_deleteMember pages instanceId)
      (fun _ run hrecords ↦ .inr (settled_deleteMember (Pool.deleteRun_of_runs run) hrecords))
      (runs_trace http _ s)
  · exact tolerant_overHttp (Reference.isLookup_resolve r).isTransparent
      (fun _ run _ ↦ settled_lookup (Reference.isLookup_resolve r) run) (runs_trace http _ s)

/-- Replies by a script, and no connection behind its end. -/
def scripted : Handler Http (List Reply) where
  answer
    | _, [] => (.error (.reported .connection "connection refused"), [])
    | _, reply :: later => (.ok reply, later)

/-- A store whose secrets are all one text. -/
def textStore : Handler Local (List Reply) where
  answer
    | .secret _ _, script => (.ok [("value", .text "text")], script)
    | .dataKey, script => (.ok "value", script)
    | .account, script => (.ok none, script)

theorem readsText_textStore {p : Program (Http.sum Local) α} {script : List Reply} :
    ReadsText (p.trace (scripted.sum textStore) script) := by
  constructor
  · intro cause hmem
    obtain ⟨_, hanswer⟩ := exists_answer_of_mem_trace hmem
    cases hanswer
  · intro space name secret key value hsecret hkey hvalue
    obtain ⟨_, hread⟩ := exists_answer_of_mem_trace hsecret
    obtain ⟨_, hknown⟩ := exists_answer_of_mem_trace hkey
    cases hread
    cases hknown
    cases hvalue
    exact ⟨"text", rfl⟩

/-- Behind an empty listing, the request for an instance is refused with the status 503. -/
theorem create_refused_when_busy :
    let c : Connection := ⟨.default, "token", "https://cloud", 30⟩
    let spec : MachineSpec :=
      { name := "machine", profile := "small", image := some ⟨some "image", none⟩, sshKeys := [],
        network := ⟨⟨some "subnet", none⟩, []⟩, zone := none, secretNamespace := "default",
        bootstrapSecret := some "bootstrap" }
    let script : List Reply := [⟨200, "\x7b\x7d"⟩, ⟨503, "busy"⟩]
    let create := overHttpBeside c 2 (Machine.create 2 spec none)
    ∃ fault, (create.run (scripted.sum textStore) script).1 = .failed fault ∧
      fault.category = .provider ∧ fault.status? = some 503 := by
  intro c spec script create
  obtain ⟨hcreate, _⟩ := operations_tolerate_any_reply scripted script (scripted.sum textStore) script
    c .default 2 spec none ⟨none, [], none⟩ "balancer" "address" "id" none .image none rfl
    readsText_textStore
  have htrace : ∃ before e, create.trace (scripted.sum textStore) script = before ++ [e] ∧
      refusalBeside? e = some 503 := by
    refine ⟨[_, _, _], _, rfl, rfl⟩
  obtain ⟨before, e, ht, he⟩ := htrace
  obtain ⟨_, hfault⟩ := hcreate.refused before [] e 503 ht he
  exact hfault

end VpcMachines.Rest
