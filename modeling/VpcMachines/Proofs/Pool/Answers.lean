import VpcMachines.Pool.Answers
import VpcMachines.Proofs.Failing
import VpcMachines.Proofs.Stopping

/-!
# Ensuring a member with answers of any type

The runs with answers of any type are listed as those with the usual ones are. All that comes in is that
an answer may not be readable: a fault is that of the port, one of the family, or that of reading the last
answer (`EnsureRunIn.failed_cases`). With the usual answers this is the operation that is run
(`ensureMemberIn_usual`), and of these only a load balancer that is none cannot be read.
-/

namespace VpcMachines.Pool

open Program

variable {A : Answers} {loadBalancer address : String} {fault : Fault}

/-! ## Reading answers -/

namespace Answers

/-- Reading the answer to a call, in search of an address, can lead to a fault. -/
def Misread (A : Answers) (address : String) (fault : Fault) :
    (c : CloudCall) → CloudCall.ReplyIn A.toAnswerTypes c → Prop
  | .getLoadBalancer _, b =>
    A.targetPool b = .error fault ∨ A.isActive b = .error fault ∨ A.status b = .error fault ∨
      ∃ pool, A.targetPool b = .ok (some pool) ∧ A.poolId pool = .error fault
  | .listPoolMembers _ _, roster =>
    A.members roster = .error fault ∨
      ∃ members m, A.members roster = .ok members ∧ m ∈ members ∧
        (A.isAt m address = .error fault ∨ A.memberId m = .error fault)
  | _, _ => False

theorem openPool_error_cases {b : A.Balancer} (h : A.openPool loadBalancer b = .error fault) :
    fault.isOwn = true ∨ A.Misread address fault (.getLoadBalancer loadBalancer) b := by
  unfold openPool at h
  rcases bind_error_cases h with htarget | ⟨found, htarget, hpool⟩
  · exact .inr (.inl htarget)
  cases found with
  | none =>
    cases hpool
    exact .inl rfl
  | some pool =>
    rcases bind_error_cases hpool with hactive | ⟨active, _, hrest⟩
    · exact .inr (.inr (.inl hactive))
    cases active with
    | true => exact .inr (.inr (.inr (.inr ⟨pool, htarget, hrest⟩)))
    | false =>
      rcases bind_error_cases hrest with hstatus | ⟨status, _, hraised⟩
      · exact .inr (.inr (.inr (.inl hstatus)))
      · cases hraised
        exact .inl rfl

theorem memberAt_error_cases {members : List A.Member}
    (h : A.memberAt address members = .error fault) :
    ∃ m ∈ members, A.isAt m address = .error fault := by
  induction members with
  | nil => cases h
  | cons m rest ih =>
    rcases bind_error_cases h with hread | ⟨found, _, hrest⟩
    · exact ⟨m, List.mem_cons_self, hread⟩
    cases found with
    | true => cases hrest
    | false =>
      obtain ⟨m', hm', hread⟩ := ih hrest
      exact ⟨m', List.mem_cons_of_mem m hm', hread⟩

theorem mem_of_memberAt {members : List A.Member} {m : A.Member}
    (h : A.memberAt address members = .ok (some m)) : m ∈ members := by
  induction members with
  | nil => cases h
  | cons first rest ih =>
    obtain ⟨found, _, hrest⟩ := bind_ok_cases h
    cases found with
    | true =>
      cases hrest
      exact List.mem_cons_self
    | false => exact List.mem_cons_of_mem first (ih hrest)

theorem present_error_cases {roster : A.Roster} {pool : String}
    (h : A.present address roster = .error fault) :
    A.Misread address fault (.listPoolMembers loadBalancer pool) roster := by
  unfold present at h
  rcases bind_error_cases h with hmembers | ⟨members, hmembers, hsearch⟩
  · exact .inl hmembers
  rcases bind_error_cases hsearch with hfound | ⟨found, hfound, hread⟩
  · obtain ⟨m, hm, hread⟩ := memberAt_error_cases hfound
    exact .inr ⟨members, m, hmembers, hm, .inl hread⟩
  cases found with
  | none => cases hread
  | some m =>
    rcases bind_error_cases hread with hid | ⟨id, _, hreturned⟩
    · exact .inr ⟨members, m, hmembers, mem_of_memberAt hfound, .inr hid⟩
    · cases hreturned

/-- The last call of a run returned, and reading what it returned can lead to a fault. -/
def EndsMisread (A : Answers) (address : String) (t : List (Event A.cloud)) (fault : Fault) : Prop :=
  ∃ before c reply, t = before ++ [⟨c, .ok reply⟩] ∧ A.Misread address fault c reply

/-! ## The usual answers -/

theorem memberAt_usual (address : String) (members : List PoolMember) :
    usual.memberAt address (members.map some) = .ok ((Pool.memberAt members address).map some) := by
  induction members with
  | nil => rfl
  | cons m rest ih =>
    change (if m.address == some address then Except.ok (some (some m))
      else usual.memberAt address (rest.map some)) = _
    rw [Pool.memberAt, List.find?_cons]
    cases m.address == some address with
    | true => rfl
    | false => exact ih

theorem present_usual (address : String) (roster : Option (List PoolMember)) :
    usual.present address roster = .ok ((Pool.memberAt (roster.getD []) address).map some) := by
  change (usual.memberAt address ((roster.getD []).map some) >>= _) = _
  rw [memberAt_usual]
  cases Pool.memberAt (roster.getD []) address <;> rfl

theorem openPool_usual (loadBalancer : String) (b : LoadBalancer) :
    usual.openPool loadBalancer (some b) =
      match b.targetPool with
      | none => .error (.noPools loadBalancer)
      | some pool =>
        if b.isActive then .ok pool.id
        else .error (.notActive loadBalancer b.provisioningStatus) := by
  unfold openPool
  cases hpool : b.targetPool with
  | none => simp [ofRecord, hpool, Bind.bind, Except.bind]
  | some pool =>
    cases hstatus : b.isActive <;> simp [ofRecord, hpool, hstatus, Bind.bind, Except.bind]

/-- Of the usual answers only a load balancer that is none cannot be read. -/
theorem eq_none_of_misread {c : CloudCall} {reply : c.Reply} (h : usual.Misread address fault c reply) :
    ∃ id, (⟨c, .ok reply⟩ : Event Cloud) = ⟨.getLoadBalancer id, .ok none⟩ := by
  cases c with
  | getLoadBalancer id =>
    cases reply with
    | none => exact ⟨id, rfl⟩
    | some b => rcases h with htarget | hactive | hstatus | ⟨_, _, hid⟩ <;> contradiction
  | listPoolMembers =>
    rcases h with hmembers | ⟨_, m, hmembers, hm, hread⟩
    · cases hmembers
    · cases hmembers
      obtain ⟨record, _, rfl⟩ := List.mem_map.mp hm
      rcases hread with hat | hid <;> contradiction
  | _ => cases h

end Answers

theorem members_bind {α : Type} (loadBalancer pool : String)
    (f : List PoolMember → Program Cloud α) :
    members loadBalancer pool >>= f =
      (Cloud.listPoolMembers loadBalancer pool).described s!"listing members of pool {pool}" >>=
        fun roster : Option (List PoolMember) ↦ f (roster.getD []) :=
  bind_assoc _ _ _

/-- With the usual answers, this is the operation that is run. -/
theorem ensureMemberIn_usual (settings : Settings) (loadBalancer address : String)
    (port : Option Int) :
    ensureMemberIn .usual settings loadBalancer address port =
      ensureMember settings loadBalancer address port := by
  unfold ensureMemberIn ensureMember
  simp only
  split
  · rfl
  · -- Both make the same calls, so they are compared behind each of them, by its answer.
    rw [fetch, bind_assoc]
    refine congrArg (Program.bind _) (funext fun record ↦ ?_)
    cases record with
    | none => rfl
    | some b =>
      simp only [done_bind]
      rw [Answers.openPool_usual]
      cases b.targetPool with
      | none => rfl
      | some pool =>
        unfold requireActive
        cases b.isActive with
        | false => rfl
        | true =>
          refine (done_bind pool.id _).trans (Eq.trans ?_ (members_bind loadBalancer pool.id _).symm)
          refine congrArg (Program.bind _) (funext fun roster ↦ ?_)
          have hpresent := Answers.present_usual address roster
          refine (congrArg (fun found ↦ (Program.ofExcept found).bind _) hpresent).trans ?_
          cases memberAt (roster.getD []) address <;> rfl

/-! ## The runs -/

/-- The runs with answers of any type. -/
inductive EnsureRunIn (A : Answers) (loadBalancer address : String) (port : Int) :
    List (Event A.cloud) → Outcome A.Member → Prop where
  | portOutOfRange (hport : isPort port = false) :
      EnsureRunIn A loadBalancer address port [] (.failed (.portOutOfRange port))
  | fetchFailed (cause : Fault) :
      EnsureRunIn A loadBalancer address port [⟨.getLoadBalancer loadBalancer, .error cause⟩]
        (.failed (cause.inCall s!"fetching load balancer {loadBalancer}"))
  | notOpen {b : A.Balancer} {fault : Fault} (hopen : A.openPool loadBalancer b = .error fault) :
      EnsureRunIn A loadBalancer address port [⟨.getLoadBalancer loadBalancer, .ok b⟩] (.failed fault)
  | listFailed {b : A.Balancer} {pool : String} (hopen : A.openPool loadBalancer b = .ok pool)
      (cause : Fault) :
      EnsureRunIn A loadBalancer address port
        [⟨.getLoadBalancer loadBalancer, .ok b⟩, ⟨.listPoolMembers loadBalancer pool, .error cause⟩]
        (.failed (cause.inCall s!"listing members of pool {pool}"))
  | misread {b : A.Balancer} {pool : String} {roster : A.Roster} {fault : Fault}
      (hopen : A.openPool loadBalancer b = .ok pool)
      (hmember : A.present address roster = .error fault) :
      EnsureRunIn A loadBalancer address port
        [⟨.getLoadBalancer loadBalancer, .ok b⟩, ⟨.listPoolMembers loadBalancer pool, .ok roster⟩]
        (.failed fault)
  | present {b : A.Balancer} {pool : String} {roster : A.Roster} {m : A.Member}
      (hopen : A.openPool loadBalancer b = .ok pool)
      (hmember : A.present address roster = .ok (some m)) :
      EnsureRunIn A loadBalancer address port
        [⟨.getLoadBalancer loadBalancer, .ok b⟩, ⟨.listPoolMembers loadBalancer pool, .ok roster⟩]
        (.returned m)
  | created {b : A.Balancer} {pool : String} {roster : A.Roster}
      (hopen : A.openPool loadBalancer b = .ok pool)
      (hmember : A.present address roster = .ok none) (answer : Except Fault A.Member) :
      EnsureRunIn A loadBalancer address port
        [⟨.getLoadBalancer loadBalancer, .ok b⟩, ⟨.listPoolMembers loadBalancer pool, .ok roster⟩,
          ⟨.createPoolMember loadBalancer pool address port, answer⟩]
        (.ofAnswer s!"creating member {address}:{port} in pool {pool}" answer)

variable {port : Int} {t : List (Event A.cloud)} {o : Outcome A.Member}

theorem ensureRunIn_of_runs {settings : Settings} {port : Option Int}
    (h : (ensureMemberIn A settings loadBalancer address port).Runs t o) :
    EnsureRunIn A loadBalancer address (port.getD settings.apiServerPort) t o := by
  unfold ensureMemberIn at h
  generalize port.getD settings.apiServerPort = port at h ⊢
  cases hport : isPort port with
  | false =>
    simp only [hport, Bool.not_false, if_true] at h
    obtain ⟨rfl, rfl⟩ := runs_fail_iff.mp h
    exact .portOutOfRange hport
  | true =>
    simp only [hport, Bool.not_true, Bool.false_eq_true, if_false] at h
    rcases runs_described_bind_cases h with ⟨cause, rfl, rfl⟩ | ⟨b, rest, rfl, hrest⟩
    · exact .fetchFailed cause
    cases hopen : A.openPool loadBalancer b with
    | error fault =>
      rw [hopen] at hrest
      obtain ⟨rfl, rfl⟩ := runs_fail_iff.mp hrest
      exact .notOpen hopen
    | ok pool =>
      rw [hopen] at hrest
      rcases runs_described_bind_cases hrest with ⟨cause, rfl, rfl⟩ | ⟨roster, rest, rfl, hlisted⟩
      · exact .listFailed hopen cause
      cases hmember : A.present address roster with
      | error fault =>
        rw [hmember] at hlisted
        obtain ⟨rfl, rfl⟩ := runs_fail_iff.mp hlisted
        exact .misread hopen hmember
      | ok found =>
        rw [hmember] at hlisted
        cases found with
        | some m =>
          obtain ⟨rfl, rfl⟩ := runs_done_iff.mp hlisted
          exact .present hopen hmember
        | none =>
          obtain ⟨answer, rfl, rfl⟩ := runs_described_request_iff.mp hlisted
          exact .created hopen hmember answer

/-- A fault is that of the port, one of the family, or that of reading the last answer. -/
theorem EnsureRunIn.failed_cases (h : EnsureRunIn A loadBalancer address port t o)
    (ho : o = .failed fault) :
    (isPort port = false ∧ fault = .portOutOfRange port) ∨ fault.isOwn = true ∨
      A.EndsMisread address t fault := by
  cases h with
  | portOutOfRange hport =>
    cases ho
    exact .inl ⟨hport, rfl⟩
  | fetchFailed | listFailed =>
    cases ho
    exact .inr (.inl Fault.isOwn_inCall)
  | notOpen hopen =>
    cases ho
    rcases Answers.openPool_error_cases hopen with hown | hmisread
    · exact .inr (.inl hown)
    · exact .inr (.inr ⟨[], _, _, rfl, hmisread⟩)
  | misread _ hmember =>
    cases ho
    exact .inr (.inr ⟨[_], _, _, rfl, Answers.present_error_cases hmember⟩)
  | present => cases ho
  | created _ _ answer =>
    obtain ⟨cause, _, rfl⟩ := Outcome.ofAnswer_eq_failed_iff.mp ho
    exact .inr (.inl Fault.isOwn_inCall)

/-- A member is created with the port of the run. -/
theorem EnsureRunIn.port_of_created {b pool a : String} {n : Int} {answer : Except Fault A.Member}
    (h : EnsureRunIn A loadBalancer address port t o)
    (hmem : (⟨.createPoolMember b pool a n, answer⟩ : Event A.cloud) ∈ t) : n = port := by
  cases h with
  | portOutOfRange => cases hmem
  | fetchFailed | notOpen => cases List.mem_singleton.mp hmem
  | listFailed | misread | present =>
    simp only [List.mem_cons, List.not_mem_nil, or_false] at hmem
    rcases hmem with hget | hlist
    · cases hget
    · cases hlist
  | created =>
    simp only [List.mem_cons, List.not_mem_nil, or_false] at hmem
    rcases hmem with hget | hlist | hcreate
    · cases hget
    · cases hlist
    · cases hcreate
      rfl

/-- Of the usual answers, only the first one can be that which cannot be read. -/
theorem EnsureRunIn.eq_of_endsMisread {t : List (Event Answers.usual.cloud)}
    (h : EnsureRunIn .usual loadBalancer address port t (.failed fault))
    (hmisread : Answers.usual.EndsMisread address t fault) :
    t = [⟨.getLoadBalancer loadBalancer, .ok none⟩] ∧
      fault = .misshapen (.noMember "NoneType" "target_pool") := by
  obtain ⟨before, c, reply, ht, hreply⟩ := hmisread
  obtain ⟨id, hlast⟩ := Answers.eq_none_of_misread hreply
  have hend : t.getLast? = some ⟨.getLoadBalancer id, .ok none⟩ :=
    (congrArg List.getLast? ht).trans (List.getLast?_concat.trans (congrArg some hlast))
  generalize ho : Outcome.failed fault = o at h
  cases h with
  | notOpen hopen =>
    cases ho
    cases hend
    cases hopen
    exact ⟨rfl, rfl⟩
  | portOutOfRange | fetchFailed | listFailed | misread | present | created => cases hend

end VpcMachines.Pool
