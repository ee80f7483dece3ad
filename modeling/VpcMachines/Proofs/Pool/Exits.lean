import VpcMachines.Pool.Membership
import VpcMachines.Proofs.Trace

/-!
# The runs of the membership operations

Both operations make few calls, in a fixed order, and can end after each of them. The relations below
list their runs with what was checked on the way; `ensureRun_of_runs` and `deleteRun_of_runs` say that
there are no others, whatever the cloud answers.
-/

namespace VpcMachines.Pool

open Program

/-- The runs of `ensureMember`, with the port that it was given or took from the settings. -/
inductive EnsureRun (loadBalancer address : String) (port : Int) :
    List (Event Cloud) → Outcome (Option PoolMember) → Prop where
  | portOutOfRange (hport : isPort port = false) :
      EnsureRun loadBalancer address port [] (.failed (.portOutOfRange port))
  | fetchFailed (cause : Fault) :
      EnsureRun loadBalancer address port [⟨.getLoadBalancer loadBalancer, .error cause⟩]
        (.failed (cause.inCall s!"fetching load balancer {loadBalancer}"))
  | noRecord :
      EnsureRun loadBalancer address port [⟨.getLoadBalancer loadBalancer, .ok none⟩]
        (.failed (.misshapen (.noMember "NoneType" "target_pool")))
  | noPools {b : LoadBalancer} (hpool : b.targetPool = none) :
      EnsureRun loadBalancer address port [⟨.getLoadBalancer loadBalancer, .ok (some b)⟩]
        (.failed (.noPools loadBalancer))
  | notActive {b : LoadBalancer} {pool : PoolReference} (hpool : b.targetPool = some pool)
      (hstatus : b.isActive = false) :
      EnsureRun loadBalancer address port [⟨.getLoadBalancer loadBalancer, .ok (some b)⟩]
        (.failed (.notActive loadBalancer b.provisioningStatus))
  | listFailed {b : LoadBalancer} {pool : PoolReference} (hpool : b.targetPool = some pool)
      (hstatus : b.isActive = true) (cause : Fault) :
      EnsureRun loadBalancer address port
        [⟨.getLoadBalancer loadBalancer, .ok (some b)⟩,
          ⟨.listPoolMembers loadBalancer pool.id, .error cause⟩]
        (.failed (cause.inCall s!"listing members of pool {pool.id}"))
  | present {b : LoadBalancer} {pool : PoolReference} {found : Option (List PoolMember)}
      {m : PoolMember} (hpool : b.targetPool = some pool) (hstatus : b.isActive = true)
      (hmember : memberAt (found.getD []) address = some m) :
      EnsureRun loadBalancer address port
        [⟨.getLoadBalancer loadBalancer, .ok (some b)⟩,
          ⟨.listPoolMembers loadBalancer pool.id, .ok found⟩]
        (.returned (some m))
  | created {b : LoadBalancer} {pool : PoolReference} {found : Option (List PoolMember)}
      (hpool : b.targetPool = some pool) (hstatus : b.isActive = true)
      (hmember : memberAt (found.getD []) address = none)
      (answer : Except Fault (Option PoolMember)) :
      EnsureRun loadBalancer address port
        [⟨.getLoadBalancer loadBalancer, .ok (some b)⟩,
          ⟨.listPoolMembers loadBalancer pool.id, .ok found⟩,
          ⟨.createPoolMember loadBalancer pool.id address port, answer⟩]
        (.ofAnswer s!"creating member {address}:{port} in pool {pool.id}" answer)

/-- The runs of `deleteMember`. -/
inductive DeleteRun (loadBalancer instanceId : String) :
    List (Event Cloud) → Outcome Unit → Prop where
  | fetchFailed (cause : Fault) :
      DeleteRun loadBalancer instanceId [⟨.getLoadBalancer loadBalancer, .error cause⟩]
        (.failed (cause.inCall s!"fetching load balancer {loadBalancer}"))
  | noRecord :
      DeleteRun loadBalancer instanceId [⟨.getLoadBalancer loadBalancer, .ok none⟩]
        (.failed (.misshapen (.noMember "NoneType" "target_pool")))
  | noPools {b : LoadBalancer} (hpool : b.targetPool = none) :
      DeleteRun loadBalancer instanceId [⟨.getLoadBalancer loadBalancer, .ok (some b)⟩]
        (.returned ())
  | instanceFailed {b : LoadBalancer} {pool : PoolReference} (hpool : b.targetPool = some pool)
      (cause : Fault) :
      DeleteRun loadBalancer instanceId
        [⟨.getLoadBalancer loadBalancer, .ok (some b)⟩, ⟨.getInstance instanceId, .error cause⟩]
        (.failed (cause.inCall s!"fetching instance {instanceId}"))
  | notActive {b : LoadBalancer} {pool : PoolReference} {record : Option Instance}
      (hpool : b.targetPool = some pool) (hstatus : b.isActive = false) :
      DeleteRun loadBalancer instanceId
        [⟨.getLoadBalancer loadBalancer, .ok (some b)⟩, ⟨.getInstance instanceId, .ok record⟩]
        (.failed (.notActive loadBalancer b.provisioningStatus))
  | listFailed {b : LoadBalancer} {pool : PoolReference} {record : Option Instance}
      (hpool : b.targetPool = some pool) (hstatus : b.isActive = true) (cause : Fault) :
      DeleteRun loadBalancer instanceId
        [⟨.getLoadBalancer loadBalancer, .ok (some b)⟩, ⟨.getInstance instanceId, .ok record⟩,
          ⟨.listPoolMembers loadBalancer pool.id, .error cause⟩]
        (.failed (cause.inCall s!"listing members of pool {pool.id}"))
  | noInstance {b : LoadBalancer} {pool : PoolReference} {found : Option (List PoolMember)}
      (hpool : b.targetPool = some pool) (hstatus : b.isActive = true)
      (hfound : found.getD [] ≠ []) :
      DeleteRun loadBalancer instanceId
        [⟨.getLoadBalancer loadBalancer, .ok (some b)⟩, ⟨.getInstance instanceId, .ok none⟩,
          ⟨.listPoolMembers loadBalancer pool.id, .ok found⟩]
        (.failed (.misshapen (.noMember "NoneType" "primary_address")))
  | noMembers {b : LoadBalancer} {pool : PoolReference} {record : Option Instance}
      {found : Option (List PoolMember)} (hpool : b.targetPool = some pool)
      (hstatus : b.isActive = true) (hfound : found.getD [] = []) :
      DeleteRun loadBalancer instanceId
        [⟨.getLoadBalancer loadBalancer, .ok (some b)⟩, ⟨.getInstance instanceId, .ok record⟩,
          ⟨.listPoolMembers loadBalancer pool.id, .ok found⟩]
        (.returned ())
  | absent {b : LoadBalancer} {pool : PoolReference} {i : Instance}
      {found : Option (List PoolMember)} (hpool : b.targetPool = some pool)
      (hstatus : b.isActive = true)
      (hmember : (filled i.primaryAddress).bind (memberAt (found.getD [])) = none) :
      DeleteRun loadBalancer instanceId
        [⟨.getLoadBalancer loadBalancer, .ok (some b)⟩, ⟨.getInstance instanceId, .ok (some i)⟩,
          ⟨.listPoolMembers loadBalancer pool.id, .ok found⟩]
        (.returned ())
  | deleted {b : LoadBalancer} {pool : PoolReference} {i : Instance}
      {found : Option (List PoolMember)} {m : PoolMember} (hpool : b.targetPool = some pool)
      (hstatus : b.isActive = true)
      (hmember : (filled i.primaryAddress).bind (memberAt (found.getD [])) = some m)
      (answer : Except Fault Unit) :
      DeleteRun loadBalancer instanceId
        [⟨.getLoadBalancer loadBalancer, .ok (some b)⟩, ⟨.getInstance instanceId, .ok (some i)⟩,
          ⟨.listPoolMembers loadBalancer pool.id, .ok found⟩,
          ⟨.deletePoolMember loadBalancer pool.id m.id, answer⟩]
        (.ofAnswer s!"deleting member {m.id} from pool {pool.id}" answer)

variable {α : Type} {loadBalancer pool address instanceId : String} {t : List (Event Cloud)}

theorem runs_fetch_bind_cases {f : LoadBalancer → Program Cloud α} {o : Outcome α}
    (h : (fetch loadBalancer >>= f).Runs t o) :
    (∃ cause : Fault, t = [⟨.getLoadBalancer loadBalancer, .error cause⟩] ∧
        o = .failed (cause.inCall s!"fetching load balancer {loadBalancer}")) ∨
      (t = [⟨.getLoadBalancer loadBalancer, .ok none⟩] ∧
        o = .failed (.misshapen (.noMember "NoneType" "target_pool"))) ∨
      ∃ b rest, t = ⟨.getLoadBalancer loadBalancer, .ok (some b)⟩ :: rest ∧
        (f b).Runs rest o := by
  rw [fetch, bind_assoc] at h
  rcases runs_described_bind_cases h with ⟨cause, rfl, rfl⟩ | ⟨record, rest, rfl, hrest⟩
  · exact .inl ⟨cause, rfl, rfl⟩
  · cases record with
    | none =>
      obtain ⟨rfl, rfl⟩ := runs_fail_iff.mp hrest
      exact .inr (.inl ⟨rfl, rfl⟩)
    | some b => exact .inr (.inr ⟨b, rest, rfl, hrest⟩)

theorem runs_members_bind_cases {f : List PoolMember → Program Cloud α} {o : Outcome α}
    (h : (members loadBalancer pool >>= f).Runs t o) :
    (∃ cause : Fault, t = [⟨.listPoolMembers loadBalancer pool, .error cause⟩] ∧
        o = .failed (cause.inCall s!"listing members of pool {pool}")) ∨
      ∃ found rest, t = ⟨.listPoolMembers loadBalancer pool, .ok found⟩ :: rest ∧
        (f (found.getD [])).Runs rest o := by
  rw [members, bind_assoc] at h
  rcases runs_described_bind_cases h with ⟨cause, rfl, rfl⟩ | ⟨found, rest, rfl, hrest⟩
  · exact .inl ⟨cause, rfl, rfl⟩
  · exact .inr ⟨found, rest, rfl, hrest⟩

theorem runs_requireActive_bind_cases {b : LoadBalancer} {f : Unit → Program Cloud α}
    {o : Outcome α} (h : (requireActive loadBalancer b >>= f).Runs t o) :
    (b.isActive = false ∧ t = [] ∧ o = .failed (.notActive loadBalancer b.provisioningStatus)) ∨
      (b.isActive = true ∧ (f ()).Runs t o) := by
  unfold requireActive at h
  split at h
  case isTrue hstatus => exact .inr ⟨hstatus, h⟩
  case isFalse hstatus =>
    obtain ⟨rfl, rfl⟩ := runs_fail_iff.mp h
    exact .inl ⟨Bool.eq_false_iff.mpr hstatus, rfl, rfl⟩

/-- Ensuring a member goes in one of the ways listed. -/
theorem ensureRun_of_runs {settings : Settings} {port : Option Int}
    {o : Outcome (Option PoolMember)}
    (h : (ensureMember settings loadBalancer address port).Runs t o) :
    EnsureRun loadBalancer address (port.getD settings.apiServerPort) t o := by
  unfold ensureMember at h
  generalize port.getD settings.apiServerPort = port at h ⊢
  cases hport : isPort port with
  | false =>
    simp only [hport, Bool.not_false, if_true] at h
    obtain ⟨rfl, rfl⟩ := runs_fail_iff.mp h
    exact .portOutOfRange hport
  | true =>
    simp only [hport, Bool.not_true, Bool.false_eq_true, if_false] at h
    rcases runs_fetch_bind_cases h with
      ⟨cause, rfl, rfl⟩ | ⟨rfl, rfl⟩ | ⟨b, rest, rfl, hrest⟩
    · exact .fetchFailed cause
    · exact .noRecord
    cases hpool : b.targetPool with
    | none =>
      simp only [hpool] at hrest
      obtain ⟨rfl, rfl⟩ := runs_fail_iff.mp hrest
      exact .noPools hpool
    | some pool =>
      simp only [hpool] at hrest
      rcases runs_requireActive_bind_cases hrest with ⟨hstatus, rfl, rfl⟩ | ⟨hstatus, hlist⟩
      · exact .notActive hpool hstatus
      rcases runs_members_bind_cases hlist with ⟨cause, rfl, rfl⟩ | ⟨found, rest, rfl, hcreate⟩
      · exact .listFailed hpool hstatus cause
      cases hmember : memberAt (found.getD []) address with
      | some existing =>
        simp only [hmember] at hcreate
        obtain ⟨rfl, rfl⟩ := runs_done_iff.mp hcreate
        exact .present hpool hstatus hmember
      | none =>
        simp only [hmember] at hcreate
        obtain ⟨answer, rfl, rfl⟩ := runs_described_request_iff.mp hcreate
        exact .created hpool hstatus hmember answer

/-- Deleting a member goes in one of the ways listed. -/
theorem deleteRun_of_runs {o : Outcome Unit}
    (h : (deleteMember loadBalancer instanceId).Runs t o) :
    DeleteRun loadBalancer instanceId t o := by
  unfold deleteMember at h
  rcases runs_fetch_bind_cases h with
    ⟨cause, rfl, rfl⟩ | ⟨rfl, rfl⟩ | ⟨b, rest, rfl, hrest⟩
  · exact .fetchFailed cause
  · exact .noRecord
  cases hpool : b.targetPool with
  | none =>
    simp only [hpool] at hrest
    obtain ⟨rfl, rfl⟩ := runs_done_iff.mp hrest
    exact .noPools hpool
  | some pool =>
    simp only [hpool] at hrest
    rcases runs_described_bind_cases hrest with ⟨cause, rfl, rfl⟩ | ⟨record, rest, rfl, hactive⟩
    · exact .instanceFailed hpool cause
    rcases runs_requireActive_bind_cases hactive with ⟨hstatus, rfl, rfl⟩ | ⟨hstatus, hlist⟩
    · exact .notActive hpool hstatus
    rcases runs_members_bind_cases hlist with ⟨cause, rfl, rfl⟩ | ⟨found, rest, rfl, hlisted⟩
    · exact .listFailed hpool hstatus cause
    by_cases hfound : found.getD [] = []
    · simp only [hfound, List.isEmpty_nil, if_true] at hlisted
      obtain ⟨rfl, rfl⟩ := runs_done_iff.mp hlisted
      exact .noMembers hpool hstatus hfound
    · simp only [List.isEmpty_iff, hfound, if_false] at hlisted
      cases record with
      | none =>
        obtain ⟨rfl, rfl⟩ := runs_fail_iff.mp hlisted
        exact .noInstance hpool hstatus hfound
      | some i =>
        rcases runs_bind_iff.mp hlisted with
          ⟨front, a, last, rfl, haddress, hlast⟩ | ⟨abort, _, haddress⟩
        · obtain ⟨rfl, ho⟩ := runs_done_iff.mp haddress
          cases ho
          cases hmember : (filled i.primaryAddress).bind (memberAt (found.getD [])) with
          | none =>
            simp only [hmember] at hlast
            obtain ⟨rfl, rfl⟩ := runs_done_iff.mp hlast
            exact .absent hpool hstatus hmember
          | some m =>
            simp only [hmember] at hlast
            obtain ⟨answer, rfl, rfl⟩ := runs_described_request_iff.mp hlast
            exact .deleted hpool hstatus hmember answer
        · have hreturned := (runs_done_iff.mp haddress).2
          exact absurd hreturned (Outcome.aborted_ne_returned _ _)

variable {port : Int} {b : LoadBalancer} {record : Option Instance}
  {found : Option (List PoolMember)}

/-- What is called before a member is added only reads. -/
theorem quiet_before_create :
    ∀ e ∈ ([⟨.getLoadBalancer loadBalancer, .ok (some b)⟩,
      ⟨.listPoolMembers loadBalancer pool, .ok found⟩] : List (Event Cloud)),
    e.1.isMutating = false := by
  simp [CloudCall.isMutating]

/-- What is called before a member is removed only reads. -/
theorem quiet_before_delete :
    ∀ e ∈ ([⟨.getLoadBalancer loadBalancer, .ok (some b)⟩, ⟨.getInstance instanceId, .ok record⟩,
      ⟨.listPoolMembers loadBalancer pool, .ok found⟩] : List (Event Cloud)),
    e.1.isMutating = false := by
  simp [CloudCall.isMutating]

/-- Ensuring a member changes nothing, or adds one at last, behind all checks. -/
theorem EnsureRun.quiet_or_created {o : Outcome (Option PoolMember)}
    (h : EnsureRun loadBalancer address port t o) :
    (∀ e ∈ t, e.1.isMutating = false) ∨
      ∃ (b : LoadBalancer) (pool : PoolReference) (found : Option (List PoolMember))
        (answer : Except Fault (Option PoolMember)),
        b.targetPool = some pool ∧ b.isActive = true ∧
        memberAt (found.getD []) address = none ∧
        t = [⟨.getLoadBalancer loadBalancer, .ok (some b)⟩,
          ⟨.listPoolMembers loadBalancer pool.id, .ok found⟩,
          ⟨.createPoolMember loadBalancer pool.id address port, answer⟩] ∧
        o = .ofAnswer s!"creating member {address}:{port} in pool {pool.id}" answer := by
  cases h
  case created b pool found hpool hstatus hmember answer =>
    exact .inr ⟨b, pool, found, answer, hpool, hstatus, hmember, rfl, rfl⟩
  all_goals
    left
    simp [CloudCall.isMutating]

theorem DeleteRun.quiet_or_deleted {o : Outcome Unit} (h : DeleteRun loadBalancer instanceId t o) :
    (∀ e ∈ t, e.1.isMutating = false) ∨
      ∃ (b : LoadBalancer) (pool : PoolReference) (i : Instance)
        (found : Option (List PoolMember)) (m : PoolMember) (answer : Except Fault Unit),
        b.targetPool = some pool ∧ b.isActive = true ∧
        (filled i.primaryAddress).bind (memberAt (found.getD [])) = some m ∧
        t = [⟨.getLoadBalancer loadBalancer, .ok (some b)⟩,
          ⟨.getInstance instanceId, .ok (some i)⟩,
          ⟨.listPoolMembers loadBalancer pool.id, .ok found⟩,
          ⟨.deletePoolMember loadBalancer pool.id m.id, answer⟩] ∧
        o = .ofAnswer s!"deleting member {m.id} from pool {pool.id}" answer := by
  cases h
  case deleted b pool i found m hpool hstatus hmember answer =>
    exact .inr ⟨b, pool, i, found, m, answer, hpool, hstatus, hmember, rfl, rfl⟩
  all_goals
    left
    simp [CloudCall.isMutating]

end VpcMachines.Pool
