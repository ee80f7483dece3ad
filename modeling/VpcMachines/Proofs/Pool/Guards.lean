import VpcMachines.Proofs.Pool.Exits

/-!
# Guards of pool membership

An operation on members changes something only by its last call, and only where the answers that it
got before allow it: the load balancer is active, the pool is its first one, and the members that were
listed call for the change. Nothing is assumed about the cloud, whose answers may depend on all calls
so far.
-/

namespace VpcMachines

namespace LoadBalancer

theorem isActive_eq_true_iff {b : LoadBalancer} :
    b.isActive = true ↔ b.provisioningStatus = some "active" := by
  simp [isActive]

theorem targetPool_eq_none_iff {b : LoadBalancer} : b.targetPool = none ↔ b.pools = [] := by
  simp [targetPool]

end LoadBalancer

namespace Pool

open Program (runs_trace)

/-- What holds of the calls `t` and the end `o` of ensuring a member. -/
structure GuardedEnsure (loadBalancer address : String) (port : Int) (t : List (Event Cloud))
    (o : Outcome (Option PoolMember)) : Prop where
  /-- The only change adds the address and the port to the first pool of an active load
  balancer, in whose listing no member has the address. -/
  change : ∀ (c : CloudCall) (answer : Except Fault c.Reply), (⟨c, answer⟩ : Event Cloud) ∈ t →
    c.isMutating = true →
    ∃ (b : LoadBalancer) (pool : PoolReference) (found : Option (List PoolMember)),
      b.provisioningStatus = some "active" ∧ b.pools.head? = some pool ∧
      (∀ m ∈ found.getD [], m.address ≠ some address) ∧
      c = .createPoolMember loadBalancer pool.id address port ∧
      t = [⟨.getLoadBalancer loadBalancer, .ok (some b)⟩,
        ⟨.listPoolMembers loadBalancer pool.id, .ok found⟩, ⟨c, answer⟩]
  /-- A load balancer with pools that is not active ends the operation at once. -/
  inactive : ∀ b : LoadBalancer,
    (⟨.getLoadBalancer loadBalancer, .ok (some b)⟩ : Event Cloud) ∈ t → b.pools ≠ [] →
    b.provisioningStatus ≠ some "active" →
    t = [⟨.getLoadBalancer loadBalancer, .ok (some b)⟩] ∧
      o = .failed (.notActive loadBalancer b.provisioningStatus)
  /-- So does a load balancer without pools. -/
  poolless : ∀ b : LoadBalancer,
    (⟨.getLoadBalancer loadBalancer, .ok (some b)⟩ : Event Cloud) ∈ t → b.pools = [] →
    t = [⟨.getLoadBalancer loadBalancer, .ok (some b)⟩] ∧ o = .failed (.noPools loadBalancer)

/-- What holds of the calls `t` and the end `o` of deleting the member of an instance. -/
structure GuardedDelete (loadBalancer instanceId : String) (t : List (Event Cloud))
    (o : Outcome Unit) : Prop where
  /-- The only change removes, from the first pool of an active load balancer, the first listed member
  at the address of the instance, which is not empty. -/
  change : ∀ (c : CloudCall) (answer : Except Fault c.Reply), (⟨c, answer⟩ : Event Cloud) ∈ t →
    c.isMutating = true →
    ∃ (b : LoadBalancer) (pool : PoolReference) (i : Instance) (a : String)
      (found : Option (List PoolMember)) (before : List PoolMember) (m : PoolMember)
      (behind : List PoolMember),
      b.provisioningStatus = some "active" ∧ b.pools.head? = some pool ∧
      i.primaryAddress = some a ∧ a ≠ "" ∧
      found.getD [] = before ++ m :: behind ∧ (∀ n ∈ before, n.address ≠ some a) ∧
      m.address = some a ∧
      c = .deletePoolMember loadBalancer pool.id m.id ∧
      t = [⟨.getLoadBalancer loadBalancer, .ok (some b)⟩, ⟨.getInstance instanceId, .ok (some i)⟩,
        ⟨.listPoolMembers loadBalancer pool.id, .ok found⟩, ⟨c, answer⟩]
  /-- For an instance without an address nothing is removed. -/
  addressless : ∀ i : Instance,
    (⟨.getInstance instanceId, .ok (some i)⟩ : Event Cloud) ∈ t →
    i.primaryAddress = none ∨ i.primaryAddress = some "" → ∀ e ∈ t, e.1.isMutating = false
  /-- Where the load balancer has pools and is not active, nothing is called behind the look at the
  instance, and unless that fails the operation ends with the status. -/
  inactive : ∀ b : LoadBalancer,
    (⟨.getLoadBalancer loadBalancer, .ok (some b)⟩ : Event Cloud) ∈ t → b.pools ≠ [] →
    b.provisioningStatus ≠ some "active" →
    ∃ answer : Except Fault (Option Instance),
      t = [⟨.getLoadBalancer loadBalancer, .ok (some b)⟩, ⟨.getInstance instanceId, answer⟩] ∧
      (∀ record, answer = .ok record →
        o = .failed (.notActive loadBalancer b.provisioningStatus)) ∧
      ∀ cause, answer = .error cause →
        o = .failed (cause.inCall s!"fetching instance {instanceId}")
  /-- Where it has no pools, there is nothing to do. -/
  poolless : ∀ b : LoadBalancer,
    (⟨.getLoadBalancer loadBalancer, .ok (some b)⟩ : Event Cloud) ∈ t → b.pools = [] →
    t = [⟨.getLoadBalancer loadBalancer, .ok (some b)⟩] ∧ o = .returned ()

variable {loadBalancer address instanceId : String} {port : Int} {t : List (Event Cloud)}

theorem targetPool_ne_none {b : LoadBalancer} {pool : PoolReference}
    (h : b.targetPool = some pool) : b.targetPool ≠ none :=
  Option.ne_none_iff_exists'.mpr ⟨pool, h⟩

theorem memberAt_eq_none_iff {members : List PoolMember} :
    memberAt members address = none ↔ ∀ m ∈ members, m.address ≠ some address := by
  simp [memberAt]

theorem memberAt_eq_some_iff {members : List PoolMember} {m : PoolMember} :
    memberAt members address = some m ↔
      m.address = some address ∧ ∃ before behind, members = before ++ m :: behind ∧
        ∀ n ∈ before, n.address ≠ some address := by
  simp [memberAt, List.find?_eq_some_iff_append]

/-- What was fetched decides how ensuring a member goes on. -/
theorem EnsureRun.fetched_cases {o : Outcome (Option PoolMember)} {b : LoadBalancer}
    (h : EnsureRun loadBalancer address port t o)
    (hb : (⟨.getLoadBalancer loadBalancer, .ok (some b)⟩ : Event Cloud) ∈ t) :
    (b.targetPool = none ∧ t = [⟨.getLoadBalancer loadBalancer, .ok (some b)⟩] ∧
        o = .failed (.noPools loadBalancer)) ∨
      (b.targetPool ≠ none ∧ b.isActive = false ∧
        t = [⟨.getLoadBalancer loadBalancer, .ok (some b)⟩] ∧
        o = .failed (.notActive loadBalancer b.provisioningStatus)) ∨
      (b.targetPool ≠ none ∧ b.isActive = true) := by
  cases h with
  | portOutOfRange => cases hb
  | fetchFailed => obtain ⟨⟩ | ⟨_, ⟨⟩⟩ := hb
  | noRecord => obtain ⟨⟩ | ⟨_, ⟨⟩⟩ := hb
  | noPools hpool =>
    rcases hb with ⟨⟩ | ⟨_, ⟨⟩⟩
    exact .inl ⟨hpool, rfl, rfl⟩
  | notActive hpool hstatus =>
    rcases hb with ⟨⟩ | ⟨_, ⟨⟩⟩
    exact .inr (.inl ⟨targetPool_ne_none hpool, hstatus, rfl, rfl⟩)
  | listFailed hpool hstatus =>
    rcases hb with ⟨⟩ | ⟨_, ⟨⟩ | ⟨_, ⟨⟩⟩⟩
    exact .inr (.inr ⟨targetPool_ne_none hpool, hstatus⟩)
  | present hpool hstatus =>
    rcases hb with ⟨⟩ | ⟨_, ⟨⟩ | ⟨_, ⟨⟩⟩⟩
    exact .inr (.inr ⟨targetPool_ne_none hpool, hstatus⟩)
  | created hpool hstatus =>
    rcases hb with ⟨⟩ | ⟨_, ⟨⟩ | ⟨_, ⟨⟩ | ⟨_, ⟨⟩⟩⟩⟩
    exact .inr (.inr ⟨targetPool_ne_none hpool, hstatus⟩)

theorem DeleteRun.fetched_cases {o : Outcome Unit} {b : LoadBalancer}
    (h : DeleteRun loadBalancer instanceId t o)
    (hb : (⟨.getLoadBalancer loadBalancer, .ok (some b)⟩ : Event Cloud) ∈ t) :
    (b.targetPool = none ∧ t = [⟨.getLoadBalancer loadBalancer, .ok (some b)⟩] ∧
        o = .returned ()) ∨
      (b.targetPool ≠ none ∧ b.isActive = false ∧ ∃ answer : Except Fault (Option Instance),
        t = [⟨.getLoadBalancer loadBalancer, .ok (some b)⟩, ⟨.getInstance instanceId, answer⟩] ∧
        (∀ record, answer = .ok record →
          o = .failed (.notActive loadBalancer b.provisioningStatus)) ∧
        ∀ cause, answer = .error cause →
          o = .failed (cause.inCall s!"fetching instance {instanceId}")) ∨
      (b.targetPool ≠ none ∧ b.isActive = true) := by
  cases h with
  | fetchFailed => obtain ⟨⟩ | ⟨_, ⟨⟩⟩ := hb
  | noRecord => obtain ⟨⟩ | ⟨_, ⟨⟩⟩ := hb
  | noPools hpool =>
    rcases hb with ⟨⟩ | ⟨_, ⟨⟩⟩
    exact .inl ⟨hpool, rfl, rfl⟩
  | instanceFailed hpool cause =>
    rcases hb with ⟨⟩ | ⟨_, ⟨⟩ | ⟨_, ⟨⟩⟩⟩
    have hpools := targetPool_ne_none hpool
    cases hstatus : b.isActive with
    | true => exact .inr (.inr ⟨hpools, rfl⟩)
    | false =>
      refine .inr (.inl ⟨hpools, rfl, _, rfl, nofun, ?_⟩)
      rintro _ ⟨⟩
      rfl
  | notActive hpool hstatus =>
    rcases hb with ⟨⟩ | ⟨_, ⟨⟩ | ⟨_, ⟨⟩⟩⟩
    exact .inr (.inl ⟨targetPool_ne_none hpool, hstatus, _, rfl,
      fun _ _ ↦ rfl, nofun⟩)
  | listFailed hpool hstatus =>
    rcases hb with ⟨⟩ | ⟨_, ⟨⟩ | ⟨_, ⟨⟩ | ⟨_, ⟨⟩⟩⟩⟩
    exact .inr (.inr ⟨targetPool_ne_none hpool, hstatus⟩)
  | noInstance hpool hstatus =>
    rcases hb with ⟨⟩ | ⟨_, ⟨⟩ | ⟨_, ⟨⟩ | ⟨_, ⟨⟩⟩⟩⟩
    exact .inr (.inr ⟨targetPool_ne_none hpool, hstatus⟩)
  | noMembers hpool hstatus =>
    rcases hb with ⟨⟩ | ⟨_, ⟨⟩ | ⟨_, ⟨⟩ | ⟨_, ⟨⟩⟩⟩⟩
    exact .inr (.inr ⟨targetPool_ne_none hpool, hstatus⟩)
  | absent hpool hstatus =>
    rcases hb with ⟨⟩ | ⟨_, ⟨⟩ | ⟨_, ⟨⟩ | ⟨_, ⟨⟩⟩⟩⟩
    exact .inr (.inr ⟨targetPool_ne_none hpool, hstatus⟩)
  | deleted hpool hstatus =>
    rcases hb with ⟨⟩ | ⟨_, ⟨⟩ | ⟨_, ⟨⟩ | ⟨_, ⟨⟩ | ⟨_, ⟨⟩⟩⟩⟩⟩
    exact .inr (.inr ⟨targetPool_ne_none hpool, hstatus⟩)

theorem EnsureRun.guarded {o : Outcome (Option PoolMember)}
    (h : EnsureRun loadBalancer address port t o) :
    GuardedEnsure loadBalancer address port t o := by
  refine ⟨?_, ?_, ?_⟩
  · intro c answer hc hchange
    rcases h.quiet_or_created with
      hquiet | ⟨b, pool, found, created, hpool, hstatus, hmember, rfl, rfl⟩
    · have hnot : c.isMutating = false := hquiet _ hc
      rw [hnot] at hchange
      cases hchange
    · rcases hc with ⟨⟩ | ⟨_, ⟨⟩ | ⟨_, ⟨⟩ | ⟨_, ⟨⟩⟩⟩⟩
      · cases hchange
      · cases hchange
      · exact ⟨b, pool, found, LoadBalancer.isActive_eq_true_iff.mp hstatus, hpool,
          memberAt_eq_none_iff.mp hmember, rfl, rfl⟩
  · intro b hb hpools hstatus
    rcases h.fetched_cases hb with ⟨hpool, _⟩ | ⟨_, _, ht, ho⟩ | ⟨_, hactive⟩
    · exact absurd (LoadBalancer.targetPool_eq_none_iff.mp hpool) hpools
    · exact ⟨ht, ho⟩
    · exact absurd (LoadBalancer.isActive_eq_true_iff.mp hactive) hstatus
  · intro b hb hpools
    have hpool : b.targetPool = none := LoadBalancer.targetPool_eq_none_iff.mpr hpools
    rcases h.fetched_cases hb with ⟨_, ht, ho⟩ | ⟨hne, _⟩ | ⟨hne, _⟩
    · exact ⟨ht, ho⟩
    · exact absurd hpool hne
    · exact absurd hpool hne

theorem DeleteRun.guarded {o : Outcome Unit} (h : DeleteRun loadBalancer instanceId t o) :
    GuardedDelete loadBalancer instanceId t o := by
  refine ⟨?_, ?_, ?_, ?_⟩
  · intro c answer hc hchange
    rcases h.quiet_or_deleted with
      hquiet | ⟨b, pool, i, found, m, deleted, hpool, hstatus, hmember, rfl, rfl⟩
    · have hnot : c.isMutating = false := hquiet _ hc
      rw [hnot] at hchange
      cases hchange
    · rcases hc with ⟨⟩ | ⟨_, ⟨⟩ | ⟨_, ⟨⟩ | ⟨_, ⟨⟩ | ⟨_, ⟨⟩⟩⟩⟩⟩
      · cases hchange
      · cases hchange
      · cases hchange
      · obtain ⟨a, ha, hm⟩ := Option.bind_eq_some_iff.mp hmember
        obtain ⟨haddress, hne⟩ := filled_eq_some_iff.mp ha
        obtain ⟨hat, before, behind, hsplit, hbefore⟩ := memberAt_eq_some_iff.mp hm
        exact ⟨b, pool, i, a, found, before, m, behind,
          LoadBalancer.isActive_eq_true_iff.mp hstatus, hpool, haddress, hne, hsplit, hbefore, hat,
          rfl, rfl⟩
  · intro i hi hnone
    rcases h.quiet_or_deleted with
      hquiet | ⟨b, pool, j, found, m, deleted, hpool, hstatus, hmember, rfl, rfl⟩
    · exact hquiet
    · rcases hi with ⟨⟩ | ⟨_, ⟨⟩ | ⟨_, ⟨⟩ | ⟨_, ⟨⟩ | ⟨_, ⟨⟩⟩⟩⟩⟩
      obtain ⟨a, ha, _⟩ := Option.bind_eq_some_iff.mp hmember
      obtain ⟨haddress, hne⟩ := filled_eq_some_iff.mp ha
      rcases hnone with hnone | hempty
      · rw [hnone] at haddress
        cases haddress
      · rw [hempty] at haddress
        cases haddress
        exact absurd rfl hne
  · intro b hb hpools hstatus
    rcases h.fetched_cases hb with ⟨hpool, _⟩ | ⟨_, _, hinactive⟩ | ⟨_, hactive⟩
    · exact absurd (LoadBalancer.targetPool_eq_none_iff.mp hpool) hpools
    · exact hinactive
    · exact absurd (LoadBalancer.isActive_eq_true_iff.mp hactive) hstatus
  · intro b hb hpools
    have hpool : b.targetPool = none := LoadBalancer.targetPool_eq_none_iff.mpr hpools
    rcases h.fetched_cases hb with ⟨_, ht, ho⟩ | ⟨hne, _⟩ | ⟨hne, _⟩
    · exact ⟨ht, ho⟩
    · exact absurd hpool hne
    · exact absurd hpool hne

/-- Members are changed only behind the checks of the same operation, for every cloud and whatever was
called before. -/
theorem membership_change_guarded {σ : Type} (cloud : Handler Cloud σ) (s : σ)
    (settings : Settings) (loadBalancer address instanceId : String) (port : Option Int) :
    let ensure := ensureMember settings loadBalancer address port
    let delete := deleteMember loadBalancer instanceId
    GuardedEnsure loadBalancer address (port.getD settings.apiServerPort) (ensure.trace cloud s)
        (ensure.run cloud s).1 ∧
      GuardedDelete loadBalancer instanceId (delete.trace cloud s) (delete.run cloud s).1 :=
  ⟨(ensureRun_of_runs (runs_trace cloud _ s)).guarded,
    (deleteRun_of_runs (runs_trace cloud _ s)).guarded⟩

end Pool

end VpcMachines
