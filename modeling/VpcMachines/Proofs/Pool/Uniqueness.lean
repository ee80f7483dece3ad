import Mathlib.Logic.Relation
import VpcMachines.Proofs.Pool.Site

/-!
# One member per address

Whatever sequence of membership operations runs against a site that may drift in between, no pool comes
to hold two members at one address. This includes operations that are cut off, and calls whose reply is
lost although they took effect. An operation leaves everything alone but the members at its address in
the first pool of its load balancer.
-/

namespace VpcMachines.Pool

variable {settings : Settings} {loadBalancer address instanceId : String} {port : Option Int}
  {w w' : Site} {t all : List (Event Cloud)}

/-- What an operation on one load balancer and one address leaves as it was. -/
structure Kept (w w' : Site) (loadBalancer : String) (address : Option String) : Prop where
  balancer : w'.balancer = w.balancer
  machine : w'.machine = w.machine
  pools : ∀ pool : String × String,
    ¬(pool.1 = loadBalancer ∧ w.firstPool loadBalancer = some pool.2) →
    w'.roster pool = w.roster pool
  members : ∀ pool, (w'.roster pool).members.filter (elsewhere address) =
    (w.roster pool).members.filter (elsewhere address)

theorem Kept.refl (w : Site) (loadBalancer : String) (address : Option String) :
    Kept w w loadBalancer address :=
  ⟨rfl, rfl, fun _ _ ↦ rfl, fun _ ↦ rfl⟩

/-- Another roster of the first pool, with the same members at other addresses, keeps the rest. -/
theorem Kept.withRoster {p a : String} {r : Roster} (hpool : w.firstPool loadBalancer = some p)
    (hr : r.members.filter (elsewhere (some a)) =
      (w.roster (loadBalancer, p)).members.filter (elsewhere (some a))) :
    Kept w (w.withRoster (loadBalancer, p) r) loadBalancer (some a) := by
  refine ⟨rfl, rfl, ?_, ?_⟩
  · intro pool hother
    apply Site.withRoster_roster_of_ne
    rintro rfl
    exact hother ⟨rfl, hpool⟩
  · intro pool
    by_cases h : pool = (loadBalancer, p)
    · subst h
      rw [Site.withRoster_roster_self]
      exact hr
    · rw [Site.withRoster_roster_of_ne h]

/-- What ensuring a member can do to a site. -/
inductive EnsureEffect (w : Site) (loadBalancer address : String) (port : Int) : Site → Prop where
  | same : EnsureEffect w loadBalancer address port w
  | added {p : String} {m : PoolMember} {w' : Site} (hpool : w.firstPool loadBalancer = some p)
      (hnone : (w.roster (loadBalancer, p)).holders address = [])
      (hadds : w.Adds (loadBalancer, p) address port m w') :
      EnsureEffect w loadBalancer address port w'

/-- What deleting the member of an instance can do to a site. -/
inductive DeleteEffect (w : Site) (loadBalancer instanceId : String) : Site → Prop where
  | same : DeleteEffect w loadBalancer instanceId w
  | removed {p a : String} {m : PoolMember} (hpool : w.firstPool loadBalancer = some p)
      (haddress : w.addressOf instanceId = some a)
      (hmem : m ∈ (w.roster (loadBalancer, p)).holders a) :
      DeleteEffect w loadBalancer instanceId
        (w.withRoster (loadBalancer, p) ((w.roster (loadBalancer, p)).remove m.id))

theorem firstPool_eq {w : Site} {b : LoadBalancer} {pool : PoolReference}
    (hb : some b = w.balancer loadBalancer) (hpool : b.targetPool = some pool) :
    w.firstPool loadBalancer = some pool.id := by
  simp [Site.firstPool, ← hb, hpool]

theorem addressOf_eq {w : Site} {i : Instance} {a : String}
    (hi : some i = w.machine instanceId) (ha : filled i.primaryAddress = some a) :
    w.addressOf instanceId = some a := by
  simp [Site.addressOf, ← hi, ha]

/-- A run that is cut off behind any call has this effect too. -/
theorem ensureEffect_of_runs {o : Outcome (Option PoolMember)}
    (h : (ensureMember settings loadBalancer address port).Runs all o) (hcut : t <+: all)
    (path : Site.Serves.Path w t w') :
    EnsureEffect w loadBalancer address (port.getD settings.apiServerPort) w' := by
  rcases (ensureRun_of_runs h).quiet_or_created with
    hquiet | ⟨b, pool, found, answer, hpool, _, hmember, rfl, _⟩
  · cases Site.path_quiet path fun e he ↦ hquiet e (hcut.subset he)
    exact .same
  have hend : t <+: [_, _] ++ [_] := hcut
  rcases List.prefix_concat_iff.mp hend with rfl | hbefore
  · obtain ⟨_, ⟨hb, rfl⟩, _, ⟨hfound, rfl⟩, _, hcreate, rfl⟩ := path
    -- The site was only read so far, so the list that was checked is what the change meets.
    have hfirst := firstPool_eq hb hpool
    cases hfound
    have hnone := Roster.holders_eq_nil_iff.mpr hmember
    cases answer with
    | ok created =>
      obtain ⟨m, _, hadds⟩ := hcreate
      exact .added hfirst hnone hadds
    | error cause =>
      rcases hcreate with rfl | ⟨m, hadds⟩
      · exact .same
      · exact .added hfirst hnone hadds
  · cases Site.path_quiet path fun e he ↦ quiet_before_create e (hbefore.subset he)
    exact .same

theorem deleteEffect_of_runs {o : Outcome Unit}
    (h : (deleteMember loadBalancer instanceId).Runs all o) (hcut : t <+: all)
    (path : Site.Serves.Path w t w') : DeleteEffect w loadBalancer instanceId w' := by
  rcases (deleteRun_of_runs h).quiet_or_deleted with
    hquiet | ⟨b, pool, i, found, m, answer, hpool, _, hmember, rfl, _⟩
  · cases Site.path_quiet path fun e he ↦ hquiet e (hcut.subset he)
    exact .same
  have hend : t <+: [_, _, _] ++ [_] := hcut
  rcases List.prefix_concat_iff.mp hend with rfl | hbefore
  · obtain ⟨_, ⟨hb, rfl⟩, _, ⟨hi, rfl⟩, _, ⟨hfound, rfl⟩, _, hdelete, rfl⟩ := path
    have hfirst := firstPool_eq hb hpool
    cases hfound
    obtain ⟨a, ha, hm⟩ := Option.bind_eq_some_iff.mp hmember
    have haddress := addressOf_eq hi ha
    have hmem := Roster.mem_holders_of_memberAt hm
    cases answer with
    | ok _ =>
      cases hdelete
      exact .removed hfirst haddress hmem
    | error cause =>
      rcases hdelete with rfl | rfl
      · exact .same
      · exact .removed hfirst haddress hmem
  · cases Site.path_quiet path fun e he ↦ quiet_before_delete e (hbefore.subset he)
    exact .same

theorem EnsureEffect.kept {port : Int} (h : EnsureEffect w loadBalancer address port w') :
    Kept w w' loadBalancer (some address) := by
  cases h with
  | same => exact .refl w loadBalancer _
  | added hpool _ hadds =>
    obtain ⟨haddress, _, fresh, rfl⟩ := hadds
    exact .withRoster hpool (Roster.elsewhere_add fresh haddress)

theorem DeleteEffect.kept (h : DeleteEffect w loadBalancer instanceId w') :
    Kept w w' loadBalancer (w.addressOf instanceId) := by
  cases h with
  | same => exact .refl w loadBalancer _
  | @removed p a m hpool haddress hmem =>
    obtain ⟨hmember, hat⟩ := List.mem_filter.mp hmem
    have hkept : m.address = some a := by simpa using hat
    rw [haddress]
    exact .withRoster hpool (Roster.elsewhere_remove hmember hkept)

theorem EnsureEffect.addressesDistinct {port : Int} (hw : w.AddressesDistinct)
    (h : EnsureEffect w loadBalancer address port w') : w'.AddressesDistinct := by
  cases h with
  | same => exact hw
  | added _ hnone hadds =>
    obtain ⟨haddress, _, fresh, rfl⟩ := hadds
    apply hw.withRoster
    intro a
    rw [Roster.holders_add]
    by_cases h : address = a
    · subst h
      rw [hnone, if_pos haddress]
      exact Nat.le_refl 1
    · have hne : ¬some address = some a := fun hsome ↦ h (Option.some.inj hsome)
      rw [haddress, if_neg hne, List.append_nil]
      exact hw _ a

theorem DeleteEffect.addressesDistinct (hw : w.AddressesDistinct)
    (h : DeleteEffect w loadBalancer instanceId w') : w'.AddressesDistinct := by
  cases h with
  | same => exact hw
  | removed =>
    apply hw.withRoster
    intro a
    rw [Roster.holders_remove]
    exact Nat.le_trans (List.length_filter_le _ _) (hw _ a)

/-! ## Operations that return -/

theorem ensure_returned {found : Option PoolMember}
    (h : (ensureMember settings loadBalancer address port).Runs t (.returned found))
    (path : Site.Serves.Path w t w') :
    ∃ p m, w'.firstPool loadBalancer = some p ∧ found = some m ∧
      m ∈ (w'.roster (loadBalancer, p)).holders address := by
  have hrun := ensureRun_of_runs h
  generalize ho : Outcome.returned found = o at hrun
  cases hrun with
  | present hpool _ hmember =>
    cases ho
    obtain ⟨_, ⟨hb, rfl⟩, _, ⟨hfound, rfl⟩, rfl⟩ := path
    cases hfound
    exact ⟨_, _, firstPool_eq hb hpool, rfl, Roster.mem_holders_of_memberAt hmember⟩
  | created hpool _ _ answer =>
    cases Outcome.ofAnswer_eq_returned_iff.mp ho.symm
    obtain ⟨_, ⟨hb, rfl⟩, _, ⟨_, rfl⟩, _, ⟨m, hm, haddress, _, fresh, rfl⟩, rfl⟩ := path
    refine ⟨_, m, firstPool_eq hb hpool, hm, ?_⟩
    rw [Site.withRoster_roster_self, Roster.holders_add, if_pos haddress]
    exact List.mem_append_right _ (List.mem_singleton_self m)
  | _ => cases ho

/-- Deleting the member of an instance takes the first one at its address out of the pool. -/
theorem delete_returned_eq (h : (deleteMember loadBalancer instanceId).Runs t (.returned ()))
    (path : Site.Serves.Path w t w') {p a : String} (hp : w.firstPool loadBalancer = some p)
    (ha : w.addressOf instanceId = some a) :
    w' = w.withRoster (loadBalancer, p) ((w.roster (loadBalancer, p)).dismiss a) := by
  have hrun := deleteRun_of_runs h
  generalize ho : Outcome.returned () = o at hrun
  cases hrun with
  | noPools hpool =>
    obtain ⟨_, ⟨hb, rfl⟩, rfl⟩ := path
    simp [Site.firstPool, ← hb, hpool] at hp
  | noMembers hpool _ hfound =>
    obtain ⟨_, ⟨hb, rfl⟩, _, ⟨_, rfl⟩, _, ⟨hlist, rfl⟩, rfl⟩ := path
    cases hlist
    cases (firstPool_eq hb hpool).symm.trans hp
    rw [Option.getD_some] at hfound
    rw [Roster.dismiss_of_none, Site.withRoster_self]
    rw [hfound]
    rfl
  | absent hpool _ hmember =>
    obtain ⟨_, ⟨hb, rfl⟩, _, ⟨hi, rfl⟩, _, ⟨hlist, rfl⟩, rfl⟩ := path
    cases hlist
    cases (firstPool_eq hb hpool).symm.trans hp
    simp only [Site.addressOf, ← hi, Option.bind_some] at ha
    rw [ha] at hmember
    rw [Roster.dismiss_of_none hmember, Site.withRoster_self]
  | deleted hpool _ hmember answer =>
    cases Outcome.ofAnswer_eq_returned_iff.mp ho.symm
    obtain ⟨_, ⟨hb, rfl⟩, _, ⟨hi, rfl⟩, _, ⟨hlist, rfl⟩, _, hdelete, rfl⟩ := path
    cases hlist
    cases hdelete
    cases (firstPool_eq hb hpool).symm.trans hp
    simp only [Site.addressOf, ← hi, Option.bind_some] at ha
    rw [ha] at hmember
    rw [Roster.remove_eq_dismiss hmember]
  | _ => cases ho

theorem delete_returned (hw : w.AddressesDistinct)
    (h : (deleteMember loadBalancer instanceId).Runs t (.returned ()))
    (path : Site.Serves.Path w t w') {p a : String} (hp : w'.firstPool loadBalancer = some p)
    (ha : w'.addressOf instanceId = some a) : (w'.roster (loadBalancer, p)).holders a = [] := by
  have hkept := (deleteEffect_of_runs h (List.prefix_refl t) path).kept
  rw [Site.firstPool, hkept.balancer] at hp
  rw [Site.addressOf, hkept.machine] at ha
  have hone : ((w.roster (loadBalancer, p)).holders a).length ≤ 1 := hw _ a
  rw [delete_returned_eq h path hp ha, Site.withRoster_roster_self, Roster.holders_dismiss]
  apply List.eq_nil_of_length_eq_zero
  rw [List.length_tail]
  omega

/-! ## Runs of any length -/

/-- One step of a site: a drift, or an operation, which may be cut off behind any of its calls. -/
inductive Step (settings : Settings) : Site → Site → Prop where
  | drift {w w' : Site} (h : w.Drifts w') : Step settings w w'
  | ensure {w w' : Site} {loadBalancer address : String} {port : Option Int}
      {t all : List (Event Cloud)} {o : Outcome (Option PoolMember)}
      (run : (ensureMember settings loadBalancer address port).Runs all o) (hcut : t <+: all)
      (path : Site.Serves.Path w t w') : Step settings w w'
  | delete {w w' : Site} {loadBalancer instanceId : String} {t all : List (Event Cloud)}
      {o : Outcome Unit} (run : (deleteMember loadBalancer instanceId).Runs all o) (hcut : t <+: all)
      (path : Site.Serves.Path w t w') : Step settings w w'

abbrev Reaches (settings : Settings) : Site → Site → Prop := Relation.ReflTransGen (Step settings)

theorem Step.addressesDistinct (hw : w.AddressesDistinct) (h : Step settings w w') :
    w'.AddressesDistinct := by
  cases h with
  | drift h => exact hw.drift h
  | ensure run hcut path => exact (ensureEffect_of_runs run hcut path).addressesDistinct hw
  | delete run hcut path => exact (deleteEffect_of_runs run hcut path).addressesDistinct hw

theorem Reaches.addressesDistinct (hw : w.AddressesDistinct) (h : Reaches settings w w') :
    w'.AddressesDistinct := by
  induction h with
  | refl => exact hw
  | tail _ step ih => exact step.addressesDistinct ih

/-- From a site on which addresses are distinct, every site that is reached has at most one member per
address in every pool. Wherever an operation goes on from there, it keeps the rest, adding a member
leaves exactly one at its address, and deleting one leaves none at the address of the instance. -/
theorem one_member_per_address {start : Site} (hstart : start.AddressesDistinct)
    (h : Reaches settings start w) :
    w.AddressesDistinct ∧
    (∀ (loadBalancer address : String) (port : Option Int) (t all : List (Event Cloud))
      (o : Outcome (Option PoolMember)) (w' : Site),
      (ensureMember settings loadBalancer address port).Runs all o → t <+: all →
      Site.Serves.Path w t w' → Kept w w' loadBalancer (some address)) ∧
    (∀ (loadBalancer instanceId : String) (t all : List (Event Cloud)) (o : Outcome Unit)
      (w' : Site),
      (deleteMember loadBalancer instanceId).Runs all o → t <+: all →
      Site.Serves.Path w t w' → Kept w w' loadBalancer (w.addressOf instanceId)) ∧
    (∀ (loadBalancer address : String) (port : Option Int) (t : List (Event Cloud))
      (found : Option PoolMember) (w' : Site),
      (ensureMember settings loadBalancer address port).Runs t (.returned found) →
      Site.Serves.Path w t w' →
      ∃ p m, w'.firstPool loadBalancer = some p ∧ found = some m ∧
        (w'.roster (loadBalancer, p)).holders address = [m]) ∧
    (∀ (loadBalancer instanceId : String) (t : List (Event Cloud)) (w' : Site),
      (deleteMember loadBalancer instanceId).Runs t (.returned ()) → Site.Serves.Path w t w' →
      ∀ p a, w'.firstPool loadBalancer = some p → w'.addressOf instanceId = some a →
        (w'.roster (loadBalancer, p)).holders a = []) := by
  have hw : w.AddressesDistinct := Reaches.addressesDistinct hstart h
  refine ⟨hw, ?_, ?_, ?_, ?_⟩
  · intro loadBalancer address port t all o w' run hcut path
    exact (ensureEffect_of_runs run hcut path).kept
  · intro loadBalancer instanceId t all o w' run hcut path
    exact (deleteEffect_of_runs run hcut path).kept
  · intro loadBalancer address port t found w' run path
    obtain ⟨p, m, hp, hfound, hmem⟩ := ensure_returned run path
    have hw' : w'.AddressesDistinct :=
      (ensureEffect_of_runs run (List.prefix_refl t) path).addressesDistinct hw
    exact ⟨p, m, hp, hfound, Roster.holders_eq_singleton (hw' _ _) hmem⟩
  · intro loadBalancer instanceId t w' run path p a hp ha
    exact delete_returned hw run path hp ha

/-- A site with one active load balancer, whose pool is empty. -/
def emptySite : Site where
  balancer id :=
    if id = "balancer" then some ⟨id, none, some "active", [⟨"pool", none⟩]⟩ else none
  roster _ := ⟨[], List.nodup_nil⟩
  machine _ := none

/-- The site with one member. -/
def joinedSite : Site :=
  emptySite.withRoster ("balancer", "pool")
    (Roster.add ⟨[], List.nodup_nil⟩ ⟨"member", some "10.0.0.1", some 6443, none⟩ List.not_mem_nil)

/-- The reply to the first attempt is lost. The second one finds the member that was added. -/
theorem one_member_after_lost_reply :
    emptySite.AddressesDistinct ∧ Reaches .default emptySite joinedSite ∧
      ∃ p m, joinedSite.firstPool "balancer" = some p ∧
        (joinedSite.roster ("balancer", p)).holders "10.0.0.1" = [m] := by
  let b : LoadBalancer := ⟨"balancer", none, some "active", [⟨"pool", none⟩]⟩
  let m : PoolMember := ⟨"member", some "10.0.0.1", some 6443, none⟩
  have hstart : emptySite.AddressesDistinct := fun _ _ ↦ Nat.zero_le 1
  have hlost : (ensureMember .default "balancer" "10.0.0.1" none).Runs
      [⟨.getLoadBalancer "balancer", .ok (some b)⟩,
        ⟨.listPoolMembers "balancer" "pool", .ok (some [])⟩,
        ⟨.createPoolMember "balancer" "pool" "10.0.0.1" 6443, .error .noToken⟩] _ :=
    .call _ (.call _ (.call _ (.fail _)))
  have hstep : Step .default emptySite joinedSite :=
    .ensure hlost (List.prefix_refl _)
      ⟨_, ⟨rfl, rfl⟩, _, ⟨rfl, rfl⟩, _, .inr ⟨m, rfl, rfl, List.not_mem_nil, rfl⟩, rfl⟩
  have hreaches : Reaches .default emptySite joinedSite := .single hstep
  have hagain : (ensureMember .default "balancer" "10.0.0.1" none).Runs
      [⟨.getLoadBalancer "balancer", .ok (some b)⟩,
        ⟨.listPoolMembers "balancer" "pool", .ok (some [m])⟩] (.returned (some m)) :=
    .call _ (.call _ (.done _))
  have hpath : Site.Serves.Path joinedSite
      [⟨.getLoadBalancer "balancer", .ok (some b)⟩,
        ⟨.listPoolMembers "balancer" "pool", .ok (some [m])⟩] joinedSite :=
    ⟨_, ⟨rfl, rfl⟩, _, ⟨rfl, rfl⟩, rfl⟩
  obtain ⟨p, found, hp, _, hone⟩ :=
    (one_member_per_address hstart hreaches).2.2.2.1 _ _ _ _ _ _ hagain hpath
  exact ⟨hstart, hreaches, p, found, hp, hone⟩

end VpcMachines.Pool
