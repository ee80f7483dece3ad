import Mathlib.Data.List.Nodup
import Mathlib.Data.List.Perm.Subperm
import Mathlib.Logic.Function.Basic
import VpcMachines.Proofs.Pool.Exits

/-!
# Sites

A site is what membership operations find in the cloud: load balancers, the members of their pools, and
instances. It answers as it is. A call that adds or removes a member may fail and may have taken effect
all the same. Between operations a site may drift in any way in which no member comes in.
-/

namespace VpcMachines.Pool

/-- The members of a pool, no two of them with one ID. -/
structure Roster where
  members : List PoolMember
  ids_distinct : (members.map PoolMember.id).Nodup

/-- Members that an operation on an address has to leave alone. -/
def elsewhere (address : Option String) (m : PoolMember) : Bool :=
  address.all fun a ↦ m.address != some a

namespace Roster

variable {r : Roster} {m : PoolMember} {a : String}

/-- The members at an address. -/
def holders (r : Roster) (address : String) : List PoolMember :=
  r.members.filter fun m ↦ m.address == some address

def add (r : Roster) (m : PoolMember) (fresh : m.id ∉ r.members.map PoolMember.id) : Roster where
  members := r.members ++ [m]
  ids_distinct := by
    rw [List.map_append, List.map_singleton, List.nodup_append]
    refine ⟨r.ids_distinct, List.nodup_singleton _, ?_⟩
    intro id hid other hother
    rw [List.mem_singleton.mp hother]
    exact ne_of_mem_of_not_mem hid fresh

def remove (r : Roster) (id : String) : Roster where
  members := r.members.filter fun m ↦ m.id != id
  ids_distinct := (List.filter_sublist.map _).nodup r.ids_distinct

/-- The roster without the first member at an address. -/
def dismiss (r : Roster) (address : String) : Roster where
  members := r.members.eraseP fun m ↦ m.address == some address
  ids_distinct := (List.eraseP_sublist.map _).nodup r.ids_distinct

theorem ext_members {r r' : Roster} (h : r.members = r'.members) : r = r' := by
  cases r
  cases r'
  cases h
  rfl

theorem holders_eq_nil_iff : r.holders a = [] ↔ memberAt r.members a = none := by
  simp [holders, memberAt]

theorem mem_holders_of_memberAt (h : memberAt r.members a = some m) : m ∈ r.holders a := by
  have hfound : (r.members.find? fun m ↦ m.address == some a) = some m := h
  have haddress : (m.address == some a) = true := by simpa using List.find?_some hfound
  exact List.mem_filter.mpr ⟨List.mem_of_find?_eq_some hfound, haddress⟩

theorem holders_eq_singleton (hr : (r.holders a).length ≤ 1) (hmem : m ∈ r.holders a) :
    r.holders a = [m] := by
  match hholders : r.holders a, hmem with
  | [n], hmem => rw [List.mem_singleton.mp hmem]
  | _ :: _ :: _, _ =>
    rw [hholders] at hr
    simp at hr

theorem holders_add (fresh : m.id ∉ r.members.map PoolMember.id) :
    (r.add m fresh).holders a = r.holders a ++ if m.address = some a then [m] else [] := by
  simp [holders, add, List.filter_append, List.filter_singleton]

theorem holders_remove (id : String) :
    (r.remove id).holders a = (r.holders a).filter fun m ↦ m.id != id := by
  simp only [holders, remove, List.filter_filter, Bool.and_comm]

theorem elsewhere_add (fresh : m.id ∉ r.members.map PoolMember.id) (hm : m.address = some a) :
    (r.add m fresh).members.filter (elsewhere (some a)) =
      r.members.filter (elsewhere (some a)) := by
  have hnot : elsewhere (some a) m = false := by simp [elsewhere, hm]
  rw [add, List.filter_append, List.filter_singleton, hnot]
  exact List.append_nil _

/-- Removing a member by its ID removes no member at another address. -/
theorem elsewhere_remove (hmem : m ∈ r.members) (hm : m.address = some a) :
    (r.remove m.id).members.filter (elsewhere (some a)) =
      r.members.filter (elsewhere (some a)) := by
  rw [remove, List.filter_filter]
  apply List.filter_congr
  intro n hn
  cases hother : elsewhere (some a) n with
  | false => rfl
  | true =>
    have hne : n ≠ m := by
      rintro rfl
      simp [elsewhere, hm] at hother
    have hid : n.id ≠ m.id := fun h ↦ hne (List.inj_on_of_nodup_map r.ids_distinct hn hmem h)
    simpa using hid

/-- Where nobody has the address, nobody is dismissed. -/
theorem dismiss_of_none (h : memberAt r.members a = none) : r.dismiss a = r := by
  have hnone : ∀ m ∈ r.members, ¬(m.address == some a) = true := List.find?_eq_none.mp h
  exact ext_members (List.eraseP_of_forall_not hnone)

/-- Removing the first member at an address by its ID removes no other. -/
theorem remove_eq_dismiss (h : memberAt r.members a = some m) : r.remove m.id = r.dismiss a := by
  obtain ⟨hm, before, behind, hsplit, hbefore⟩ := List.find?_eq_some_iff_append.mp h
  have hdistinct := r.ids_distinct
  rw [hsplit, List.map_append, List.map_cons, List.nodup_middle, List.nodup_cons,
    List.mem_append, not_or] at hdistinct
  obtain ⟨⟨hfront, hback⟩, _⟩ := hdistinct
  have hkept (l : List PoolMember) (hl : m.id ∉ l.map PoolMember.id) :
      l.filter (fun n ↦ n.id != m.id) = l := by
    apply List.filter_eq_self.mpr
    intro n hn
    exact bne_iff_ne.mpr (ne_of_mem_of_not_mem (List.mem_map_of_mem hn) hl)
  have hfirst : (m :: behind).eraseP (fun n ↦ n.address == some a) = behind :=
    List.eraseP_cons_of_pos hm
  apply ext_members
  calc
    (r.remove m.id).members = before ++ behind := by
      simp [remove, hsplit, hkept before hfront, hkept behind hback]
    _ = (r.dismiss a).members := by
      change _ = r.members.eraseP _
      rw [hsplit, List.eraseP_append_right _ (by simpa using hbefore), hfirst]

/-- Among the members at the address it is the first one that goes. -/
theorem holders_dismiss : (r.dismiss a).holders a = (r.holders a).tail := by
  have hfirst : (r.dismiss a).holders a = (r.holders a).eraseP fun m ↦ m.address == some a := by
    simp [holders, dismiss, List.eraseP_filter]
  rw [hfirst]
  cases hholders : r.holders a with
  | nil => rfl
  | cons m rest =>
    have hm : m ∈ r.holders a := hholders ▸ List.mem_cons_self
    exact List.eraseP_cons_of_pos (List.mem_filter.mp hm).2

theorem elsewhere_dismiss :
    (r.dismiss a).members.filter (elsewhere (some a)) =
      r.members.filter (elsewhere (some a)) := by
  cases h : memberAt r.members a with
  | none => rw [dismiss_of_none h]
  | some m =>
    obtain ⟨hmem, hm⟩ := List.mem_filter.mp (mem_holders_of_memberAt h)
    have haddress : m.address = some a := by simpa using hm
    rw [← remove_eq_dismiss h, elsewhere_remove hmem haddress]

end Roster

/-- Load balancers and instances by their IDs, and the members of a pool by the IDs of its load balancer
and its own. -/
structure Site where
  balancer : String → Option LoadBalancer
  roster : String × String → Roster
  machine : String → Option Instance

namespace Site

/-- The site with another roster of one pool. -/
def withRoster (w : Site) (pool : String × String) (r : Roster) : Site :=
  { w with roster := Function.update w.roster pool r }

/-- One member more, with a fresh ID and with the address and the port that were requested. -/
def Adds (w : Site) (pool : String × String) (address : String) (port : Int) (m : PoolMember)
    (w' : Site) : Prop :=
  m.address = some address ∧ m.port = some port ∧
    ∃ fresh, w' = w.withRoster pool ((w.roster pool).add m fresh)

/-- The answers of a site, and what it is afterwards. -/
def Serves : Behaviour Cloud Site := fun w c answer w' ↦
  match c, answer with
  | .getLoadBalancer id, .ok found => found = w.balancer id ∧ w' = w
  | .getInstance id, .ok found => found = w.machine id ∧ w' = w
  | .listPoolMembers loadBalancer pool, .ok found =>
    found = some (w.roster (loadBalancer, pool)).members ∧ w' = w
  | .createPoolMember loadBalancer pool address port, .ok created =>
    ∃ m, created = some m ∧ w.Adds (loadBalancer, pool) address port m w'
  | .createPoolMember loadBalancer pool address port, .error _ =>
    w' = w ∨ ∃ m, w.Adds (loadBalancer, pool) address port m w'
  | .deletePoolMember loadBalancer pool id, .ok _ =>
    w' = w.withRoster (loadBalancer, pool) ((w.roster (loadBalancer, pool)).remove id)
  | .deletePoolMember loadBalancer pool id, .error _ =>
    w' = w ∨ w' = w.withRoster (loadBalancer, pool) ((w.roster (loadBalancer, pool)).remove id)
  | _, _ => w' = w

/-- What may happen between operations: anything but that a member comes in. -/
def Drifts (w w' : Site) : Prop :=
  ∀ pool, (w'.roster pool).members.Subperm (w.roster pool).members

/-- The ID of the pool of a load balancer that receives the machines. -/
def firstPool (w : Site) (loadBalancer : String) : Option String :=
  ((w.balancer loadBalancer).bind LoadBalancer.targetPool).map PoolReference.id

/-- The address of an instance, if it has one. -/
def addressOf (w : Site) (instanceId : String) : Option String :=
  (w.machine instanceId).bind fun i ↦ filled i.primaryAddress

/-- No pool holds two members at one address. -/
def AddressesDistinct (w : Site) : Prop := ∀ pool a, ((w.roster pool).holders a).length ≤ 1

variable {w w' : Site} {pool : String × String} {r : Roster}

@[simp]
theorem withRoster_machine : (w.withRoster pool r).machine = w.machine := rfl

@[simp]
theorem withRoster_roster_self : (w.withRoster pool r).roster pool = r :=
  Function.update_self ..

theorem withRoster_roster_of_ne {other : String × String} (h : other ≠ pool) :
    (w.withRoster pool r).roster other = w.roster other :=
  Function.update_of_ne h ..

theorem withRoster_withRoster {r' : Roster} :
    (w.withRoster pool r).withRoster pool r' = w.withRoster pool r' := by
  simp [withRoster]

theorem withRoster_self : w.withRoster pool (w.roster pool) = w := by
  rw [withRoster, Function.update_eq_self]

theorem serves_quiet {c : CloudCall} {answer : Except Fault c.Reply}
    (h : Serves w c answer w') (hc : c.isMutating = false) : w' = w := by
  cases c <;> cases answer <;> first | exact h | exact h.2 | cases hc

/-- A site stays as it is where nothing is changed. -/
theorem path_quiet {t : List (Event Cloud)} (h : Serves.Path w t w')
    (ht : ∀ e ∈ t, e.1.isMutating = false) : w' = w :=
  h.view_eq fun e he _ _ hab ↦ serves_quiet hab (ht e he)

theorem AddressesDistinct.withRoster (hw : w.AddressesDistinct)
    (hr : ∀ a, (r.holders a).length ≤ 1) : (w.withRoster pool r).AddressesDistinct := by
  intro other a
  by_cases h : other = pool
  · subst h
    rw [withRoster_roster_self]
    exact hr a
  · rw [withRoster_roster_of_ne h]
    exact hw other a

theorem AddressesDistinct.drift (hw : w.AddressesDistinct) (h : w.Drifts w') :
    w'.AddressesDistinct := by
  intro pool a
  have hfewer : ((w'.roster pool).holders a).Subperm ((w.roster pool).holders a) :=
    List.Subperm.filter _ (h pool)
  exact Nat.le_trans hfewer.length_le (hw pool a)

end Site

end VpcMachines.Pool
