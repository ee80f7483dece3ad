import VpcMachines.Proofs.Lookups
import VpcMachines.Proofs.Machine.Stages
import VpcMachines.Proofs.Pool.Guards
import VpcMachines.Proofs.Pool.Site

/-!
# Tearing a machine down

In a cloud where only what concerns an absent instance fails, the order of the calls decides what
tearing down achieves. As long as the instance is there, every call returns. Once it is gone, every call
fails, whatever is left to remove, and changes nothing. So the member of the instance is removed exactly
if its removal is the first call.
-/

namespace VpcMachines

open Program

/-- The cloud does not know what it was asked about. -/
structure Fault.Absence (fault : Fault) : Prop where
  category : fault.category = .provider
  status : fault.status? = some 404

theorem Fault.Absence.inCall {fault : Fault} (h : fault.Absence) (description : String) :
    fault.inCall description = fault := by
  apply Fault.inCall_of_isOwn
  rw [Fault.isOwn, h.category]
  rfl

namespace Pool

namespace Roster

variable {r : Roster} {a : String} {m : PoolMember}

/-- The roster without the members at an address. -/
def vacate (r : Roster) (address : Option String) : Roster where
  members := r.members.filter (elsewhere address)
  ids_distinct := (List.filter_sublist.map _).nodup r.ids_distinct

/-- Where nobody has the address, the roster stays as it is. -/
theorem vacate_of_elsewhere {address : Option String}
    (h : ∀ m ∈ r.members, elsewhere address m = true) : r.vacate address = r := by
  apply ext_members
  exact List.filter_eq_self.mpr h

/-- Removing the only member at an address by its ID empties the address. -/
theorem remove_eq_vacate (hone : r.holders a = [m]) : r.remove m.id = r.vacate (some a) := by
  have hholds (n : PoolMember) : n ∈ r.holders a ↔ n ∈ r.members ∧ n.address = some a := by
    simp [holders]
  simp only [hone, List.mem_singleton] at hholds
  obtain ⟨hm, haddress⟩ := (hholds m).mp rfl
  apply ext_members
  refine List.filter_congr fun n hn ↦ ?_
  by_cases hsame : n = m
  · subst hsame
    simp [elsewhere, haddress]
  · have hid : n.id ≠ m.id := fun h ↦ hsame (List.inj_on_of_nodup_map r.ids_distinct hn hm h)
    have hother : n.address ≠ some a := fun h ↦ hsame ((hholds n).mpr ⟨hn, h⟩)
    simp [elsewhere, bne_iff_ne.mpr hid, bne_iff_ne.mpr hother]

theorem holders_vacate_le (address : Option String) (a : String) :
    ((r.vacate address).holders a).length ≤ (r.holders a).length :=
  (List.filter_sublist.filter _).length_le

end Roster

namespace Site

variable {w w' : Site} {loadBalancer p id : String}

def withoutMachine (w : Site) (id : String) : Site :=
  { w with machine := Function.update w.machine id none }

/-- The site with nobody at an address of a pool. -/
def vacate (w : Site) (pool : String × String) (address : Option String) : Site :=
  w.withRoster pool ((w.roster pool).vacate address)

/-- Pools, members and instances are as they are, what is deleted is gone, and only what concerns an
absent instance fails. -/
def Steady : Behaviour Cloud Site := fun w c answer w' ↦
  match c, answer with
  | .getLoadBalancer id, answer => answer = .ok (w.balancer id) ∧ w' = w
  | .getInstance id, answer =>
    w' = w ∧ match w.machine id with
      | some i => answer = .ok (some i)
      | none => ∃ fault : Fault, answer = .error fault ∧ fault.Absence
  | .deleteInstance id, answer =>
    match w.machine id with
    | some _ => answer = .ok () ∧ w' = w.withoutMachine id
    | none => w' = w ∧ ∃ fault : Fault, answer = .error fault ∧ fault.Absence
  | .listPoolMembers loadBalancer pool, answer =>
    answer = .ok (some (w.roster (loadBalancer, pool)).members) ∧ w' = w
  | .deletePoolMember loadBalancer pool id, answer =>
    answer = .ok () ∧
      w' = w.withRoster (loadBalancer, pool) ((w.roster (loadBalancer, pool)).remove id)
  | _, _ => True

/-- The load balancer is active, and in its first pool no two members have one address. -/
structure Ready (w : Site) (loadBalancer p : String) : Prop where
  active : ∃ b, w.balancer loadBalancer = some b ∧ b.isActive = true
  first : w.firstPool loadBalancer = some p
  distinct : ∀ a, ((w.roster (loadBalancer, p)).holders a).length ≤ 1

/-- Where nobody has the address, the site stays as it is. -/
theorem vacate_of_elsewhere {pool : String × String} {address : Option String}
    (h : ∀ m ∈ (w.roster pool).members, elsewhere address m = true) : w.vacate pool address = w := by
  rw [vacate, Roster.vacate_of_elsewhere h, withRoster_self]

theorem addressOf_of_none (h : w.machine id = none) : w.addressOf id = none := by
  rw [addressOf, h, Option.bind_none]

theorem addressOf_of_some {i : Instance} (h : w.machine id = some i) :
    w.addressOf id = filled i.primaryAddress := by
  rw [addressOf, h, Option.bind_some]

theorem Ready.withoutMachine (h : w.Ready loadBalancer p) :
    (w.withoutMachine id).Ready loadBalancer p :=
  ⟨h.active, h.first, h.distinct⟩

theorem Ready.vacate (h : w.Ready loadBalancer p) (address : Option String) :
    (w.vacate (loadBalancer, p) address).Ready loadBalancer p := by
  refine ⟨h.active, h.first, fun a ↦ ?_⟩
  rw [Site.vacate, withRoster_roster_self]
  exact Nat.le_trans (Roster.holders_vacate_le address a) (h.distinct a)

end Site

end Pool

/-! ## One call -/

open Pool (Site)

/-- The calls that tear a machine down. -/
inductive Removal where
  | member
  | machine
  deriving DecidableEq

namespace Removal

def call (loadBalancer id : String) (status : MachineStatus) : Removal → Program Cloud Unit
  | member => Pool.deleteMember loadBalancer id
  | machine => Machine.delete status

/-- What a call removes where the instance is there. -/
def effect (loadBalancer p id : String) (w : Site) : Removal → Site
  | member => w.vacate (loadBalancer, p) (w.addressOf id)
  | machine => w.withoutMachine id

/-- How a call ends, and the site that it leaves. -/
inductive Ends (loadBalancer p id : String) (removal : Removal) (w : Site) :
    Outcome Unit → Site → Prop where
  | absent {fault : Fault} (hgone : w.machine id = none) (hfault : fault.Absence) :
      Ends loadBalancer p id removal w (.failed fault) w
  | removed (hthere : w.machine id ≠ none) :
      Ends loadBalancer p id removal w (.returned ()) (removal.effect loadBalancer p id w)

variable {loadBalancer p id : String} {status : MachineStatus} {w w' : Site}
  {t : List (Event Cloud)} {o : Outcome Unit}

theorem Ends.of_absent {removal : Removal} {fault : Fault} (hgone : w.machine id = none)
    (hfault : fault.Absence) (description : String) :
    Ends loadBalancer p id removal w (.failed (fault.inCall description)) w := by
  rw [hfault.inCall]
  exact .absent hgone hfault

/-- An answer to the look at an instance says whether it is there. -/
theorem answer_getInstance {answer : Except Fault (Option Instance)}
    (h : Site.Steady w (.getInstance id) answer w') :
    w' = w ∧ ((∃ i, w.machine id = some i ∧ answer = .ok (some i)) ∨
      (w.machine id = none ∧ ∃ fault : Fault, answer = .error fault ∧ fault.Absence)) := by
  obtain ⟨hsame, hanswer⟩ := h
  refine ⟨hsame, ?_⟩
  cases hmachine : w.machine id with
  | some i =>
    simp only [hmachine] at hanswer
    exact .inl ⟨i, rfl, hanswer⟩
  | none =>
    simp only [hmachine] at hanswer
    exact .inr ⟨rfl, hanswer⟩

/-- Where nobody has the address of an instance that is there, its removal leaves all as it is. -/
theorem Ends.of_elsewhere (hthere : w.machine id ≠ none)
    (h : ∀ m ∈ (w.roster (loadBalancer, p)).members,
      Pool.elsewhere (w.addressOf id) m = true) :
    Ends loadBalancer p id member w (.returned ()) w := by
  have heffect : member.effect loadBalancer p id w = w := Site.vacate_of_elsewhere h
  have hends : Ends loadBalancer p id member w (.returned ()) (member.effect loadBalancer p id w) :=
    .removed hthere
  rwa [heffect] at hends

/-- The only member at the address of an instance that is there is removed by its ID. -/
theorem Ends.of_holder {a : String} {m : PoolMember} (hthere : w.machine id ≠ none)
    (haddress : w.addressOf id = some a) (hone : (w.roster (loadBalancer, p)).holders a = [m]) :
    Ends loadBalancer p id member w (.returned ())
      (w.withRoster (loadBalancer, p) ((w.roster (loadBalancer, p)).remove m.id)) := by
  have hends : Ends loadBalancer p id member w (.returned ()) (member.effect loadBalancer p id w) :=
    .removed hthere
  rwa [effect, Site.vacate, haddress, ← Pool.Roster.remove_eq_vacate hone] at hends

theorem ends_machine (hid : filled status.instanceId = some id)
    (run : (Machine.delete status).Runs t o) (path : Site.Steady.Path w t w') :
    Ends loadBalancer p id machine w o w' := by
  cases Machine.deleteRun_of_runs run with
  | noInstance hnone =>
    rw [hid] at hnone
    cases hnone
  | @requested recorded hrecorded answer =>
    obtain rfl : recorded = id := Option.some.inj (hrecorded.symm.trans hid)
    have hcall := Behaviour.path_singleton.mp path
    cases hmachine : w.machine recorded with
    | some i =>
      simp only [Site.Steady, hmachine] at hcall
      obtain ⟨rfl, rfl⟩ := hcall
      exact .removed (by simp [hmachine])
    | none =>
      simp only [Site.Steady, hmachine] at hcall
      obtain ⟨rfl, fault, rfl, hfault⟩ := hcall
      exact .of_absent hmachine hfault _

/-- A load balancer that is ready is given as it is, with its first pool. -/
theorem balancer_of_path {answer : Except Fault (Option LoadBalancer)} {rest : List (Event Cloud)}
    (hready : w.Ready loadBalancer p)
    (path : Site.Steady.Path w (⟨.getLoadBalancer loadBalancer, answer⟩ :: rest) w') :
    Site.Steady.Path w rest w' ∧ ∃ b pool, answer = .ok (some b) ∧ b.isActive = true ∧
      b.targetPool = some pool ∧ pool.id = p := by
  obtain ⟨_, ⟨hanswer, rfl⟩, hrest⟩ := path
  obtain ⟨b, hb, hactive⟩ := hready.active
  have hfirst := hready.first
  rw [Site.firstPool, hb, Option.bind_some] at hfirst
  obtain ⟨pool, hpool, hid⟩ := Option.map_eq_some_iff.mp hfirst
  rw [hb] at hanswer
  exact ⟨hrest, b, pool, hanswer, hactive, hpool, hid⟩

/-- Once the members are listed, the instance was there, and the members are those of the first pool. -/
theorem listed_of_path {b : LoadBalancer} {pool : PoolReference} {record : Option Instance}
    {found : Option (List PoolMember)} {rest : List (Event Cloud)} (hready : w.Ready loadBalancer p)
    (hpool : b.targetPool = some pool)
    (path : Site.Steady.Path w
      (⟨.getLoadBalancer loadBalancer, .ok (some b)⟩ :: ⟨.getInstance id, .ok record⟩ ::
        ⟨.listPoolMembers loadBalancer pool.id, .ok found⟩ :: rest) w') :
    Site.Steady.Path w rest w' ∧ pool.id = p ∧ found = some (w.roster (loadBalancer, p)).members ∧
      ∃ i, w.machine id = some i ∧ record = some i := by
  obtain ⟨hlooked, known, first, hb, _, hfirst, hid⟩ := balancer_of_path hready path
  cases hb
  obtain rfl : pool = first := Option.some.inj (hpool.symm.trans hfirst)
  obtain ⟨_, hget, _, ⟨hlist, rfl⟩, hrest⟩ := hlooked
  obtain ⟨rfl, ⟨i, hi, hanswer⟩ | ⟨_, _, hanswer, _⟩⟩ := answer_getInstance hget
  · cases hanswer
    cases hlist
    rw [hid]
    exact ⟨hrest, rfl, rfl, i, hi, rfl⟩
  · cases hanswer

theorem ends_member (hready : w.Ready loadBalancer p)
    (run : (Pool.deleteMember loadBalancer id).Runs t o) (path : Site.Steady.Path w t w') :
    Ends loadBalancer p id member w o w' := by
  cases Pool.deleteRun_of_runs run with
  | fetchFailed =>
    obtain ⟨_, _, _, hb, _⟩ := balancer_of_path hready path
    cases hb
  | noRecord =>
    obtain ⟨_, _, _, hb, _⟩ := balancer_of_path hready path
    cases hb
  | noPools hpool =>
    obtain ⟨_, _, _, hb, _, hfirst, _⟩ := balancer_of_path hready path
    cases hb
    rw [hpool] at hfirst
    cases hfirst
  | instanceFailed =>
    obtain ⟨⟨_, hget, rfl⟩, _⟩ := balancer_of_path hready path
    obtain ⟨rfl, ⟨_, _, hanswer⟩ | ⟨hgone, fault, hanswer, hfault⟩⟩ := answer_getInstance hget
    · cases hanswer
    · cases hanswer
      exact .of_absent hgone hfault _
  | notActive _ hstatus =>
    obtain ⟨_, _, _, hb, hactive, _⟩ := balancer_of_path hready path
    cases hb
    rw [hactive] at hstatus
    cases hstatus
  | listFailed =>
    obtain ⟨⟨_, _, _, ⟨hlist, _⟩, _⟩, _⟩ := balancer_of_path hready path
    cases hlist
  | noInstance hpool =>
    obtain ⟨_, _, _, _, _, hrecord⟩ := listed_of_path hready hpool path
    cases hrecord
  | noMembers hpool _ hfound =>
    obtain ⟨rfl, rfl, rfl, i, hi, _⟩ := listed_of_path hready hpool path
    refine .of_elsewhere (by simp [hi]) fun m hm ↦ ?_
    rw [Option.getD_some] at hfound
    rw [hfound] at hm
    cases hm
  | @absent b pool i found hpool _ hmember =>
    obtain ⟨rfl, rfl, rfl, _, hi, hrecord⟩ := listed_of_path hready hpool path
    cases hrecord
    refine .of_elsewhere (by simp [hi]) fun m hm ↦ ?_
    rw [Site.addressOf_of_some hi]
    cases haddress : filled i.primaryAddress with
    | none => rfl
    | some a =>
      rw [haddress, Option.bind_some] at hmember
      have hother : m.address ≠ some a := Pool.memberAt_eq_none_iff.mp hmember m hm
      exact bne_iff_ne.mpr hother
  | deleted hpool _ hmember answer =>
    obtain ⟨⟨_, ⟨hdeleted, rfl⟩, rfl⟩, rfl, rfl, i, hi, hrecord⟩ := listed_of_path hready hpool path
    cases hrecord
    cases hdeleted
    obtain ⟨a, ha, hm⟩ := Option.bind_eq_some_iff.mp hmember
    have hone := Pool.Roster.holders_eq_singleton (hready.distinct a)
      (Pool.Roster.mem_holders_of_memberAt hm)
    refine .of_holder (by simp [hi]) ?_ hone
    rw [Site.addressOf_of_some hi, ha]

/-- A call ends in one of the ways listed. -/
theorem ends_of_runs (hready : w.Ready loadBalancer p) (hid : filled status.instanceId = some id)
    {removal : Removal} (run : (removal.call loadBalancer id status).Runs t o)
    (path : Site.Steady.Path w t w') : Ends loadBalancer p id removal w o w' := by
  cases removal with
  | member => exact ends_member hready run path
  | machine => exact ends_machine hid run path

theorem Ends.ready {removal : Removal} (h : Ends loadBalancer p id removal w o w')
    (hready : w.Ready loadBalancer p) : w'.Ready loadBalancer p := by
  cases h with
  | absent => exact hready
  | removed =>
    cases removal with
    | member => exact hready.vacate _
    | machine => exact hready.withoutMachine

theorem Ends.returned {removal : Removal} (h : Ends loadBalancer p id removal w o w')
    (hthere : w.machine id ≠ none) : o = .returned () := by
  cases h with
  | absent hgone => exact absurd hgone hthere
  | removed => rfl

theorem Ends.failed {removal : Removal} (h : Ends loadBalancer p id removal w o w')
    (hgone : w.machine id = none) : (∃ fault, o = .failed fault ∧ fault.Absence) ∧ w' = w := by
  cases h with
  | absent _ hfault => exact ⟨⟨_, rfl, hfault⟩, rfl⟩
  | removed hthere => exact absurd hgone hthere

/-! ## Any sequence of calls -/

/-- What a call removes is not there. The member is known by the address that the instance had. -/
def IsGone (loadBalancer p id : String) (address : Option String) (w : Site) : Removal → Prop
  | member => ∀ m ∈ (w.roster (loadBalancer, p)).members, Pool.elsewhere address m = true
  | machine => w.machine id = none

end Removal

/-- What a sequence of calls has made of a site. -/
structure TornDown (loadBalancer p id : String) (removals : List Removal) (w w' : Site) : Prop where
  /-- The instance is gone if its deletion was called for. -/
  machine : w'.machine =
    if .machine ∈ removals then Function.update w.machine id none else w.machine
  /-- The members at the address that the instance had are gone if their removal came first. -/
  members : (w'.roster (loadBalancer, p)).members =
    if removals.head? = some .member then
      (w.roster (loadBalancer, p)).members.filter (Pool.elsewhere (w.addressOf id))
    else (w.roster (loadBalancer, p)).members
  pools : ∀ pool, pool ≠ (loadBalancer, p) → w'.roster pool = w.roster pool
  balancer : w'.balancer = w.balancer

namespace TornDown

variable {loadBalancer p id : String} {removals : List Removal} {w w₁ w' : Site}

theorem refl (w : Site) : TornDown loadBalancer p id [] w w :=
  ⟨rfl, rfl, fun _ _ ↦ rfl, rfl⟩

theorem filter_elsewhere_none (members : List PoolMember) :
    members.filter (Pool.elsewhere none) = members :=
  List.filter_eq_self.mpr fun _ _ ↦ rfl

/-- Where the instance is not there, a call makes no difference. -/
theorem cons_absent (hgone : w.machine id = none) (removal : Removal)
    (h : TornDown loadBalancer p id removals w w') :
    TornDown loadBalancer p id (removal :: removals) w w' := by
  have hsame : Function.update w.machine id none = w.machine :=
    Function.update_eq_self_iff.mpr hgone.symm
  refine ⟨?_, ?_, h.pools, h.balancer⟩
  · rw [h.machine, hsame, ite_self, ite_self]
  · rw [h.members, Site.addressOf_of_none hgone, filter_elsewhere_none, ite_self, ite_self]

theorem cons_member
    (h : TornDown loadBalancer p id removals (Removal.member.effect loadBalancer p id w) w') :
    TornDown loadBalancer p id (.member :: removals) w w' := by
  have hroster : ((Removal.member.effect loadBalancer p id w).roster (loadBalancer, p)).members =
      (w.roster (loadBalancer, p)).members.filter (Pool.elsewhere (w.addressOf id)) := by
    rw [Removal.effect, Site.vacate, Site.withRoster_roster_self]
    rfl
  have haddress : (Removal.member.effect loadBalancer p id w).addressOf id = w.addressOf id := rfl
  refine ⟨?_, ?_, ?_, h.balancer⟩
  · rw [h.machine]
    simp [Removal.effect, Site.vacate]
  · rw [h.members, hroster, haddress, List.filter_filter]
    simp
  · intro pool hother
    rw [h.pools pool hother]
    exact Site.withRoster_roster_of_ne hother

theorem cons_machine
    (h : TornDown loadBalancer p id removals (Removal.machine.effect loadBalancer p id w) w') :
    TornDown loadBalancer p id (.machine :: removals) w w' := by
  have hmachine : (Removal.machine.effect loadBalancer p id w).machine =
      Function.update w.machine id none := rfl
  have hgone : (Removal.machine.effect loadBalancer p id w).machine id = none := by
    rw [hmachine, Function.update_self]
  refine ⟨?_, ?_, h.pools, h.balancer⟩
  · rw [h.machine, hmachine, Function.update_idem, ite_self]
    simp
  · rw [h.members, Site.addressOf_of_none hgone, filter_elsewhere_none, ite_self]
    rfl

theorem cons {removal : Removal} {o : Outcome Unit}
    (hfirst : removal.Ends loadBalancer p id w o w₁)
    (h : TornDown loadBalancer p id removals w₁ w') :
    TornDown loadBalancer p id (removal :: removals) w w' := by
  cases hfirst with
  | absent hgone => exact h.cons_absent hgone removal
  | removed =>
    cases removal with
    | member => exact h.cons_member
    | machine => exact h.cons_machine

/-- The instance is there exactly until its deletion is called for. -/
theorem machine_eq_none_iff (h : TornDown loadBalancer p id removals w w') :
    w'.machine id = none ↔ w.machine id = none ∨ .machine ∈ removals := by
  rw [h.machine]
  by_cases hcalled : .machine ∈ removals
  · simp [hcalled]
  · simp [hcalled]

/-- As long as the instance is there, its address is that which it had. -/
theorem addressOf_eq (h : TornDown loadBalancer p id removals w w')
    (hthere : w'.machine id ≠ none) : w'.addressOf id = w.addressOf id := by
  have hnot : .machine ∉ removals := fun hcalled ↦ hthere (h.machine_eq_none_iff.mpr (.inr hcalled))
  have hmachine := h.machine
  rw [if_neg hnot] at hmachine
  rw [Site.addressOf, hmachine]
  rfl

end TornDown

/-- A call for what is gone changes nothing. -/
theorem Removal.Ends.eq_of_isGone {removal : Removal} {loadBalancer p id : String} {w w' : Site}
    {o : Outcome Unit} {address : Option String} (h : removal.Ends loadBalancer p id w o w')
    (haddress : w.machine id ≠ none → w.addressOf id = address)
    (hgone : removal.IsGone loadBalancer p id address w) : w' = w := by
  cases h with
  | absent => rfl
  | removed hthere =>
    cases removal with
    | member =>
      rw [effect, haddress hthere]
      exact Site.vacate_of_elsewhere hgone
    | machine => exact absurd hgone hthere

/-- The state behind some programs, one after the other. -/
def Handler.after {I : Interface} {σ α : Type} (h : Handler I σ) (programs : List (Program I α))
    (s : σ) : σ :=
  programs.foldl (fun s p ↦ (p.run h s).2) s

section Sequence

variable {σ : Type} {cloud : Handler Cloud σ} {view : σ → Site} {s : σ} {status : MachineStatus}
  {loadBalancer p id : String}

theorem ends_of_steady
    (hcloud : ∀ c s, Site.Steady (view s) c (cloud.answer c s).1 (view (cloud.answer c s).2))
    (hready : (view s).Ready loadBalancer p) (hid : filled status.instanceId = some id)
    (removal : Removal) :
    let call := removal.call loadBalancer id status
    removal.Ends loadBalancer p id (view s) (call.run cloud s).1 (view (call.run cloud s).2) :=
  Removal.ends_of_runs hready hid (runs_trace cloud _ s) (Behaviour.path_trace hcloud _ s)

/-- A sequence of calls tears down what its order allows, and the load balancer stays ready. -/
theorem tornDown_after
    (hcloud : ∀ c s, Site.Steady (view s) c (cloud.answer c s).1 (view (cloud.answer c s).2))
    (hready : (view s).Ready loadBalancer p) (hid : filled status.instanceId = some id)
    (removals : List Removal) :
    let w' := view (cloud.after (removals.map (Removal.call loadBalancer id status)) s)
    TornDown loadBalancer p id removals (view s) w' ∧ w'.Ready loadBalancer p := by
  induction removals generalizing s with
  | nil => exact ⟨.refl _, hready⟩
  | cons removal removals ih =>
    have hfirst := ends_of_steady hcloud hready hid removal
    obtain ⟨hrest, hend⟩ := ih (hfirst.ready hready)
    exact ⟨hrest.cons hfirst, hend⟩

/-- What a sequence of calls achieves is decided by its order: a call returns as long as the instance is
there, it fails without any effect once the deletion was called for, and the member of the instance goes
only with the first call. -/
theorem teardown_decided_by_order (cloud : Handler Cloud σ) (view : σ → Site)
    (hcloud : ∀ c s, Site.Steady (view s) c (cloud.answer c s).1 (view (cloud.answer c s).2))
    (start : σ) (status : MachineStatus) (loadBalancer p id : String)
    (hready : (view start).Ready loadBalancer p) (hid : filled status.instanceId = some id)
    (removals : List Removal) (removal : Removal) :
    let call := Removal.call loadBalancer id status
    let s := cloud.after (removals.map call) start
    let o := ((call removal).run cloud s).1
    let s' := ((call removal).run cloud s).2
    TornDown loadBalancer p id removals (view start) (view s) ∧
      ((view start).machine id ≠ none → .machine ∉ removals → o = .returned ()) ∧
      ((view start).machine id = none ∨ .machine ∈ removals →
        (∃ fault, o = .failed fault ∧ fault.Absence) ∧ view s' = view s) ∧
      (removal.IsGone loadBalancer p id ((view start).addressOf id) (view s) →
        view s' = view s) := by
  intro call s o s'
  obtain ⟨htorn, hstill⟩ := tornDown_after hcloud hready hid removals
  have hends := ends_of_steady hcloud hstill hid removal
  refine ⟨htorn, ?_, ?_, ?_⟩
  · intro hthere hnot
    have hpresent : (view s).machine id ≠ none := by
      rw [Ne, htorn.machine_eq_none_iff]
      exact not_or.mpr ⟨hthere, hnot⟩
    exact hends.returned hpresent
  · intro hgone
    exact hends.failed (htorn.machine_eq_none_iff.mpr hgone)
  · exact hends.eq_of_isGone htorn.addressOf_eq

/-- A cloud that holds a site and does to it what it is told to. -/
def steadyCloud : Handler Cloud Site where
  answer
    | .getLoadBalancer id, w => (.ok (w.balancer id), w)
    | .getInstance id, w =>
      match w.machine id with
      | some i => (.ok (some i), w)
      | none => (.error (.refused s!"GET /instances/{id}" 404 "not found"), w)
    | .deleteInstance id, w =>
      match w.machine id with
      | some _ => (.ok (), w.withoutMachine id)
      | none => (.error (.refused s!"DELETE /instances/{id}" 404 "not found"), w)
    | .listPoolMembers loadBalancer pool, w =>
      (.ok (some (w.roster (loadBalancer, pool)).members), w)
    | .deletePoolMember loadBalancer pool id, w =>
      (.ok (), w.withRoster (loadBalancer, pool) ((w.roster (loadBalancer, pool)).remove id))
    | _, w => (.error .unimplemented, w)

theorem steady_steadyCloud (c : CloudCall) (w : Site) :
    Site.Steady w c (steadyCloud.answer c w).1 (steadyCloud.answer c w).2 := by
  cases c with
  | getInstance id =>
    cases hmachine : w.machine id with
    | some i => simp [Site.Steady, steadyCloud, hmachine]
    | none =>
      simp only [Site.Steady, steadyCloud, hmachine]
      exact ⟨trivial, _, rfl, rfl, rfl⟩
  | deleteInstance id =>
    cases hmachine : w.machine id with
    | some i => simp [Site.Steady, steadyCloud, hmachine]
    | none =>
      simp only [Site.Steady, steadyCloud, hmachine]
      exact ⟨trivial, _, rfl, rfl, rfl⟩
  | getLoadBalancer id => exact ⟨rfl, rfl⟩
  | listPoolMembers loadBalancer pool => exact ⟨rfl, rfl⟩
  | deletePoolMember loadBalancer pool id => exact ⟨rfl, rfl⟩
  | _ => trivial

/-- A site with one instance, which is a member of the pool of an active load balancer. -/
def staffedSite : Site where
  balancer id :=
    if id = "balancer" then some ⟨id, none, some "active", [⟨"pool", none⟩]⟩ else none
  roster _ := ⟨[⟨"member", some "10.0.0.1", some 6443, none⟩], List.nodup_singleton _⟩
  machine id :=
    if id = "id" then some ⟨"id", "machine", none, some "10.0.0.1", none, none⟩ else none

/-- Where the member goes first, the instance and the member are both gone. -/
theorem torn_down_member_first :
    let call := Removal.call "balancer" "id" ⟨some "id", [], none⟩
    let w := steadyCloud.after [call .member, call .machine] staffedSite
    w.machine "id" = none ∧ (w.roster ("balancer", "pool")).members = [] := by
  intro call w
  have hready : staffedSite.Ready "balancer" "pool" :=
    ⟨⟨_, rfl, rfl⟩, rfl, fun _ ↦ List.length_filter_le _ _⟩
  obtain ⟨htorn, _⟩ := teardown_decided_by_order steadyCloud (fun w ↦ w) steady_steadyCloud
    staffedSite ⟨some "id", [], none⟩ "balancer" "pool" "id" hready rfl [.member, .machine] .machine
  exact ⟨htorn.machine_eq_none_iff.mpr (.inr (by decide)), htorn.members⟩

/-- Deleting an instance twice fails the second time, and a member outlives its instance if that is
deleted first. -/
theorem teardown_fails_behind_deletion :
    let call := Removal.call "balancer" "id" ⟨some "id", [], none⟩
    (∃ fault, ((call .machine).run steadyCloud
        (steadyCloud.after [call .machine] staffedSite)).1 = .failed fault) ∧
      ((steadyCloud.after [call .machine, call .member] staffedSite).roster
        ("balancer", "pool")).members ≠ [] := by
  refine ⟨⟨_, rfl⟩, ?_⟩
  exact List.cons_ne_nil _ _

end Sequence

end VpcMachines
