import Mathlib.Data.List.TakeDrop
import Mathlib.Logic.Function.Iterate
import VpcMachines.Proofs.Pool.Uniqueness
import VpcMachines.Proofs.Teardown

/-!
# Several members at one address

A pool that others change, too, may hold several members at one address, on different ports. Deleting the
member of an instance then takes the first of them out of the pool and leaves the others, so each call
that returns takes out one more (`deletions_take_members_in_order`).
-/

namespace VpcMachines.Pool

open Program

variable {loadBalancer instanceId p a : String} {w w' w'' : Site} {t : List (Event Cloud)} {n : Nat}

/-- So many calls for one instance, one after the other, all of which return. -/
inductive Deletions (loadBalancer instanceId : String) : Nat → Site → Site → Prop where
  | none (w : Site) : Deletions loadBalancer instanceId 0 w w
  | more {n : Nat} {w w' w'' : Site} {t : List (Event Cloud)}
      (run : (deleteMember loadBalancer instanceId).Runs t (.returned ()))
      (path : Site.Serves.Path w t w') (later : Deletions loadBalancer instanceId n w' w'') :
      Deletions loadBalancer instanceId (n + 1) w w''

namespace Roster

variable {r : Roster}

/-- The roster without as many of the first members at an address. -/
def dismissMany (r : Roster) (address : String) (n : Nat) : Roster := (fun r ↦ r.dismiss address)^[n] r

theorem members_dismissMany (n : Nat) :
    (r.dismissMany a n).members = (List.eraseP fun m ↦ m.address == some a)^[n] r.members := by
  have hstep : Function.Semiconj Roster.members (fun r ↦ r.dismiss a)
      (List.eraseP fun m ↦ m.address == some a) := fun _ ↦ rfl
  exact hstep.iterate_right n r

theorem holders_dismissMany (n : Nat) : (r.dismissMany a n).holders a = (r.holders a).drop n := by
  have hstep : Function.Semiconj (fun r : Roster ↦ r.holders a) (fun r ↦ r.dismiss a)
      List.tail := fun _ ↦ holders_dismiss
  rw [← List.tail_iterate]
  exact hstep.iterate_right n r

theorem elsewhere_dismissMany (n : Nat) :
    (r.dismissMany a n).members.filter (elsewhere (some a)) =
      r.members.filter (elsewhere (some a)) := by
  induction n generalizing r with
  | zero => rfl
  | succ n ih =>
    calc
      _ = ((r.dismiss a).dismissMany a n).members.filter (elsewhere (some a)) := rfl
      _ = (r.dismiss a).members.filter (elsewhere (some a)) := ih
      _ = _ := elsewhere_dismiss

end Roster

/-- Calls that return take the first members at the address of the instance out of the pool. -/
theorem Deletions.eq_dismissMany (h : Deletions loadBalancer instanceId n w w')
    (hpool : w.firstPool loadBalancer = some p) (haddress : w.addressOf instanceId = some a) :
    w' = w.withRoster (loadBalancer, p) ((w.roster (loadBalancer, p)).dismissMany a n) := by
  induction h with
  | none => exact Site.withRoster_self.symm
  | @more n w w₁ w₂ t run path later ih =>
    obtain rfl := delete_returned_eq run path hpool haddress
    rw [ih hpool haddress, Site.withRoster_roster_self, Site.withRoster_withRoster]
    rfl

/-- Of the members at the address of the instance, calls that return take out the first ones, one each.
All others are still there in their order, and so is everything but the first pool. -/
theorem deletions_take_members_in_order (h : Deletions loadBalancer instanceId n w w')
    (hpool : w.firstPool loadBalancer = some p) (haddress : w.addressOf instanceId = some a) :
    let old := w.roster (loadBalancer, p)
    let new := w'.roster (loadBalancer, p)
    new.members = (List.eraseP fun m ↦ m.address == some a)^[n] old.members ∧
      new.holders a = (old.holders a).drop n ∧
      (new.holders a = [] ↔ (old.holders a).length ≤ n) ∧
      new.members.filter (elsewhere (some a)) = old.members.filter (elsewhere (some a)) ∧
      w' = w.withRoster (loadBalancer, p) new := by
  intro old new
  have hsite := h.eq_dismissMany hpool haddress
  have hnew : new = old.dismissMany a n := by
    change w'.roster (loadBalancer, p) = _
    rw [hsite, Site.withRoster_roster_self]
  have hholders : new.holders a = (old.holders a).drop n := by
    rw [hnew, Roster.holders_dismissMany]
  refine ⟨?_, hholders, ?_, ?_, ?_⟩
  · rw [hnew, Roster.members_dismissMany]
  · rw [hholders, List.drop_eq_nil_iff]
  · rw [hnew, Roster.elsewhere_dismissMany]
  · rw [hnew, ← hsite]

/-- The site of one instance, with two members at its address and one at another. -/
def crowdedSite : Site :=
  { staffedSite with
    roster _ :=
      { members :=
          [⟨"member-1", some "10.0.0.1", some 6443, none⟩, ⟨"member-2", some "10.0.0.2", some 6443, none⟩,
            ⟨"member-3", some "10.0.0.1", some 8443, none⟩]
        ids_distinct := by simp } }

/-- The second call takes the second member at the address out of the pool. -/
theorem second_deletion_empties_address :
    ∃ w₁ w₂, Deletions "balancer" "id" 1 crowdedSite w₁ ∧ Deletions "balancer" "id" 2 crowdedSite w₂ ∧
      (w₁.roster ("balancer", "pool")).holders "10.0.0.1" =
        [⟨"member-3", some "10.0.0.1", some 8443, none⟩] ∧
      (w₂.roster ("balancer", "pool")).holders "10.0.0.1" = [] := by
  let call := deleteMember "balancer" "id"
  let w₁ := (call.run steadyCloud crowdedSite).2
  let w₂ := (call.run steadyCloud w₁).2
  have hfirst : Site.Serves.Path crowdedSite (call.trace steadyCloud crowdedSite) w₁ :=
    ⟨_, ⟨rfl, rfl⟩, _, ⟨rfl, rfl⟩, _, ⟨rfl, rfl⟩, _, rfl, rfl⟩
  have hsecond : Site.Serves.Path w₁ (call.trace steadyCloud w₁) w₂ :=
    ⟨_, ⟨rfl, rfl⟩, _, ⟨rfl, rfl⟩, _, ⟨rfl, rfl⟩, _, rfl, rfl⟩
  have hrun : call.Runs (call.trace steadyCloud crowdedSite) (.returned ()) :=
    runs_trace steadyCloud call crowdedSite
  have hagain : call.Runs (call.trace steadyCloud w₁) (.returned ()) :=
    runs_trace steadyCloud call w₁
  have hone : Deletions "balancer" "id" 1 crowdedSite w₁ := .more hrun hfirst (.none w₁)
  have htwo : Deletions "balancer" "id" 2 crowdedSite w₂ :=
    .more hrun hfirst (.more hagain hsecond (.none w₂))
  obtain ⟨_, hleft, _⟩ := deletions_take_members_in_order hone rfl rfl
  obtain ⟨_, _, hempty, _⟩ := deletions_take_members_in_order htwo rfl rfl
  exact ⟨w₁, w₂, hone, htwo, hleft, hempty.mpr (Nat.le_refl 2)⟩

/-- A call for an active load balancer that returns may leave a member at the address of the instance. -/
theorem member_left_at_address :
    let call := (deleteMember "balancer" "id").run steadyCloud crowdedSite
    (crowdedSite.balancer "balancer").any LoadBalancer.isActive = true ∧
      crowdedSite.firstPool "balancer" = some "pool" ∧
      crowdedSite.addressOf "id" = some "10.0.0.1" ∧ call.1 = .returned () ∧
      (call.2.roster ("balancer", "pool")).holders "10.0.0.1" ≠ [] :=
  ⟨rfl, rfl, rfl, rfl, List.cons_ne_nil _ _⟩

end VpcMachines.Pool
