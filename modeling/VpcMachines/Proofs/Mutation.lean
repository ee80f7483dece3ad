import VpcMachines.Proofs.Ending
import VpcMachines.Proofs.Machine.Stages
import VpcMachines.Proofs.Pool.Exits

/-!
# One change at most, and at last

Every operation changes the cloud by one call at most, behind which it calls nothing. So where an
operation fails, either nothing was changed, or the change itself is what failed: there is never
anything to take back. Nothing is assumed about the collaborators.
-/

namespace VpcMachines

open Program (runs_trace)

/-- How a failure of a call that changes something is described. -/
def CloudCall.changeText : CloudCall → String
  | createInstance request => s!"creating instance {request.name}"
  | deleteInstance id => s!"deleting instance {id}"
  | createPoolMember _ pool address port => s!"creating member {address}:{port} in pool {pool}"
  | deletePoolMember _ pool member => s!"deleting member {member} from pool {pool}"
  | _ => ""

def Machine.changeText : (Cloud.sum Local).Call → String
  | .inl c => CloudCall.changeText c
  | .inr _ => ""

variable {I : Interface} {α : Type} {changes : I.Call → Bool} {text : I.Call → String}
  {t before behind : List (Event I)}

/-- Among the calls `t` of an operation with the end `o`, at most one changes something. It is the last
call, and unless the operation returns, there is none or the change itself failed. -/
structure SingleFinalChange (changes : I.Call → Bool) (text : I.Call → String)
    (t : List (Event I)) (o : Outcome α) : Prop where
  once : (t.filter fun e ↦ changes e.1).length ≤ 1
  last : ∀ (before : List (Event I)) (e : Event I) (behind : List (Event I)),
    t = before ++ e :: behind → changes e.1 = true → behind = []
  failed : ∀ fault, o = .failed fault → (∀ e ∈ t, changes e.1 = false) ∨
    ∃ (before : List (Event I)) (c : I.Call) (cause : Fault),
      t = before ++ [⟨c, .error cause⟩] ∧ changes c = true ∧ fault = cause.inCall (text c)
  cutOff : o = .exhausted → ∀ e ∈ t, changes e.1 = false

theorem filter_changes_eq_nil (h : ∀ e ∈ t, changes e.1 = false) :
    (t.filter fun e ↦ changes e.1) = [] := by
  rw [List.filter_eq_nil_iff]
  intro e he
  rw [h e he]
  exact Bool.false_ne_true

theorem SingleFinalChange.of_quiet (o : Outcome α) (h : ∀ e ∈ t, changes e.1 = false) :
    SingleFinalChange changes text t o := by
  refine ⟨?_, ?_, fun _ _ ↦ .inl h, fun _ ↦ h⟩
  · rw [filter_changes_eq_nil h]
    exact Nat.zero_le 1
  · intro before e behind ht hchange
    have hquiet : changes e.1 = false := h e (by rw [ht]; simp)
    rw [hquiet] at hchange
    cases hchange

/-- A change behind quiet calls can only stand at the end. -/
theorem eq_nil_of_change {e last : Event I} (h : ∀ e ∈ before, changes e.1 = false)
    {front : List (Event I)} (ht : before ++ [last] = front ++ e :: behind)
    (hchange : changes e.1 = true) : front = before ∧ e = last ∧ behind = [] := by
  have hbefore : ∀ e ∈ before, ¬changes e.1 = true := by
    intro e he hsome
    rw [h e he] at hsome
    cases hsome
  exact eq_last_of_marked hbefore ht hchange

theorem SingleFinalChange.of_last {c : I.Call} (answer : Except Fault (I.Reply c))
    (h : ∀ e ∈ before, changes e.1 = false) (hc : changes c = true) :
    SingleFinalChange changes text (before ++ [⟨c, answer⟩]) (.ofAnswer (text c) answer) := by
  refine ⟨?_, ?_, ?_, ?_⟩
  · rw [List.filter_append, filter_changes_eq_nil h, List.nil_append]
    exact List.length_filter_le _ _
  · intro front e behind ht hchange
    exact (eq_nil_of_change h ht hchange).2.2
  · intro fault ho
    obtain ⟨cause, rfl, rfl⟩ := Outcome.ofAnswer_eq_failed_iff.mp ho
    exact .inr ⟨before, c, cause, rfl, hc, rfl⟩
  · intro ho
    cases answer <;> cases ho

theorem Machine.CreateRun.singleFinalChange {pages : Nat} {spec : MachineSpec}
    {network : Option NetworkStatus} {t : List (Event (Cloud.sum Local))}
    {o : Outcome (Option Instance)} (h : CreateRun pages spec network t o) :
    SingleFinalChange isChange changeText t o := by
  rcases h.quiet_or_requested with hquiet | ⟨before, request, answer, hbefore, _, rfl, rfl⟩
  · exact .of_quiet o hquiet
  · exact .of_last (I := Cloud.sum Local) (c := .inl (.createInstance request)) answer hbefore rfl

theorem Machine.DeleteRun.singleFinalChange {status : MachineStatus} {t : List (Event Cloud)}
    {o : Outcome Unit} (h : DeleteRun status t o) :
    SingleFinalChange CloudCall.isMutating CloudCall.changeText t o := by
  cases h with
  | noInstance => exact .of_quiet _ (by simp)
  | requested hid answer =>
    have hbefore : ∀ e ∈ ([] : List (Event Cloud)), CloudCall.isMutating e.1 = false := by simp
    exact .of_last (I := Cloud) (c := .deleteInstance _) answer hbefore rfl

theorem Pool.EnsureRun.singleFinalChange {loadBalancer address : String} {port : Int}
    {t : List (Event Cloud)} {o : Outcome (Option PoolMember)}
    (h : EnsureRun loadBalancer address port t o) :
    SingleFinalChange CloudCall.isMutating CloudCall.changeText t o := by
  rcases h.quiet_or_created with hquiet | ⟨b, pool, found, answer, _, _, _, rfl, rfl⟩
  · exact .of_quiet o hquiet
  · exact .of_last (I := Cloud) (c := .createPoolMember loadBalancer pool.id address port) answer
      quiet_before_create rfl

theorem Pool.DeleteRun.singleFinalChange {loadBalancer instanceId : String}
    {t : List (Event Cloud)} {o : Outcome Unit} (h : DeleteRun loadBalancer instanceId t o) :
    SingleFinalChange CloudCall.isMutating CloudCall.changeText t o := by
  rcases h.quiet_or_deleted with hquiet | ⟨b, pool, i, found, m, answer, _, _, _, rfl, rfl⟩
  · exact .of_quiet o hquiet
  · exact .of_last (I := Cloud) (c := .deletePoolMember loadBalancer pool.id m.id) answer
      quiet_before_delete rfl

/-- Whatever precedes the request for an instance in a run is all that the request needs. -/
theorem Machine.CreateRun.prepared {pages : Nat} {spec : MachineSpec}
    {network : Option NetworkStatus} {before behind : List (Event (Cloud.sum Local))}
    {o : Outcome (Option Instance)} {request : Prototype} {answer : Except Fault (Option Instance)}
    (h : CreateRun pages spec network
      (before ++ ⟨.inl (.createInstance request), answer⟩ :: behind) o) :
    Prepared pages spec network before request := by
  rcases h.quiet_or_requested with hquiet | ⟨front, request', answer', hfront, hprepared, ht, _⟩
  · have hnot := hquiet ⟨.inl (.createInstance request), answer⟩ (by simp)
    cases hnot
  · obtain ⟨rfl, hlast, _⟩ := eq_nil_of_change hfront ht.symm rfl
    cases hlast
    exact hprepared

/-- No operation ever needs to take anything back, and an instance is only requested when everything
else is at hand. -/
theorem single_final_change {σ τ : Type} (cloud : Handler Cloud σ) (s : σ)
    (all : Handler (Cloud.sum Local) τ) (w : τ) (settings : Settings) (pages : Nat)
    (spec : MachineSpec) (network : Option NetworkStatus) (status : MachineStatus)
    (loadBalancer address instanceId : String) (port : Option Int) :
    let create := Machine.create pages spec network
    let delete := Machine.delete status
    let ensureMember := Pool.ensureMember settings loadBalancer address port
    let deleteMember := Pool.deleteMember loadBalancer instanceId
    SingleFinalChange Machine.isChange Machine.changeText (create.trace all w)
        (create.run all w).1 ∧
      SingleFinalChange CloudCall.isMutating CloudCall.changeText (delete.trace cloud s)
        (delete.run cloud s).1 ∧
      SingleFinalChange CloudCall.isMutating CloudCall.changeText (ensureMember.trace cloud s)
        (ensureMember.run cloud s).1 ∧
      SingleFinalChange CloudCall.isMutating CloudCall.changeText (deleteMember.trace cloud s)
        (deleteMember.run cloud s).1 ∧
      ∀ (before behind : List (Event (Cloud.sum Local))) (request : Prototype)
        (answer : Except Fault (Option Instance)),
        create.trace all w = before ++ ⟨.inl (.createInstance request), answer⟩ :: behind →
        Machine.Prepared pages spec network before request := by
  have hcreate := Machine.createRun_of_runs (runs_trace all (Machine.create pages spec network) w)
  refine ⟨hcreate.singleFinalChange,
    (Machine.deleteRun_of_runs (runs_trace cloud _ s)).singleFinalChange,
    (Pool.ensureRun_of_runs (runs_trace cloud _ s)).singleFinalChange,
    (Pool.deleteRun_of_runs (runs_trace cloud _ s)).singleFinalChange, ?_⟩
  intro before behind request answer ht
  rw [ht] at hcreate
  exact hcreate.prepared

end VpcMachines
