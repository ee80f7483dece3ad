import VpcMachines.Proofs.Pool.Answers
import VpcMachines.Proofs.Settings.Validity

/-!
# The port of a member

Settings and members have the same bounds for a port. So a port that is left out is always one, and
ensuring a member rejects only a port that it was asked for, before it calls anything. All other faults
are those of the family as long as the answers can be read, which those of the declared types can. This is
shown for answers of any type. The usual ones have one that cannot be read, none instead of the load
balancer; with it the operation ends with a fault outside of both.
-/

namespace VpcMachines

/-- The family has no fault that counts as one of a value. -/
theorem Category.isValue_of_isOwn {c : Category} (h : c.isOwn = true) : c.isValue = false := by
  cases c <;> first | rfl | cases h

namespace Pool

open Program Schema

variable {A : Answers} {loadBalancer address : String} {port : Int} {settings : Settings}
  {t : List (Event A.cloud)} {o : Outcome A.Member}

theorem isPort_eq_true_iff : isPort port = true ↔ 1 ≤ port ∧ port ≤ 65535 := by
  simp [isPort]

theorem isPort_eq_false_iff : isPort port = false ↔ ¬(1 ≤ port ∧ port ≤ 65535) := by
  rw [← isPort_eq_true_iff, Bool.not_eq_true]

/-- A port is valid in the settings, in whatever spelling, exactly if a member may have it. -/
theorem check_port_iff {d : Datum} (h : integer d = .accepted port) :
    (∃ settings, Settings.check (.record [("api_server_port", d)]) = .accepted settings) ↔
      isPort port = true := by
  have hlookup : ([("api_server_port", d)] : List (String × Datum)).lookup "api_server_port" = some d :=
    List.lookup_cons_self
  have hother {name : String} (hname : name ≠ "api_server_port") :
      ([("api_server_port", d)] : List (String × Datum)).lookup name = none := by
    rw [List.lookup_cons, beq_eq_false_iff_ne.mpr hname, List.lookup_nil]
  rw [isPort_eq_true_iff]
  constructor
  · rintro ⟨settings, hcheck⟩
    obtain ⟨_, ⟨⟩, hreads⟩ := Settings.check_eq_accepted_iff.mp hcheck
    rcases hreads.apiServerPort with ⟨hnone, _⟩ | ⟨_, hgiven, haccepted⟩
    · cases hnone.symm.trans hlookup
    · cases hgiven.symm.trans hlookup
      obtain ⟨hinteger, hbounds⟩ := integerBetween_eq_accepted_iff.mp haccepted
      cases hinteger.symm.trans h
      exact hbounds
  · intro hbounds
    refine ⟨{ Settings.default with apiServerPort := port }, ?_⟩
    apply Settings.check_eq_accepted_iff.mpr
    refine ⟨_, rfl, ?_, ?_, ?_, ?_, ?_⟩
    · exact .inl ⟨hother (by decide), rfl⟩
    · exact .inr ⟨d, hlookup, integerBetween_eq_accepted_iff.mpr ⟨h, hbounds⟩⟩
    · exact .inl ⟨hother (by decide), rfl⟩
    · exact .inl ⟨hother (by decide), rfl⟩
    · exact .inl ⟨hother (by decide), rfl⟩

/-- How ensuring a member at an address, which makes the calls `t` and ends with `o`, treats the port that
it is asked for, where `usual` is the port of the settings and the answers are those of `A`. -/
structure KeepsPort (A : Answers) (address : String) (usual : Int) (port : Option Int)
    (t : List (Event A.cloud)) (o : Outcome A.Member) : Prop where
  /-- A member is created with the port that was asked for, or else with the usual one. -/
  created : ∀ (b pool a : String) (n : Int) (answer : Except Fault A.Member),
    (⟨.createPoolMember b pool a n, answer⟩ : Event A.cloud) ∈ t → n = port.getD usual
  /-- A port that was asked for and is none is rejected before anything is called. -/
  uncalled : ∀ n, port = some n → ¬(1 ≤ n ∧ n ≤ 65535) →
    t = [] ∧ o = .failed (.portOutOfRange n)
  /-- All faults but this are of the family, or they come from reading the last answer. -/
  failed : ∀ fault, o = .failed fault →
    (∃ n, port = some n ∧ ¬(1 ≤ n ∧ n ≤ 65535)) ∨ fault.isOwn = true ∨ A.EndsMisread address t fault
  /-- If the answers can be read, a fault of a value comes exactly from a port that was asked for and is
  none. -/
  rejected : (∀ fault, ¬A.EndsMisread address t fault) →
    ((∃ fault, o = .failed fault ∧ fault.category.isValue = true) ↔
      ∃ n, port = some n ∧ ¬(1 ≤ n ∧ n ≤ 65535))

/-- What is no port is rejected before anything is called. -/
theorem runs_ensureMemberIn_of_not_port {port : Option Int}
    (hport : isPort (port.getD settings.apiServerPort) = false)
    (h : (ensureMemberIn A settings loadBalancer address port).Runs t o) :
    t = [] ∧ o = .failed (.portOutOfRange (port.getD settings.apiServerPort)) := by
  unfold ensureMemberIn at h
  simp only [hport, Bool.not_false, if_true] at h
  exact runs_fail_iff.mp h

theorem keepsPort_of_runs {port : Option Int}
    (husual : 1 ≤ settings.apiServerPort ∧ settings.apiServerPort ≤ 65535)
    (h : (ensureMemberIn A settings loadBalancer address port).Runs t o) :
    KeepsPort A address settings.apiServerPort port t o := by
  have hrun := ensureRunIn_of_runs h
  have huncalled (n : Int) (hgiven : port = some n) (hn : ¬(1 ≤ n ∧ n ≤ 65535)) :
      t = [] ∧ o = .failed (.portOutOfRange n) := by
    subst hgiven
    have hport : isPort ((some n).getD settings.apiServerPort) = false := isPort_eq_false_iff.mpr hn
    exact runs_ensureMemberIn_of_not_port hport h
  have hfailed (fault : Fault) (ho : o = .failed fault) :
      (∃ n, port = some n ∧ ¬(1 ≤ n ∧ n ≤ 65535)) ∨ fault.isOwn = true ∨ A.EndsMisread address t fault := by
    rcases hrun.failed_cases ho with ⟨hport, _⟩ | hother
    · cases port with
      | none => exact absurd husual (isPort_eq_false_iff.mp hport)
      | some n => exact .inl ⟨n, rfl, isPort_eq_false_iff.mp hport⟩
    · exact .inr hother
  constructor
  case created =>
    intro b pool a n answer hmem
    exact hrun.port_of_created hmem
  case uncalled => exact huncalled
  case failed => exact hfailed
  case rejected =>
    intro hread
    constructor
    · rintro ⟨fault, ho, hvalue⟩
      rcases hfailed fault ho with hport | hown | hmisread
      · exact hport
      · cases hvalue.symm.trans (Category.isValue_of_isOwn hown)
      · exact absurd hmisread (hread fault)
    · rintro ⟨n, hgiven, hn⟩
      exact ⟨_, (huncalled n hgiven hn).2, rfl⟩

/-- Accepted settings have a port, and settings and members agree on what one is. Whatever is answered, of
whatever type, a member is asked for with the port that was given or else with that of the settings; what
is no port is a fault of a value that nothing was called for, and all other faults are of the family, even
where the cloud reports one of a value, or come from an answer that cannot be read. -/
theorem port_rule_kept {d : Datum} {settings : Settings}
    (hsettings : Settings.check d = .accepted settings) (loadBalancer address : String) :
    (1 ≤ settings.apiServerPort ∧ settings.apiServerPort ≤ 65535) ∧
      (∀ (A : Answers) (σ : Type) (cloud : Handler A.cloud σ) (s : σ) (port : Option Int),
        let ensure := ensureMemberIn A settings loadBalancer address port
        KeepsPort A address settings.apiServerPort port (ensure.trace cloud s) (ensure.run cloud s).1) ∧
      (∀ (σ : Type) (cloud : Handler Cloud σ) (s : σ) (port : Option Int),
        let ensure := ensureMember settings loadBalancer address port
        let t := ensure.trace cloud s
        KeepsPort .usual address settings.apiServerPort port t (ensure.run cloud s).1 ∧
          ∀ fault, (ensure.run cloud s).1 = .failed fault → Answers.usual.EndsMisread address t fault →
            t = [⟨.getLoadBalancer loadBalancer, .ok none⟩] ∧
              fault = .misshapen (.noMember "NoneType" "target_pool")) ∧
      ∀ (spelling : Datum) (port : Int), integer spelling = .accepted port →
        ((∃ given, Settings.check (.record [("api_server_port", spelling)]) = .accepted given) ↔
          isPort port = true) := by
  have hbounds : 1 ≤ settings.apiServerPort ∧ settings.apiServerPort ≤ 65535 :=
    Settings.port_bounds_of_check hsettings
  refine ⟨hbounds, ?_, ?_, ?_⟩
  · intro A σ cloud s port ensure
    exact keepsPort_of_runs hbounds (runs_trace cloud ensure s)
  · intro σ cloud s port ensure t
    have hrun : (ensureMemberIn .usual settings loadBalancer address port).Runs t
        (ensure.run cloud s).1 := by
      rw [ensureMemberIn_usual]
      exact runs_trace cloud ensure s
    refine ⟨keepsPort_of_runs hbounds hrun, fun fault ho hmisread ↦ ?_⟩
    rw [ho] at hrun
    exact (ensureRunIn_of_runs hrun).eq_of_endsMisread hmisread
  · intro spelling port hspelling
    exact check_port_iff hspelling

/-- A port that is spelled with a sign, an underscore and a fraction is taken. Then a fault of a value that
the cloud reports is one of a call, and an answer that has no pools at all is a fault of its own. -/
theorem port_rule_kept_by_spelled_port :
    let settings : Settings := { Settings.default with apiServerPort := 80 }
    let noPools : Fault := .misshapen (.noMember "dict" "target_pool")
    let dicts : Answers := { Answers.usual with
      Balancer := Unit
      targetPool := fun _ ↦ .error noPools
      isActive := fun _ ↦ .error (.misshapen (.noMember "dict" "is_active"))
      status := fun _ ↦ .error (.misshapen (.noMember "dict" "provisioning_status")) }
    let busy : Handler Cloud Unit := ⟨fun _ s ↦ (.error (.reported .value "busy"), s)⟩
    let loose : Handler dicts.cloud Unit :=
      ⟨fun
        | .getLoadBalancer _, s => (.ok (), s)
        | _, s => (.error (.reported .value "busy"), s)⟩
    let ensure := ensureMember settings "balancer" "10.0.0.1" none
    let ensureLoose := ensureMemberIn dicts settings "balancer" "10.0.0.1" none
    Settings.check (.record [("api_server_port", .text "+0_80.00")]) = .accepted settings ∧
      (ensure.run busy ()).1 =
        .failed (.callFailed "fetching load balancer balancer" (.reported .value "busy")) ∧
      (ensureLoose.run loose ()).1 = .failed noPools ∧
      KeepsPort .usual "10.0.0.1" 80 none (ensure.trace busy ()) (ensure.run busy ()).1 ∧
      KeepsPort dicts "10.0.0.1" 80 none (ensureLoose.trace loose ()) (ensureLoose.run loose ()).1 := by
  intro settings noPools dicts busy loose ensure ensureLoose
  have hsettings :
      Settings.check (.record [("api_server_port", .text "+0_80.00")]) = .accepted settings := by
    rfl
  obtain ⟨_, hkept, husual, _⟩ := port_rule_kept hsettings "balancer" "10.0.0.1"
  exact ⟨hsettings, rfl, rfl, (husual Unit busy () none).1, hkept dicts Unit loose () none⟩

/-- Without the record of the load balancer, the fault is neither of the family nor one of a value. -/
theorem unrecorded_balancer_outside_family :
    let forgetful : Handler Cloud Unit :=
      ⟨fun
        | .getLoadBalancer _, s => (.ok none, s)
        | _, s => (.error (.reported .value "busy"), s)⟩
    let ensure := ensureMember .default "balancer" "10.0.0.1" none
    Settings.check (.record []) = .accepted .default ∧
      ∃ fault, (ensure.run forgetful ()).1 = .failed fault ∧ fault.isOwn = false ∧
        fault.category.isValue = false := by
  intro forgetful ensure
  exact ⟨rfl, .misshapen (.noMember "NoneType" "target_pool"), rfl, rfl, rfl⟩

end Pool

end VpcMachines
