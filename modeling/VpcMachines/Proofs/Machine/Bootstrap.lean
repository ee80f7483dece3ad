import VpcMachines.Proofs.Machine.Stages
import VpcMachines.Proofs.Text.Utf8

/-!
# How reading the bootstrap text fails

The secret may have no name, it may not be readable, or nothing may stand under the data key: then the
text is lacking, and the fault says so. Nothing guards the question for the data key and the decoding of
the bytes under it, whose faults come through as they are. There are no other ways.
-/

namespace VpcMachines.Machine

open Program Text

variable {spec : MachineSpec} {fault : Fault} {t : List (Event (Cloud.sum Local))}

/-- There is no bootstrap text, and the fault says so. -/
inductive BootstrapLacking (spec : MachineSpec) :
    List (Event (Cloud.sum Local)) → Fault → Prop where
  | unnamed (hname : filled spec.bootstrapSecret = none) :
      BootstrapLacking spec [] (.noBootstrapSecret spec.name)
  | unreadable {name : String} (hname : filled spec.bootstrapSecret = some name) (cause : Fault) :
      BootstrapLacking spec [⟨.inr (.secret spec.secretNamespace name), .error cause⟩]
        (.bootstrapUnreadable spec.secretNamespace name cause)
  | missing {name key : String} {secret : Secret}
      (hname : filled spec.bootstrapSecret = some name) (hvalue : secret.value? key = none) :
      BootstrapLacking spec
        [⟨.inr (.secret spec.secretNamespace name), .ok secret⟩, ⟨.inr .dataKey, .ok key⟩]
        (.noBootstrapData spec.secretNamespace name key)

/-- A step towards the bootstrap text failed, and its fault comes through as it is. -/
inductive BootstrapUnguarded (spec : MachineSpec) :
    List (Event (Cloud.sum Local)) → Fault → Prop where
  | keyless {name : String} {secret : Secret} (hname : filled spec.bootstrapSecret = some name)
      (cause : Fault) :
      BootstrapUnguarded spec
        [⟨.inr (.secret spec.secretNamespace name), .ok secret⟩, ⟨.inr .dataKey, .error cause⟩]
        cause
  | undecodable {name key : String} {secret : Secret} {b : List UInt8} {failure : Utf8.Fault}
      (hname : filled spec.bootstrapSecret = some name)
      (hvalue : secret.value? key = some (.bytes b)) (hbytes : Utf8.decode b = .error failure) :
      BootstrapUnguarded spec
        [⟨.inr (.secret spec.secretNamespace name), .ok secret⟩, ⟨.inr .dataKey, .ok key⟩]
        (.undecodable failure)

theorem BootstrapLacking.category (h : BootstrapLacking spec t fault) :
    fault.category = .bootstrap := by
  cases h <;> rfl

/-- Only bytes can fail to be text. -/
theorem asText_eq_error_iff {value : SecretValue} {failure : Utf8.Fault} :
    value.asText = .error failure ↔ ∃ b, value = .bytes b ∧ Utf8.decode b = .error failure := by
  cases value <;> simp [SecretValue.asText]

theorem runs_bootstrapData_of_unguarded (h : BootstrapUnguarded spec t fault) :
    (bootstrapData spec).Runs t (.failed fault) := by
  cases h with
  | keyless hname cause =>
    simp only [bootstrapData, hname]
    exact .call _ (.call _ (.fail _))
  | undecodable hname hvalue hbytes =>
    have htext := asText_eq_error_iff.mpr ⟨_, rfl, hbytes⟩
    simp only [bootstrapData, hname]
    refine .call _ (.call _ ?_)
    simp only [Program.ofExcept, Program.bind, hvalue, htext]
    exact .fail _

theorem runs_bootstrapData_of_lacking (h : BootstrapLacking spec t fault) :
    (bootstrapData spec).Runs t (.failed fault) := by
  cases h with
  | unnamed hname =>
    simp only [bootstrapData, hname]
    exact .fail _
  | unreadable hname cause =>
    simp only [bootstrapData, hname]
    exact .call _ (.fail _)
  | missing hname hvalue =>
    simp only [bootstrapData, hname]
    refine .call _ (.call _ ?_)
    simp only [Program.ofExcept, Program.bind, hvalue]
    exact .fail _

/-- Reading the bootstrap text that ends without one ends in one of the ways listed. -/
theorem lacking_or_unguarded_of_runs {abort : Option Fault}
    (h : (bootstrapData spec).Runs t (.aborted abort)) :
    ∃ fault, abort = some fault ∧
      (BootstrapLacking spec t fault ∨ BootstrapUnguarded spec t fault) := by
  unfold bootstrapData at h
  cases hname : filled spec.bootstrapSecret with
  | none =>
    simp only [hname] at h
    obtain ⟨rfl, ho⟩ := runs_fail_iff.mp h
    cases abort <;> cases ho
    exact ⟨_, rfl, .inl (.unnamed hname)⟩
  | some name =>
    simp only [hname] at h
    rcases runs_bind_aborted_iff.mp h with ⟨t₁, secret, t₂, rfl, hsecret, hrest⟩ | hsecret
    · cases runs_request_returned_iff.mp (runs_mapFault_returned_iff.mp hsecret)
      rcases runs_bind_aborted_iff.mp hrest with ⟨t₃, key, t₄, rfl, hkey, hread⟩ | hkey
      · cases runs_request_returned_iff.mp hkey
        cases hvalue : secret.value? key with
        | none =>
          simp only [hvalue] at hread
          obtain ⟨rfl, ho⟩ := runs_fail_iff.mp hread
          cases abort <;> cases ho
          exact ⟨_, rfl, .inl (.missing hname hvalue)⟩
        | some value =>
          cases htext : value.asText with
          | ok text =>
            simp only [hvalue, htext] at hread
            exact absurd (runs_done_iff.mp hread).2 (Outcome.aborted_ne_returned _ _)
          | error failure =>
            obtain ⟨b, rfl, hbytes⟩ := asText_eq_error_iff.mp htext
            simp only [hvalue, htext] at hread
            obtain ⟨rfl, ho⟩ := runs_fail_iff.mp hread
            cases abort <;> cases ho
            exact ⟨_, rfl, .inr (.undecodable hname hvalue hbytes)⟩
      · obtain ⟨cause, rfl, rfl⟩ := runs_request_aborted_iff.mp hkey
        exact ⟨cause, rfl, .inr (.keyless hname cause)⟩
    · obtain ⟨_, rfl, hrequest⟩ := runs_mapFault_aborted_iff.mp hsecret
      obtain ⟨cause, rfl, rfl⟩ := runs_request_aborted_iff.mp hrequest
      exact ⟨_, rfl, .inl (.unreadable hname cause)⟩

end VpcMachines.Machine
