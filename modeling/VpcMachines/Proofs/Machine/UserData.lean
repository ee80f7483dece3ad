import VpcMachines.Proofs.Ending
import VpcMachines.Proofs.Machine.Bootstrap
import VpcMachines.Proofs.Secret.Delivery

/-!
# The text that an instance starts with

Where the store keeps a text under the key of bootstrap texts, reading the bootstrap data gives this text
and nothing else, and it is what a request for an instance carries.
-/

namespace VpcMachines

open Program

/-- What is at hand is a store of secrets, with the key under which it keeps bootstrap texts. What else
is asked is left open. -/
def SecretStore.Tells {I : Interface} (store : SecretStore) (dataKey : String) :
    Event (I.sum Local) → Prop
  | ⟨.inr (.secret space name), answer⟩ => answer = store.get space name
  | ⟨.inr .dataKey, answer⟩ => answer = .ok dataKey
  | _ => True

namespace Machine

variable {spec : MachineSpec} {network : Option NetworkStatus} {pages : Nat} {store : SecretStore}
  {name dataKey text : String} {t : List (Event (Cloud.sum Local))}

/-- What is read and under which key, where a store is asked that keeps a text. -/
theorem kept_of_told {key : String} {secret : Secret}
    (hkept : store.Keeps spec.secretNamespace name dataKey text)
    (htold : ∀ e ∈ ([⟨.inr (.secret spec.secretNamespace name), .ok secret⟩, ⟨.inr .dataKey, .ok key⟩] :
      List (Event (Cloud.sum Local))), store.Tells dataKey e) :
    ∃ value, secret.value? key = some value ∧ value.asText = .ok text := by
  obtain ⟨kept, hget, hvalue⟩ := hkept.value_eq
  have hsecret : .ok secret = store.get spec.secretNamespace name := htold _ List.mem_cons_self
  have hkey : Except.ok key = .ok dataKey :=
    htold _ (List.mem_cons_of_mem _ (List.mem_singleton_self _))
  cases hsecret.trans hget
  cases hkey
  exact hvalue

/-- What is obtained for the bootstrap data is the text that is kept. -/
theorem BootstrapObtained.text_eq {found : String} (h : BootstrapObtained spec t found)
    (hname : filled spec.bootstrapSecret = some name)
    (hkept : store.Keeps spec.secretNamespace name dataKey text)
    (htold : ∀ e ∈ t, store.Tells dataKey e) : found = text := by
  obtain ⟨other, secret, key, value, hother, hvalue, hfound, rfl⟩ := h
  obtain rfl : name = other := Option.some.inj (hname.symm.trans hother)
  obtain ⟨kept, hkeptValue, htext⟩ := kept_of_told hkept htold
  cases hkeptValue.symm.trans hvalue
  exact Except.ok.inj (hfound.symm.trans htext)

theorem not_lacking_of_told {fault : Fault} (hname : filled spec.bootstrapSecret = some name)
    (hkept : store.Keeps spec.secretNamespace name dataKey text)
    (htold : ∀ e ∈ t, store.Tells dataKey e) : ¬BootstrapLacking spec t fault := by
  intro hlacking
  cases hlacking with
  | unnamed hnone => cases hnone.symm.trans hname
  | unreadable hother cause =>
    obtain rfl := Option.some.inj (hother.symm.trans hname)
    obtain ⟨kept, hget, _⟩ := hkept.value_eq
    have hcause : .error cause = store.get spec.secretNamespace _ :=
      htold _ (List.mem_singleton_self _)
    cases hcause.trans hget
  | missing hother hvalue =>
    obtain rfl := Option.some.inj (hother.symm.trans hname)
    obtain ⟨kept, hkeptValue, _⟩ := kept_of_told hkept htold
    cases hkeptValue.symm.trans hvalue

theorem not_unguarded_of_told {fault : Fault} (hname : filled spec.bootstrapSecret = some name)
    (hkept : store.Keeps spec.secretNamespace name dataKey text)
    (htold : ∀ e ∈ t, store.Tells dataKey e) : ¬BootstrapUnguarded spec t fault := by
  intro hunguarded
  cases hunguarded with
  | keyless hother =>
    have hcause : Except.error fault = .ok dataKey :=
      htold _ (List.mem_cons_of_mem _ (List.mem_singleton_self _))
    cases hcause
  | undecodable hother hvalue hbytes =>
    obtain rfl := Option.some.inj (hother.symm.trans hname)
    obtain ⟨kept, hkeptValue, htext⟩ := kept_of_told hkept htold
    cases hkeptValue.symm.trans hvalue
    cases (asText_eq_error_iff.mpr ⟨_, rfl, hbytes⟩).symm.trans htext

/-- Reading the bootstrap data cannot fail, and gives the text that is kept. -/
theorem bootstrapData_returns {o : Outcome String} (hname : filled spec.bootstrapSecret = some name)
    (hkept : store.Keeps spec.secretNamespace name dataKey text)
    (h : (bootstrapData spec).Runs t o) (htold : ∀ e ∈ t, store.Tells dataKey e) :
    o = .returned text := by
  have hfails (abort : Option Fault) : ¬(bootstrapData spec).Runs t (.aborted abort) := by
    intro hrun
    obtain ⟨fault, _, hlacking | hunguarded⟩ := lacking_or_unguarded_of_runs hrun
    · exact not_lacking_of_told hname hkept htold hlacking
    · exact not_unguarded_of_told hname hkept htold hunguarded
  cases o with
  | returned found => rw [(bootstrapObtained_of_runs h).text_eq hname hkept htold]
  | failed fault => exact absurd h (hfails (some fault))
  | exhausted => exact absurd h (hfails none)

theorem ReferencesObtained.userData_eq {references : List (Event Cloud)} {request : Prototype}
    (h : ReferencesObtained pages spec network references text request) :
    request.userData = some text := by
  obtain ⟨_, _, _, _, _, _, _, _, _, _, _, _, _, rfl⟩ := h
  rfl

/-- A call that changes something is a request for an instance that starts with the text. -/
theorem userData_of_change {before behind : List (Event (Cloud.sum Local))}
    {call : (Cloud.sum Local).Call} {answer : Except Fault ((Cloud.sum Local).Reply call)}
    {o : Outcome (Option Instance)} (hname : filled spec.bootstrapSecret = some name)
    (hkept : store.Keeps spec.secretNamespace name dataKey text)
    (h : (create pages spec network).Runs (before ++ ⟨call, answer⟩ :: behind) o)
    (htold : ∀ e ∈ before, store.Tells dataKey e) (hchange : isChange call = true) :
    ∃ request, call = .inl (.createInstance request) ∧ request.userData = some text := by
  let change : Event (Cloud.sum Local) → Prop := fun e ↦ isChange e.1 = true
  rcases (createRun_of_runs h).quiet_or_requested with
    hquiet | ⟨front, request, given, hquiet, hprepared, ht, _⟩
  · have hcall : isChange call = false := hquiet ⟨call, answer⟩ (by simp)
    rw [hcall] at hchange
    cases hchange
  · have hfront : ∀ e ∈ front, ¬change e := fun e he ↦ Bool.not_eq_true _ ▸ hquiet e he
    obtain ⟨rfl, hlast, _⟩ := eq_last_of_marked hfront ht.symm hchange
    cases hlast
    obtain ⟨_, listing, bootstrap, references, found, _, hobtained, hreferences, rfl⟩ := hprepared
    have hbootstrap : ∀ e ∈ bootstrap, store.Tells dataKey e := fun e he ↦
      htold e (List.mem_append_right _ (List.mem_append_left _ he))
    refine ⟨request, rfl, ?_⟩
    rw [hreferences.userData_eq, hobtained.text_eq hname hkept hbootstrap]

end Machine

end VpcMachines
