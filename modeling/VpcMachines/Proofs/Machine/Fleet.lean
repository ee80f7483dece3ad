import Mathlib.Data.List.Nodup
import Mathlib.Data.List.Perm.Subperm
import VpcMachines.Proofs.Listing.Chain
import VpcMachines.Proofs.Machine.Stages

/-!
# Fleets

A fleet is the instances that the cloud holds, with a listing for every name, cut into pages in some
way. A listing holds all instances of its name, and may hold others besides. Requests to create and to
delete an instance may fail and may have taken effect all the same; any other call changes no instance.
Nobody else creates instances.
-/

namespace VpcMachines.Machine

structure Fleet where
  instances : List Instance
  ids_distinct : (instances.map Instance.id).Nodup
  /-- What is listed for a name, in pages. -/
  listing : String → Chain Instance
  listed : ∀ i, i ∈ (listing i.name).items ↔ i ∈ instances

namespace Fleet

/-- One instance more, of the name that was requested and with a fresh ID. -/
def Gains (w : Fleet) (request : Prototype) (i : Instance) (w' : Fleet) : Prop :=
  i.name = request.name ∧ i.id ∉ w.instances.map Instance.id ∧ w'.instances = w.instances ++ [i]

/-- The answers of the cloud, and the fleet afterwards. -/
def Serves : Behaviour Cloud Fleet := fun w c answer w' ↦
  match c, answer with
  | .listInstances (some name) start, .ok page => (w.listing name).page start = some page ∧ w' = w
  | .createInstance request, .ok created => ∃ i, created = some i ∧ w.Gains request i w'
  | .createInstance request, .error _ =>
    w'.instances = w.instances ∨ ∃ i, w.Gains request i w'
  | .deleteInstance id, .ok _ => w'.instances = w.instances.filter fun i ↦ i.id != id
  | .deleteInstance id, .error _ =>
    w'.instances = w.instances ∨ w'.instances = w.instances.filter fun i ↦ i.id != id
  | _, _ => w'.instances = w.instances

/-- The answers of the cloud and of what is at hand. -/
def ServesAll : Behaviour (Cloud.sum Local) Fleet
  | w, .inl c, answer, w' => Serves w c answer w'
  | w, .inr _, _, w' => w'.instances = w.instances

/-- What may happen between operations: anything but that an instance comes in or gets another
name. -/
def Drifts (w w' : Fleet) : Prop :=
  (w'.instances.map Instance.name).Subperm (w.instances.map Instance.name)

/-- No two instances have one name. -/
def NamesDistinct (w : Fleet) : Prop := (w.instances.map Instance.name).Nodup

variable {w w' : Fleet} {name : String}

theorem serves_quiet {c : CloudCall} {answer : Except Fault c.Reply} (h : Serves w c answer w')
    (hc : c.isMutating = false) : w'.instances = w.instances := by
  cases c with
  | listInstances name start =>
    cases name with
    | none => cases answer <;> exact h
    | some name =>
      cases answer with
      | error cause => exact h
      | ok page => rw [h.2]
  | _ => cases answer <;> first | exact h | cases hc

theorem servesAll_quiet {c : (Cloud.sum Local).Call}
    {answer : Except Fault ((Cloud.sum Local).Reply c)} (h : ServesAll w c answer w')
    (hc : isChange c = false) : w'.instances = w.instances := by
  cases c with
  | inl c => exact serves_quiet h hc
  | inr c => exact h

/-- Calls that change nothing leave the instances as they are. -/
theorem path_quiet {t : List (Event (Cloud.sum Local))} (h : ServesAll.Path w t w')
    (ht : ∀ e ∈ t, isChange e.1 = false) : w'.instances = w.instances :=
  h.view_eq fun e he _ _ hab ↦ servesAll_quiet hab (ht e he)

/-- While a listing is fetched, the fleet stays as it is, and the pages are those of the listing. -/
theorem path_listing {t : List (Event Cloud)} (h : ServesAll.Path w (t.map Event.beside) w')
    (ht : ∀ e ∈ t, ∃ start page, e = ⟨.listInstances (some name) start, .ok page⟩) :
    w' = w ∧ ∀ start page, (⟨.listInstances (some name) start, .ok page⟩ : Event Cloud) ∈ t →
      (w.listing name).page start = some page := by
  induction t with
  | nil =>
    cases h
    exact ⟨rfl, by simp⟩
  | cons e t ih =>
    obtain ⟨⟨start, page, rfl⟩, hrest⟩ := List.forall_mem_cons.mp ht
    obtain ⟨between, ⟨hpage, rfl⟩, hpath⟩ := h
    obtain ⟨rfl, hpages⟩ := ih hpath hrest
    refine ⟨rfl, ?_⟩
    intro start' page' hmem
    rcases List.mem_cons.mp hmem with heq | hmem
    · cases heq
      exact hpage
    · exact hpages start' page' hmem

end Fleet

end VpcMachines.Machine
