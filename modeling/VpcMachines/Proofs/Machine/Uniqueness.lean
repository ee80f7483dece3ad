import Mathlib.Logic.Relation
import VpcMachines.Proofs.Machine.Fleet

/-!
# One instance per name

Whatever sequence of creations and deletions runs against a fleet, no two instances come to have one
name. This includes operations that are cut off, and requests whose reply is lost although they took
effect. A creation that returns gives the one instance of its name.
-/

namespace VpcMachines.Machine

open Program

variable {pages : Nat} {spec : MachineSpec} {network : Option NetworkStatus}
  {status : MachineStatus} {name : String} {w w' : Fleet}

theorem eq_of_runs_listInstances {start : Option String} {u : List (Event Cloud)}
    {page : Page Instance} (h : (Cloud.listInstances (some name) start).Runs u (.returned page)) :
    u = [⟨.listInstances (some name) start, .ok page⟩] :=
  runs_request_returned_iff.mp h

theorem forall_listed_of_runs {start : Option String} {u : List (Event Cloud)}
    {page : Page Instance} (h : (Cloud.listInstances (some name) start).Runs u (.returned page)) :
    ∀ e ∈ u, ∃ start page, e = ⟨.listInstances (some name) start, .ok page⟩ := by
  rw [eq_of_runs_listInstances h]
  intro e he
  exact ⟨start, page, List.mem_singleton.mp he⟩

/-- A name that is not found in its listing is free. -/
theorem NameFree.absent {t : List (Event Cloud)} (h : NameFree name t)
    (path : Fleet.ServesAll.Path w (t.map Event.beside) w') : ∀ i ∈ w.instances, i.name ≠ name := by
  obtain ⟨items, hcomplete, hnone⟩ := h
  have hcalls := hcomplete.forall_mem fun _ _ _ hu ↦ forall_listed_of_runs hu
  obtain ⟨_, hpages⟩ := Fleet.path_listing path hcalls
  have hitems : items = (w.listing name).items := by
    apply Chain.items_of_complete hcomplete
    intro start u page hu hsub
    rw [eq_of_runs_listInstances hu] at hsub
    exact hpages start page (hsub (List.mem_singleton_self _))
  rintro i hi rfl
  have hlisted : i ∈ items := by
    rw [hitems]
    exact (w.listed i).mpr hi
  exact hnone i hlisted rfl

/-- What is found under a name is an instance of this name. -/
theorem found_mem {t : List (Event Cloud)} {i : Instance}
    (h : (findInstance pages name).Runs t (.returned (some i)))
    (path : Fleet.ServesAll.Path w (t.map Event.beside) w') :
    i.name = name ∧ i ∈ w'.instances := by
  obtain ⟨htest, found, last, trail, page, hpage, hi⟩ :=
    (Walk.findRun_of_runs (runs_mapFault_returned_iff.mp h)).exists_trail
  have hname : i.name = name := eq_of_beq htest
  have hcalls := trail.forall_mem fun _ _ _ hu ↦ forall_listed_of_runs hu
  obtain ⟨rfl, hpages⟩ := Fleet.path_listing path hcalls
  obtain ⟨start, u, hu, hsub⟩ := trail.exists_fetch page hpage
  rw [eq_of_runs_listInstances hu] at hsub
  have hlisted := Chain.mem_items_of_page (hpages start page (hsub (List.mem_singleton_self _))) i hi
  subst hname
  exact ⟨rfl, (w'.listed i).mp hlisted⟩

/-- Creating a machine leaves the instances as they are, or adds one of a name that was free. A run that
is cut off behind any call has this effect too. -/
theorem create_effect {t all : List (Event (Cloud.sum Local))} {o : Outcome (Option Instance)}
    (run : (create pages spec network).Runs all o) (hcut : t <+: all)
    (path : Fleet.ServesAll.Path w t w') :
    w'.instances = w.instances ∨
      ∃ i : Instance, i.name = spec.name ∧ (∀ j ∈ w.instances, j.name ≠ spec.name) ∧
        w'.instances = w.instances ++ [i] := by
  rcases (createRun_of_runs run).quiet_or_requested with
    hquiet | ⟨before, request, answer, hbefore, hprepared, rfl, _⟩
  · exact .inl (Fleet.path_quiet path fun e he ↦ hquiet e (hcut.subset he))
  rcases List.prefix_concat_iff.mp hcut with rfl | hearlier
  -- Nothing has changed up to the request, and the listing has shown that the name is free.
  · obtain ⟨between, hpath, hlast⟩ := Behaviour.path_append.mp path
    have hsame : between.instances = w.instances := Fleet.path_quiet hpath hbefore
    have hcreate : Fleet.Serves between (.createInstance request) answer w' :=
      Behaviour.path_singleton.mp hlast
    obtain ⟨_, listing, bootstrap, references, text, hfree, _, hreferences, rfl⟩ := hprepared
    obtain ⟨_, hlisting, _⟩ := Behaviour.path_append.mp hpath
    have habsent := hfree.absent hlisting
    have hname : request.name = spec.name := by
      obtain ⟨_, _, _, _, _, _, _, _, _, _, _, _, _, rfl⟩ := hreferences
      rfl
    have hgains {i : Instance} (hi : between.Gains request i w') :
        i.name = spec.name ∧ (∀ j ∈ w.instances, j.name ≠ spec.name) ∧
          w'.instances = w.instances ++ [i] := by
      obtain ⟨hrequested, _, hmore⟩ := hi
      rw [hsame] at hmore
      exact ⟨hrequested.trans hname, habsent, hmore⟩
    cases answer with
    | ok created =>
      obtain ⟨i, _, hi⟩ := hcreate
      exact .inr ⟨i, hgains hi⟩
    | error cause =>
      rcases hcreate with hnothing | ⟨i, hi⟩
      · exact .inl (hnothing.trans hsame)
      · exact .inr ⟨i, hgains hi⟩
  · exact .inl (Fleet.path_quiet path fun e he ↦ hbefore e (hearlier.subset he))

theorem create_returned {t : List (Event (Cloud.sum Local))} {found : Option Instance}
    (run : (create pages spec network).Runs t (.returned found))
    (path : Fleet.ServesAll.Path w t w') :
    ∃ i, found = some i ∧ i.name = spec.name ∧ i ∈ w'.instances := by
  have hrun := createRun_of_runs run
  generalize ho : Outcome.returned found = o at hrun
  cases hrun with
  | existing search =>
    cases ho
    exact ⟨_, rfl, found_mem search path⟩
  | requested _ _ _ hreferences answer =>
    cases Outcome.ofAnswer_eq_returned_iff.mp ho.symm
    obtain ⟨between, _, hlast⟩ := Behaviour.path_append.mp path
    obtain ⟨i, hi, hname, _, hmore⟩ := Behaviour.path_singleton.mp hlast
    obtain ⟨_, _, _, _, _, _, _, _, _, _, _, _, _, rfl⟩ := referencesObtained_of_runs hreferences
    refine ⟨i, hi, hname, ?_⟩
    rw [hmore]
    exact List.mem_append_right _ (List.mem_singleton_self i)
  | noProfile => cases ho
  | _ => exact absurd ho.symm (Outcome.aborted_ne_returned _ _)

/-- Deleting a machine adds no instance. -/
theorem delete_effect {t all : List (Event Cloud)} {o : Outcome Unit}
    (run : (delete status).Runs all o) (hcut : t <+: all) (path : Fleet.Serves.Path w t w') :
    w'.instances.Sublist w.instances := by
  cases deleteRun_of_runs run with
  | noInstance =>
    cases List.prefix_nil.mp hcut
    cases path
    exact .refl _
  | requested hid answer =>
    have hend : t <+: [] ++ [_] := hcut
    rcases List.prefix_concat_iff.mp hend with rfl | hnone
    · have hdelete := Behaviour.path_singleton.mp path
      cases answer with
      | ok _ =>
        rw [show w'.instances = _ from hdelete]
        exact List.filter_sublist
      | error cause =>
        rcases hdelete with hsame | hless
        · rw [hsame]
        · rw [hless]
          exact List.filter_sublist
    · cases List.prefix_nil.mp hnone
      cases path
      exact .refl _

/-! ## Runs of any length -/

/-- One step of a fleet: a drift, or an operation, which may be cut off behind any of its calls. -/
inductive Step : Fleet → Fleet → Prop where
  | drift {w w' : Fleet} (h : w.Drifts w') : Step w w'
  | create {w w' : Fleet} {pages : Nat} {spec : MachineSpec} {network : Option NetworkStatus}
      {t all : List (Event (Cloud.sum Local))} {o : Outcome (Option Instance)}
      (run : (create pages spec network).Runs all o) (hcut : t <+: all)
      (path : Fleet.ServesAll.Path w t w') : Step w w'
  | delete {w w' : Fleet} {status : MachineStatus} {t all : List (Event Cloud)} {o : Outcome Unit}
      (run : (delete status).Runs all o) (hcut : t <+: all) (path : Fleet.Serves.Path w t w') :
      Step w w'

abbrev Reaches : Fleet → Fleet → Prop := Relation.ReflTransGen Step

theorem Step.namesDistinct (hw : w.NamesDistinct) (h : Step w w') : w'.NamesDistinct := by
  cases h with
  | drift h =>
    obtain ⟨names, hperm, hsub⟩ := h
    exact hperm.nodup_iff.mp (hsub.nodup hw)
  | create run hcut path =>
    rcases create_effect run hcut path with hsame | ⟨i, hname, hfree, hmore⟩
    · rw [Fleet.NamesDistinct, hsame]
      exact hw
    · rw [Fleet.NamesDistinct, hmore, List.map_append, List.map_singleton, List.nodup_append]
      refine ⟨hw, List.nodup_singleton _, ?_⟩
      intro taken htaken other hother
      obtain ⟨j, hj, rfl⟩ := List.mem_map.mp htaken
      rw [List.mem_singleton.mp hother, hname]
      exact hfree j hj
  | delete run hcut path =>
    have hless := delete_effect run hcut path
    exact (hless.map _).nodup hw

theorem Reaches.namesDistinct (hw : w.NamesDistinct) (h : Reaches w w') : w'.NamesDistinct := by
  induction h with
  | refl => exact hw
  | tail _ step ih => exact step.namesDistinct ih

/-- From a fleet in which names are distinct, every fleet that is reached has at most one instance per
name. Wherever a creation goes on from there, if it returns, it gives the instance of its name. -/
theorem one_instance_per_name {start : Fleet} (hstart : start.NamesDistinct)
    (h : Reaches start w) :
    w.NamesDistinct ∧
    ∀ (pages : Nat) (spec : MachineSpec) (network : Option NetworkStatus)
      (t : List (Event (Cloud.sum Local))) (found : Option Instance) (w' : Fleet),
      (create pages spec network).Runs t (.returned found) → Fleet.ServesAll.Path w t w' →
      ∃ i, found = some i ∧ i.name = spec.name ∧ i ∈ w'.instances ∧
        ∀ j ∈ w'.instances, j.name = spec.name → j = i := by
  have hw : w.NamesDistinct := Reaches.namesDistinct hstart h
  refine ⟨hw, ?_⟩
  intro pages spec network t found w' run path
  obtain ⟨i, hfound, hname, hi⟩ := create_returned run path
  refine ⟨i, hfound, hname, hi, ?_⟩
  intro j hj hsame
  have hstep : Step w w' := .create run (List.prefix_refl t) path
  exact List.inj_on_of_nodup_map (hstep.namesDistinct hw) hj hi (hsame.trans hname.symm)

/-- A fleet without instances. -/
def emptyFleet : Fleet where
  instances := []
  ids_distinct := List.nodup_nil
  listing _ := .single []
  listed _ := by simp

/-- A fleet of one instance, which every listing holds. -/
def startedFleet : Fleet where
  instances := [⟨"id", "machine", none, none, none, none⟩]
  ids_distinct := List.nodup_singleton _
  listing _ := .single [⟨"id", "machine", none, none, none, none⟩]
  listed _ := by simp

/-- The reply to the first request is lost. The second creation finds the instance. -/
theorem one_instance_after_lost_reply :
    emptyFleet.NamesDistinct ∧ Reaches emptyFleet startedFleet ∧
      ∃ i ∈ startedFleet.instances, i.name = "machine" ∧
        ∀ j ∈ startedFleet.instances, j.name = "machine" → j = i := by
  let spec : MachineSpec :=
    { name := "machine", profile := "small", image := some ⟨some "image", none⟩, sshKeys := [],
      network := ⟨⟨some "subnet", none⟩, []⟩, zone := none, secretNamespace := "default",
      bootstrapSecret := some "bootstrap" }
  let request : Prototype :=
    ⟨"machine", "small", "image", [], some "subnet", [], none, none, none, some "text"⟩
  let i : Instance := ⟨"id", "machine", none, none, none, none⟩
  have hlost : (create 2 spec none).Runs
      [⟨.inl (.listInstances (some "machine") none), .ok ⟨[], none⟩⟩,
        ⟨.inr (.secret "default" "bootstrap"), .ok [("value", .text "text")]⟩,
        ⟨.inr .dataKey, .ok "value"⟩,
        ⟨.inl (.createInstance request), .error .noToken⟩] _ :=
    .call _ (.call _ (.call _ (.call _ (.fail _))))
  have hgains : Fleet.Gains emptyFleet request i startedFleet := ⟨rfl, List.not_mem_nil, rfl⟩
  have hstep : Step emptyFleet startedFleet :=
    .create hlost (List.prefix_refl _)
      ⟨_, ⟨rfl, rfl⟩, _, rfl, _, rfl, startedFleet, .inr ⟨i, hgains⟩, rfl⟩
  have hstart : emptyFleet.NamesDistinct := List.nodup_nil
  have hreaches : Reaches emptyFleet startedFleet := .single hstep
  have hagain : (create 2 spec none).Runs
      [⟨.inl (.listInstances (some "machine") none), .ok ⟨[i], none⟩⟩] (.returned (some i)) :=
    .call _ (.done _)
  have hpath : Fleet.ServesAll.Path startedFleet
      [⟨.inl (.listInstances (some "machine") none), .ok ⟨[i], none⟩⟩] startedFleet :=
    ⟨_, ⟨rfl, rfl⟩, rfl⟩
  obtain ⟨j, _, hname, hj, hunique⟩ :=
    (one_instance_per_name hstart hreaches).2 _ _ _ _ _ _ hagain hpath
  exact ⟨hstart, hreaches, j, hj, hname, hunique⟩

end VpcMachines.Machine
