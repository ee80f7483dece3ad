import VpcMachines.Listing.Walk
import VpcMachines.Proofs.Trace

/-!
# Searches through a listing

The pages that a walk takes form a trail. A search follows a trail on which nothing passes its test, and
ends on the first page where something does, at the end of the listing, or where the next page cannot be
had. A search that finds nothing has been through the whole listing (`FindRun.complete`).
-/

namespace VpcMachines.Walk

open Program

variable {I : Interface} {α : Type} {fetch : Fetch I α} {test : α → Bool}

/-- Pages taken from a walk one after the other, the calls that this took, and the walk behind them. -/
inductive Trail (fetch : Fetch I α) : Walk → List (Event I) → List (Page α) → Walk → Prop where
  | nil (walk : Walk) : Trail fetch walk [] [] walk
  | cons {walk behind last : Walk} {t rest : List (Event I)} {page : Page α}
      {pages : List (Page α)} (first : (walk.next fetch).Runs t (.returned (some page, behind)))
      (others : Trail fetch behind rest pages last) :
      Trail fetch walk (t ++ rest) (page :: pages) last

/-- The calls that fetch all pages from a cursor on, each by the cursor of the page before and the last
one without a further cursor, and the items of these pages. -/
inductive Complete (fetch : Fetch I α) : Option String → List (Event I) → List α → Prop where
  | last {cursor : Option String} {t : List (Event I)} {page : Page α}
      (fetched : (fetch cursor).Runs t (.returned page)) (hnext : filled page.next = none) :
      Complete fetch cursor t page.items
  | more {cursor : Option String} {next : String} {t rest : List (Event I)} {page : Page α}
      {items : List α} (fetched : (fetch cursor).Runs t (.returned page))
      (hnext : filled page.next = some next) (others : Complete fetch (some next) rest items) :
      Complete fetch cursor (t ++ rest) (page.items ++ items)

/-- The runs of a search from where a walk stands. -/
inductive FindRun (fetch : Fetch I α) (test : α → Bool) (walk : Walk) :
    List (Event I) → Outcome (Option α) → Prop where
  | found {t : List (Event I)} {pages : List (Page α)} {page : Page α} {last : Walk} {item : α}
      (trail : Trail fetch walk t (pages ++ [page]) last)
      (hbefore : ∀ p ∈ pages, p.items.find? test = none)
      (hitem : page.items.find? test = some item) :
      FindRun fetch test walk t (.returned (some item))
  | absent {t : List (Event I)} {pages : List (Page α)} {last behind : Walk}
      (trail : Trail fetch walk t pages last)
      (hbefore : ∀ p ∈ pages, p.items.find? test = none)
      (hend : (last.next fetch).Runs [] (.returned (none, behind))) :
      FindRun fetch test walk t (.returned none)
  | aborted {t rest : List (Event I)} {pages : List (Page α)} {last : Walk} {abort : Option Fault}
      (trail : Trail fetch walk t pages last)
      (hbefore : ∀ p ∈ pages, p.items.find? test = none)
      (hnext : (last.next fetch).Runs rest (.aborted abort)) :
      FindRun fetch test walk (t ++ rest) (.aborted abort)
  | cutOff {t : List (Event I)} {pages : List (Page α)} {last : Walk}
      (trail : Trail fetch walk t pages last)
      (hbefore : ∀ p ∈ pages, p.items.find? test = none) :
      FindRun fetch test walk t .exhausted

/-! ## One step of a walk -/

/-- A fetch gives the page of the cursor, or the walk is left by the fault of the fetch. -/
theorem runs_fetchPage_cases {cursor : Option String} {seen : List String}
    {t : List (Event I)} {o : Outcome (Option (Page α) × Walk)}
    (h : (fetchPage fetch cursor seen).Runs t o) :
    (∃ page, o = .returned (some page, behind page.next seen) ∧
        (fetch cursor).Runs t (.returned page)) ∨
      ∃ abort : Option Fault, o = .aborted (abort.map Fault.inWalk) ∧
        (fetch cursor).Runs t (.aborted abort) := by
  rcases runs_bind_iff.mp h with ⟨t₁, page, t₂, rfl, hpage, hrest⟩ | ⟨abort, rfl, habort⟩
  · obtain ⟨rfl, rfl⟩ := runs_done_iff.mp hrest
    rw [List.append_nil]
    exact .inl ⟨page, rfl, runs_mapFault_returned_iff.mp hpage⟩
  · obtain ⟨inner, rfl, hinner⟩ := runs_mapFault_aborted_iff.mp habort
    exact .inr ⟨inner, rfl, hinner⟩

/-- A walk behind a page ends there, finds the cursor among those seen, or fetches the next page. -/
theorem runs_next_behind_cases {cursor : Option String} {seen : List String}
    {t : List (Event I)} {o : Outcome (Option (Page α) × Walk)}
    (h : ((behind cursor seen).next fetch).Runs t o) :
    (filled cursor = none ∧ t = [] ∧ o = .returned (none, ended)) ∨
      (∃ c, filled cursor = some c ∧ c ∈ seen ∧ t = [] ∧ o = .failed (.cursorRepeated c)) ∨
      ∃ c, filled cursor = some c ∧ c ∉ seen ∧
        ((∃ page, o = .returned (some page, behind page.next (c :: seen)) ∧
            (fetch (some c)).Runs t (.returned page)) ∨
          ∃ abort : Option Fault, o = .aborted (abort.map Fault.inWalk) ∧
            (fetch (some c)).Runs t (.aborted abort)) := by
  simp only [next] at h
  cases hcursor : filled cursor with
  | none =>
    simp only [hcursor] at h
    obtain ⟨rfl, rfl⟩ := runs_done_iff.mp h
    exact .inl ⟨rfl, rfl, rfl⟩
  | some c =>
    simp only [hcursor] at h
    by_cases hseen : c ∈ seen
    · simp only [hseen, if_true] at h
      obtain ⟨rfl, rfl⟩ := runs_fail_iff.mp h
      exact .inr (.inl ⟨c, rfl, hseen, rfl, rfl⟩)
    · simp only [hseen, if_false] at h
      exact .inr (.inr ⟨c, rfl, hseen, runs_fetchPage_cases h⟩)

theorem runs_next_start_cases {t : List (Event I)} {o : Outcome (Option (Page α) × Walk)}
    (h : (start.next fetch).Runs t o) :
    (∃ page, o = .returned (some page, behind page.next []) ∧
        (fetch none).Runs t (.returned page)) ∨
      ∃ abort : Option Fault, o = .aborted (abort.map Fault.inWalk) ∧
        (fetch none).Runs t (.aborted abort) :=
  runs_fetchPage_cases h

/-- A step that gives no page makes no call. -/
theorem eq_nil_of_runs_next_none {walk behind : Walk} {t : List (Event I)}
    (h : (walk.next fetch).Runs t (.returned (none, behind))) : t = [] := by
  cases walk with
  | start =>
    rcases runs_next_start_cases h with ⟨page, ho, _⟩ | ⟨abort, ho, _⟩
    · cases ho
    · exact absurd ho.symm (Outcome.aborted_ne_returned _ _)
  | behind cursor seen =>
    rcases runs_next_behind_cases h with
      ⟨_, ht, _⟩ | ⟨c, _, _, ht, _⟩ | ⟨c, _, _, ⟨page, ho, _⟩ | ⟨abort, ho, _⟩⟩
    · exact ht
    · exact ht
    · cases ho
    · exact absurd ho.symm (Outcome.aborted_ne_returned _ _)
  | ended => exact (runs_done_iff.mp h).1

/-- A step that gives a page has fetched it. -/
theorem exists_fetch_of_runs_next {walk behind : Walk} {t : List (Event I)} {page : Page α}
    (h : (walk.next fetch).Runs t (.returned (some page, behind))) :
    ∃ cursor, (fetch cursor).Runs t (.returned page) := by
  cases walk with
  | start =>
    rcases runs_next_start_cases h with ⟨page, ho, hfetch⟩ | ⟨abort, ho, _⟩
    · cases ho
      exact ⟨none, hfetch⟩
    · exact absurd ho.symm (Outcome.aborted_ne_returned _ _)
  | behind cursor seen =>
    rcases runs_next_behind_cases h with
      ⟨_, _, ho⟩ | ⟨c, _, _, _, ho⟩ | ⟨c, _, _, ⟨page, ho, hfetch⟩ | ⟨abort, ho, _⟩⟩
    · cases ho
    · cases ho
    · cases ho
      exact ⟨some c, hfetch⟩
    · exact absurd ho.symm (Outcome.aborted_ne_returned _ _)
  | ended => cases (runs_done_iff.mp h).2

/-! ## Trails -/

theorem Trail.exists_fetch {walk last : Walk} {t : List (Event I)} {pages : List (Page α)}
    (trail : Trail fetch walk t pages last) :
    ∀ page ∈ pages, ∃ cursor u, (fetch cursor).Runs u (.returned page) ∧ u ⊆ t := by
  induction trail with
  | nil => simp
  | cons first others ih =>
    intro page hpage
    rcases List.mem_cons.mp hpage with rfl | hpage
    · obtain ⟨cursor, hfetch⟩ := exists_fetch_of_runs_next first
      exact ⟨cursor, _, hfetch, List.subset_append_left _ _⟩
    · obtain ⟨cursor, u, hfetch, hsub⟩ := ih page hpage
      exact ⟨cursor, u, hfetch, List.Subset.trans hsub (List.subset_append_right _ _)⟩

/-- What holds of the calls of every fetch holds of all calls of a trail. -/
theorem Trail.forall_mem {good : Event I → Prop} {walk last : Walk} {t : List (Event I)}
    {pages : List (Page α)} (trail : Trail fetch walk t pages last)
    (hfetch : ∀ cursor u page, (fetch cursor).Runs u (.returned page) → ∀ e ∈ u, good e) :
    ∀ e ∈ t, good e := by
  induction trail with
  | nil => simp
  | cons first others ih =>
    obtain ⟨cursor, hfirst⟩ := exists_fetch_of_runs_next first
    exact List.forall_mem_append.mpr ⟨hfetch _ _ _ hfirst, ih⟩

theorem Complete.forall_mem {good : Event I → Prop} {cursor : Option String}
    {t : List (Event I)} {items : List α} (h : Complete fetch cursor t items)
    (hfetch : ∀ cursor u page, (fetch cursor).Runs u (.returned page) → ∀ e ∈ u, good e) :
    ∀ e ∈ t, good e := by
  induction h with
  | last fetched _ => exact hfetch _ _ _ fetched
  | more fetched _ _ ih => exact List.forall_mem_append.mpr ⟨hfetch _ _ _ fetched, ih⟩

/-! ## Searches -/

theorem FindRun.cons {walk behind : Walk} {t rest : List (Event I)} {page : Page α}
    {o : Outcome (Option α)} (first : (walk.next fetch).Runs t (.returned (some page, behind)))
    (hpage : page.items.find? test = none) (h : FindRun fetch test behind rest o) :
    FindRun fetch test walk (t ++ rest) o := by
  cases h with
  | @found rest pages hit last item trail hbefore hitem =>
    have htrail : Trail fetch walk (t ++ rest) ((page :: pages) ++ [hit]) last := .cons first trail
    exact .found htrail (List.forall_mem_cons.mpr ⟨hpage, hbefore⟩) hitem
  | absent trail hbefore hend =>
    exact .absent (.cons first trail) (List.forall_mem_cons.mpr ⟨hpage, hbefore⟩) hend
  | aborted trail hbefore hnext =>
    rw [← List.append_assoc]
    exact .aborted (.cons first trail) (List.forall_mem_cons.mpr ⟨hpage, hbefore⟩) hnext
  | cutOff trail hbefore =>
    exact .cutOff (.cons first trail) (List.forall_mem_cons.mpr ⟨hpage, hbefore⟩)

/-- A search goes in one of the ways listed. -/
theorem findRun_of_runs {limit : Nat} {walk : Walk} {t : List (Event I)}
    {o : Outcome (Option α)} (h : (find fetch test limit walk).Runs t o) :
    FindRun fetch test walk t o := by
  -- The bound only cuts the search off; what is left of it does not matter to the trail.
  induction limit generalizing walk t with
  | zero =>
    obtain ⟨rfl, rfl⟩ := runs_exhausted_iff.mp h
    exact .cutOff (.nil walk) (by simp)
  | succ limit ih =>
    rcases runs_bind_iff.mp h with
      ⟨t₁, ⟨found, behind⟩, t₂, rfl, hnext, hrest⟩ | ⟨abort, rfl, hnext⟩
    · cases found with
      | none =>
        obtain ⟨rfl, rfl⟩ := runs_done_iff.mp hrest
        cases eq_nil_of_runs_next_none hnext
        exact .absent (.nil walk) (by simp) hnext
      | some page =>
        cases hitem : page.items.find? test with
        | none =>
          simp only [hitem] at hrest
          exact .cons hnext hitem (ih hrest)
        | some item =>
          simp only [hitem] at hrest
          obtain ⟨rfl, rfl⟩ := runs_done_iff.mp hrest
          have htrail : Trail fetch walk (t₁ ++ []) ([] ++ [page]) behind :=
            .cons hnext (.nil behind)
          exact .found htrail (by simp) hitem
    · exact .aborted (t := []) (.nil walk) (by simp) hnext

/-- A trail to the end of a listing from behind a page, unless that was the last page, fetches all pages
from the next cursor on. -/
theorem Trail.complete_behind {next : Option String} {seen : List String} {last behind : Walk}
    {t : List (Event I)} {pages : List (Page α)}
    (trail : Trail fetch (.behind next seen) t pages last)
    (hend : (last.next fetch).Runs [] (.returned (none, behind))) :
    (filled next = none ∧ t = [] ∧ pages = []) ∨
      ∃ c, filled next = some c ∧ Complete fetch (some c) t (pages.flatMap Page.items) := by
  generalize hwalk : Walk.behind next seen = walk at trail
  induction trail generalizing next seen with
  | nil walk =>
    subst hwalk
    rcases runs_next_behind_cases hend with
      ⟨hnext, _⟩ | ⟨c, _, _, _, ho⟩ | ⟨c, _, _, ⟨page, ho, _⟩ | ⟨abort, ho, _⟩⟩
    · exact .inl ⟨hnext, rfl, rfl⟩
    · cases ho
    · cases ho
    · exact absurd ho.symm (Outcome.aborted_ne_returned _ _)
  | cons first others ih =>
    subst hwalk
    rcases runs_next_behind_cases first with
      ⟨_, _, ho⟩ | ⟨c, _, _, _, ho⟩ | ⟨c, hc, _, ⟨page, ho, hfetch⟩ | ⟨abort, ho, _⟩⟩
    · cases ho
    · cases ho
    · cases ho
      rcases ih hend rfl with ⟨hlast, rfl, rfl⟩ | ⟨d, hd, hrest⟩
      · rw [List.append_nil, List.flatMap_cons, List.flatMap_nil, List.append_nil]
        exact .inr ⟨c, hc, .last hfetch hlast⟩
      · exact .inr ⟨c, hc, .more hfetch hd hrest⟩
    · exact absurd ho.symm (Outcome.aborted_ne_returned _ _)

/-- A trail from the start to the end of a listing fetches all its pages. -/
theorem Trail.complete {last behind : Walk} {t : List (Event I)} {pages : List (Page α)}
    (trail : Trail fetch .start t pages last)
    (hend : (last.next fetch).Runs [] (.returned (none, behind))) :
    Complete fetch none t (pages.flatMap Page.items) := by
  cases trail with
  | nil =>
    rcases runs_next_start_cases hend with ⟨page, ho, _⟩ | ⟨abort, ho, _⟩
    · cases ho
    · exact absurd ho.symm (Outcome.aborted_ne_returned _ _)
  | cons first others =>
    rcases runs_next_start_cases first with ⟨page, ho, hfetch⟩ | ⟨abort, ho, _⟩
    · cases ho
      rcases others.complete_behind hend with ⟨hlast, rfl, rfl⟩ | ⟨c, hc, hrest⟩
      · rw [List.append_nil, List.flatMap_cons, List.flatMap_nil, List.append_nil]
        exact .last hfetch hlast
      · exact .more hfetch hc hrest
    · exact absurd ho.symm (Outcome.aborted_ne_returned _ _)

/-- A search from the start that finds nothing has been through the whole listing. -/
theorem FindRun.complete {t : List (Event I)}
    (h : FindRun fetch test .start t (.returned none)) :
    ∃ items, Complete fetch none t items ∧ ∀ item ∈ items, test item = false := by
  generalize ho : (Outcome.returned none : Outcome (Option α)) = o at h
  cases h with
  | found => cases ho
  | absent trail hbefore hend =>
    refine ⟨_, trail.complete hend, ?_⟩
    intro item hitem
    obtain ⟨page, hpage, hmem⟩ := List.mem_flatMap.mp hitem
    exact Bool.eq_false_iff.mpr (List.find?_eq_none.mp (hbefore page hpage) item hmem)
  | aborted => exact absurd ho.symm (Outcome.aborted_ne_returned _ _)
  | cutOff => cases ho

/-- What a search finds passes the test and stands on a page of a trail. -/
theorem FindRun.exists_trail {walk : Walk} {t : List (Event I)} {item : α}
    (h : FindRun fetch test walk t (.returned (some item))) :
    test item = true ∧ ∃ pages last, Trail fetch walk t pages last ∧
      ∃ page ∈ pages, item ∈ page.items := by
  generalize ho : (Outcome.returned (some item) : Outcome (Option α)) = o at h
  cases h with
  | @found _ pages page last _ trail _ hitem =>
    cases ho
    exact ⟨List.find?_some hitem, pages ++ [page], last, trail, page, by simp,
      List.mem_of_find?_eq_some hitem⟩
  | absent => cases ho
  | aborted => exact absurd ho.symm (Outcome.aborted_ne_returned _ _)
  | cutOff => cases ho

end VpcMachines.Walk
