import Mathlib.Data.Finset.Option
import VpcMachines.Proofs.Listing.Cursors
import VpcMachines.Proofs.Serving

/-!
# Walks over pages

A listing on its own is asked for pages by their cursors, and may answer as it likes, also by what it
was asked before. A walk fetches the first page without a cursor and every other one by the cursor of the
page before, and never fetches by one cursor twice, because it stops at a cursor that an earlier page gave
(`page_walk_ends`). So the cursors that the pages give bound how many fetches a walk can make.
-/

namespace VpcMachines

open Program

variable {I : Interface} {α : Type}

/-- A listing on its own: one call for each page, by its cursor. -/
abbrev Paging (α : Type) : Interface := ⟨Option String, fun _ ↦ Page α⟩

namespace Paging

def fetch : Walk.Fetch (Paging α) α := fun start ↦ request (I := Paging α) start

def listing : Listing (Paging α) α := ⟨fun start ↦ start, fun _ page ↦ page⟩

theorem listing_event (start : Option String) (answer : Except Fault (Page α)) :
    listing.event start answer = ⟨start, answer⟩ := by
  cases answer <;> rfl

theorem fetchedBy : (listing : Listing (Paging α) α).FetchedBy fetch := by
  intro start t o h
  obtain ⟨answer, rfl, rfl⟩ := runs_request_iff.mp h
  exact ⟨answer, by rw [listing_event], rfl⟩

end Paging

namespace Walk

/-! ## The fetches of a walk -/

/-- The cursors of the fetches behind which a walk stands. -/
def fetched : Walk → List (Option String)
  | start => []
  | behind _ seen => none :: seen.reverse.map some
  | ended => []

/-- There is no cursor to go on by. -/
def AtEnd (walk : Walk) : Prop := walk ≠ .start ∧ walk.cursor? = none

/-- The runs of a walk that is asked for pages. -/
inductive TakeRun (fetch : Fetch I α) (limit : Nat) (walk : Walk) :
    List (Event I) → Outcome (List (Page α) × Ending Walk) → Prop where
  | paused {t : List (Event I)} {pages : List (Page α)} {last : Walk}
      (trail : Trail fetch walk t pages last) (hcount : pages.length = limit) :
      TakeRun fetch limit walk t (.returned (pages, .paused last))
  | finished {t : List (Event I)} {pages : List (Page α)} {last behind : Walk}
      (trail : Trail fetch walk t pages last) (hcount : pages.length < limit)
      (hend : (last.next fetch).Runs [] (.returned (none, behind))) :
      TakeRun fetch limit walk t (.returned (pages, .finished))
  | failed {t rest : List (Event I)} {pages : List (Page α)} {last : Walk} {fault : Fault}
      (trail : Trail fetch walk t pages last) (hcount : pages.length < limit)
      (hnext : (last.next fetch).Runs rest (.failed fault)) :
      TakeRun fetch limit walk (t ++ rest) (.returned (pages, .failed fault))
  | exhausted {t rest : List (Event I)} {pages : List (Page α)} {last : Walk}
      (trail : Trail fetch walk t pages last) (hcount : pages.length < limit)
      (hnext : (last.next fetch).Runs rest .exhausted) :
      TakeRun fetch limit walk (t ++ rest) .exhausted

variable {fetch : Fetch I α} {l : Listing I α} {walk last : Walk} {t : List (Event I)}
  {page : Page α} {pages : List (Page α)} {limit : Nat}

/-- How a walk ends that gave one page more in front. -/
def behindPage (page : Page α) :
    Outcome (List (Page α) × Ending Walk) → Outcome (List (Page α) × Ending Walk)
  | .returned (pages, ending) => .returned (page :: pages, ending)
  | .failed fault => .failed fault
  | .exhausted => .exhausted

theorem runs_behindPage {p : Program I (List (Page α) × Ending Walk)}
    {o : Outcome (List (Page α) × Ending Walk)}
    (h : (do let (pages, ending) ← p; return (page :: pages, ending)).Runs t o) :
    ∃ inner, o = behindPage page inner ∧ p.Runs t inner := by
  rcases runs_bind_iff.mp h with ⟨t₁, ⟨pages, ending⟩, t₂, rfl, hp, hdone⟩ | ⟨abort, rfl, hp⟩
  · obtain ⟨rfl, rfl⟩ := runs_done_iff.mp hdone
    rw [List.append_nil]
    exact ⟨_, rfl, hp⟩
  · refine ⟨_, ?_, hp⟩
    cases abort <;> rfl

theorem TakeRun.cons {onward : Walk} {rest : List (Event I)}
    {o : Outcome (List (Page α) × Ending Walk)}
    (first : (walk.next fetch).Runs t (.returned (some page, onward)))
    (h : TakeRun fetch limit onward rest o) :
    TakeRun fetch (limit + 1) walk (t ++ rest) (behindPage page o) := by
  cases h with
  | paused trail hcount => exact .paused (.cons first trail) (congrArg Nat.succ hcount)
  | finished trail hcount hend =>
    exact .finished (.cons first trail) (Nat.succ_lt_succ hcount) hend
  | failed trail hcount hnext =>
    rw [← List.append_assoc]
    exact .failed (.cons first trail) (Nat.succ_lt_succ hcount) hnext
  | exhausted trail hcount hnext =>
    rw [← List.append_assoc]
    exact .exhausted (.cons first trail) (Nat.succ_lt_succ hcount) hnext

/-- A walk that is asked for pages goes in one of the ways listed. -/
theorem takeRun_of_runs {o : Outcome (List (Page α) × Ending Walk)}
    (h : (takePages fetch limit walk).Runs t o) : TakeRun fetch limit walk t o := by
  induction limit generalizing walk t o with
  | zero =>
    obtain ⟨rfl, rfl⟩ := runs_done_iff.mp h
    exact .paused (.nil walk) rfl
  | succ limit ih =>
    rcases runs_bind_iff.mp h with ⟨t₁, found, t₂, rfl, hnext, hrest⟩ | ⟨abort, rfl, hnext⟩
    · rcases runs_observe_cases hnext with ⟨answer, ho, hstep⟩ | ⟨ho, _⟩
      · cases ho
        rcases found with fault | ⟨_ | page, onward⟩
        · obtain ⟨rfl, rfl⟩ := runs_done_iff.mp hrest
          rw [List.append_nil]
          exact .failed (t := []) (.nil walk) (Nat.succ_pos limit) hstep
        · obtain ⟨rfl, rfl⟩ := runs_done_iff.mp hrest
          cases eq_nil_of_runs_next_none hstep
          exact .finished (.nil walk) (Nat.succ_pos limit) hstep
        · obtain ⟨inner, rfl, htake⟩ := runs_behindPage hrest
          exact (ih htake).cons hstep
      · cases ho
    · rcases runs_observe_cases hnext with ⟨answer, ho, _⟩ | ⟨ho, hstep⟩
      · exact absurd ho (Outcome.aborted_ne_returned _ _)
      · cases abort <;> cases ho
        exact .exhausted (t := []) (.nil walk) (Nat.succ_pos limit) hstep

/-! ## No cursor twice -/

theorem behind_ne_start {cursor : Option String} {seen : List String} :
    (behind cursor seen : Walk) ≠ .start := nofun

theorem ended_ne_start : (ended : Walk) ≠ .start := nofun

theorem fetched_past (h : ¬walk.AtEnd) (page : Page α) :
    (walk.past page).fetched = walk.fetched ++ [walk.cursor?] := by
  cases walk with
  | start => rfl
  | behind cursor seen =>
    cases hcursor : (behind cursor seen).cursor? with
    | none => exact absurd ⟨behind_ne_start, hcursor⟩ h
    | some c => simp [past, fetched, Walk.seen, hcursor]
  | ended => exact absurd ⟨ended_ne_start, rfl⟩ h

/-- A step ends the walk, meets a cursor that it has seen, or fetches by one that it has not used. -/
theorem runs_next_cases {o : Outcome (Option (Page α) × Walk)} (h : (walk.next fetch).Runs t o) :
    (walk.AtEnd ∧ t = [] ∧ o = .returned (none, .ended)) ∨
      (∃ c, walk.cursor? = some c ∧ c ∈ walk.seen ∧ t = [] ∧ o = .failed (.cursorRepeated c)) ∨
      (¬walk.AtEnd ∧ walk.cursor? ∉ walk.fetched ∧
        ((∃ page, o = .returned (some page, walk.past page) ∧
            (fetch walk.cursor?).Runs t (.returned page)) ∨
          ∃ abort : Option Fault, o = .aborted (abort.map Fault.inWalk) ∧
            (fetch walk.cursor?).Runs t (.aborted abort))) := by
  cases walk with
  | start => exact .inr (.inr ⟨fun hend ↦ hend.1 rfl, List.not_mem_nil, runs_next_start_cases h⟩)
  | behind cursor seen =>
    rcases runs_next_behind_cases h with ⟨hend, rfl, rfl⟩ | hmet | ⟨c, hc, hfresh, hfetch⟩
    · exact .inl ⟨⟨behind_ne_start, hend⟩, rfl, rfl⟩
    · exact .inr (.inl hmet)
    · have hcursor : (behind cursor seen).cursor? = some c := hc
      refine .inr (.inr ⟨fun hend ↦ ?_, ?_, ?_⟩)
      · cases hcursor.symm.trans hend.2
      · simp [hcursor, fetched, hfresh]
      · simpa [hcursor, past, Walk.seen] using hfetch
  | ended =>
    obtain ⟨rfl, rfl⟩ := runs_done_iff.mp h
    exact .inl ⟨⟨ended_ne_start, rfl⟩, rfl, rfl⟩

/-- A step that gives a page fetched it by a cursor that was not used before. -/
theorem fresh_of_runs_next {onward : Walk}
    (h : (walk.next fetch).Runs t (.returned (some page, onward))) :
    ¬walk.AtEnd ∧ walk.cursor? ∉ walk.fetched ∧ onward = walk.past page ∧
      (fetch walk.cursor?).Runs t (.returned page) := by
  rcases runs_next_cases h with
    ⟨_, _, ho⟩ | ⟨c, _, _, _, ho⟩ | ⟨hgoes, hfresh, ⟨found, ho, hfetch⟩ | ⟨abort, ho, _⟩⟩
  · cases ho
  · cases ho
  · cases ho
    exact ⟨hgoes, hfresh, rfl, hfetch⟩
  · exact absurd ho.symm (Outcome.aborted_ne_returned _ _)

theorem Trail.nodup_fetched (hwalk : walk.fetched.Nodup) (trail : Trail fetch walk t pages last) :
    last.fetched.Nodup := by
  induction trail with
  | nil => exact hwalk
  | cons first others ih =>
    obtain ⟨hgoes, hfresh, rfl, _⟩ := fresh_of_runs_next first
    apply ih
    rw [fetched_past hgoes]
    exact List.concat_eq_append ▸ hwalk.concat hfresh

/-- The calls of a trail are those for the cursors that it adds. -/
theorem Trail.fetched_append (hl : l.FetchedBy fetch) (trail : Trail fetch walk t pages last) :
    ∃ cursors, last.fetched = walk.fetched ++ cursors ∧ t.map Sigma.fst = cursors.map l.call := by
  induction trail with
  | nil => exact ⟨[], (List.append_nil _).symm, rfl⟩
  | @cons walk behind last t rest page pages first others ih =>
    obtain ⟨hgoes, _, rfl, hfetch⟩ := fresh_of_runs_next first
    obtain ⟨cursors, hlast, hrest⟩ := ih
    refine ⟨walk.cursor? :: cursors, ?_, ?_⟩
    · rw [hlast, fetched_past hgoes, List.append_assoc, List.singleton_append]
    · rw [hl.eq_of_returned hfetch, List.map_append, hrest]
      rfl

theorem mem_fetched_iff {cursor : String} : some cursor ∈ walk.fetched ↔ cursor ∈ walk.seen := by
  cases walk <;> simp [fetched, seen]

/-- Behind its last page a walk goes on by the cursor that this page gave. -/
theorem foldl_past_concat (front : List (Page α)) (page : Page α) :
    (front ++ [page]).foldl past start ≠ .start ∧
      ((front ++ [page]).foldl past start).cursor? = filled page.next ∧
      ∀ cursor, cursor ∈ ((front ++ [page]).foldl past start).seen ↔
        ∃ earlier ∈ front, filled earlier.next = some cursor := by
  rw [List.foldl_append, List.foldl_cons, List.foldl_nil]
  refine ⟨ne_start_past, rfl, fun cursor ↦ ?_⟩
  exact mem_cursors_iff

end Walk

open Walk (Ending)

namespace Paging

/-! ## Walks over a listing on its own -/

def answer (e : Event (Paging α)) : Except Fault (Page α) := e.2

/-- One fetch gave a page with a cursor, and the other is by that cursor. -/
def Onward (e e' : Event (Paging α)) : Prop :=
  ∃ page c, answer e = .ok page ∧ page.next = some c ∧ c ≠ "" ∧ e'.1 = some c

/-- The last of the pages gives a cursor that a page before it gave. -/
def Repeats (pages : List (Page α)) (c : String) : Prop :=
  ∃ front last, pages = front ++ [last] ∧ last.next = some c ∧ c ≠ "" ∧
    ∃ page ∈ front, page.next = some c

/-- What holds of a walk that is asked for so many pages: of its fetches `t`, the pages that it gives, and
how it ends. -/
structure Walked (limit : Nat) (t : List (Event (Paging α))) (pages : List (Page α))
    (ending : Ending Walk) : Prop where
  /-- The first fetch has no cursor. -/
  first : 0 < limit → ∃ answer behind, t = ⟨none, answer⟩ :: behind
  /-- Every other one has the cursor of the page before. -/
  onward : t.IsChain Onward
  /-- No two of them have the same. -/
  distinct : (t.map Sigma.fst).Nodup
  /-- The pages are all that were fetched. -/
  given : pages = t.filterMap fun e ↦ (answer e).toOption
  paused_iff : (∃ walk, ending = .paused walk) ↔ pages.length = limit
  /-- The walk is finished where a page has no cursor, or an empty one. -/
  finished_iff : ending = .finished ↔
    pages.length < limit ∧ ∃ page, pages.getLast? = some page ∧ filled page.next = none
  /-- It fails where a fetch fails, and where a page gives a cursor that was given before. -/
  failed_iff : ∀ fault, ending = .failed fault ↔
    (∃ start cause, t.getLast? = some ⟨start, .error cause⟩ ∧ fault = cause.inWalk) ∨
      (pages.length < limit ∧ ∃ c, Repeats pages c ∧ fault = .cursorRepeated c)
  /-- So many cursors allow for one fetch more, and end the walk there. -/
  bounded : ∀ cursors : Finset String,
    (∀ page ∈ pages, ∀ c, page.next = some c → c ≠ "" → c ∈ cursors) →
    t.length ≤ cursors.card + 1 ∧
      (cursors.card + 1 < limit → ending = .finished ∨ ∃ fault, ending = .failed fault)

/-- How a walk halts behind its pages: with which fetches, and how it ends. -/
inductive Halts (limit : Nat) (pages : List (Page α)) (last : Walk) :
    List (Event (Paging α)) → Ending Walk → Prop where
  | paused (hcount : pages.length = limit) : Halts limit pages last [] (.paused last)
  | finished (hcount : pages.length < limit) (hend : last.AtEnd) : Halts limit pages last [] .finished
  | repeated {c : String} (hcount : pages.length < limit) (hcursor : last.cursor? = some c)
      (hseen : c ∈ last.seen) : Halts limit pages last [] (.failed (.cursorRepeated c))
  | refused (hcount : pages.length < limit) (hgoes : ¬last.AtEnd)
      (hfresh : last.cursor? ∉ last.fetched) (cause : Fault) :
      Halts limit pages last [⟨last.cursor?, .error cause⟩] (.failed cause.inWalk)

variable {limit : Nat} {t rest : List (Event (Paging α))} {pages : List (Page α)}
  {walk last : Walk} {ending : Ending Walk}

/-- A walk takes a trail of pages and halts. -/
theorem exists_halt {o : Outcome (List (Page α) × Ending Walk)}
    (h : (Walk.takePages fetch limit .start).Runs t o) :
    ∃ u rest pages last ending, t = u ++ rest ∧ o = .returned (pages, ending) ∧
      Walk.Trail fetch .start u pages last ∧ Halts limit pages last rest ending := by
  cases Walk.takeRun_of_runs h with
  | paused trail hcount =>
    exact ⟨_, [], _, _, _, (List.append_nil _).symm, rfl, trail, .paused hcount⟩
  | finished trail hcount hend =>
    rcases Walk.runs_next_cases hend with
      ⟨hatEnd, _, _⟩ | ⟨c, _, _, _, ho⟩ | ⟨_, _, ⟨page, ho, _⟩ | ⟨abort, ho, _⟩⟩
    · exact ⟨_, [], _, _, _, (List.append_nil _).symm, rfl, trail, .finished hcount hatEnd⟩
    · cases ho
    · cases ho
    · exact absurd ho.symm (Outcome.aborted_ne_returned _ _)
  | failed trail hcount hnext =>
    rcases Walk.runs_next_cases hnext with
      ⟨_, _, ho⟩ | ⟨c, hcursor, hseen, rfl, ho⟩ | ⟨hgoes, hfresh, ⟨page, ho, _⟩ | ⟨abort, ho, hfetch⟩⟩
    · cases ho
    · cases ho
      exact ⟨_, [], _, _, _, rfl, rfl, trail, .repeated hcount hcursor hseen⟩
    · cases ho
    · obtain ⟨cause, rfl, rfl⟩ := fetchedBy.eq_of_aborted hfetch
      cases ho
      exact ⟨_, _, _, _, _, rfl, rfl, trail, .refused hcount hgoes hfresh _⟩
  | exhausted trail hcount hnext =>
    rcases Walk.runs_next_cases hnext with
      ⟨_, _, ho⟩ | ⟨c, _, _, _, ho⟩ | ⟨_, _, ⟨page, ho, _⟩ | ⟨abort, ho, hfetch⟩⟩
    · cases ho
    · cases ho
    · cases ho
    · cases abort <;> cases ho
      exact absurd hfetch (Walk.not_runs_fetch_exhausted fetchedBy)

/-- Fetches go on by the cursors of the pages, from the cursor of the walk on. -/
theorem isChain_of_trail (trail : Walk.Trail fetch walk t pages last) (hrest : rest.IsChain Onward)
    (hfirst : ∀ e ∈ rest.head?, e.1 = last.cursor? ∧ ¬last.AtEnd) :
    (t ++ rest).IsChain Onward ∧ ∀ e ∈ (t ++ rest).head?, e.1 = walk.cursor? ∧ ¬walk.AtEnd := by
  induction trail with
  | nil => exact ⟨hrest, hfirst⟩
  | @cons walk behind last t more page pages first others ih =>
    obtain ⟨hgoes, _, rfl, hfetch⟩ := Walk.fresh_of_runs_next first
    obtain ⟨hchain, hhead⟩ := ih hfirst
    have ht : t = [⟨walk.cursor?, .ok page⟩] := fetchedBy.eq_of_returned hfetch
    rw [ht, List.append_assoc, List.singleton_append]
    refine ⟨List.isChain_cons.mpr ⟨fun e he ↦ ?_, hchain⟩, ?_⟩
    · obtain ⟨hcursor, hgoesOn⟩ := hhead e he
      have hnext : e.1 = filled page.next := hcursor
      cases hfilled : filled page.next with
      | none => exact absurd ⟨Walk.ne_start_past, hfilled⟩ hgoesOn
      | some c =>
        obtain ⟨hc, hne⟩ := filled_eq_some_iff.mp hfilled
        exact ⟨page, c, rfl, hc, hne, hnext.trans hfilled⟩
    · simpa using hgoes

theorem answers_of_trail (trail : Walk.Trail fetch walk t pages last) :
    (t.filterMap fun e ↦ (answer e).toOption) = pages ∧ ∀ e ∈ t, ∃ page, answer e = .ok page := by
  induction trail with
  | nil => exact ⟨rfl, by simp⟩
  | @cons walk behind last t more page pages first others ih =>
    obtain ⟨_, _, _, hfetch⟩ := Walk.fresh_of_runs_next first
    have ht : t = [⟨walk.cursor?, .ok page⟩] := fetchedBy.eq_of_returned hfetch
    rw [ht, List.singleton_append]
    exact ⟨congrArg (page :: ·) ih.1, List.forall_mem_cons.mpr ⟨⟨page, rfl⟩, ih.2⟩⟩

/-- No cursor is used twice, neither by the pages of a trail nor where a walk halts behind them. -/
theorem cursors_of_halt (trail : Walk.Trail fetch .start t pages last)
    (halt : Halts limit pages last rest ending) :
    ((t ++ rest).map Sigma.fst).Nodup ∧
      ∀ c, some c ∈ (t ++ rest).map Sigma.fst → ∃ page ∈ pages, filled page.next = some c := by
  obtain ⟨cursors, hlast, hcalls⟩ := trail.fetched_append fetchedBy
  have ht : t.map Sigma.fst = last.fetched := by
    rw [hlast, hcalls]
    exact List.map_id _
  have hnone : Walk.start.fetched.Nodup := List.nodup_nil
  have hnodup : last.fetched.Nodup := trail.nodup_fetched hnone
  have hgiven (c : String) (hc : c ∈ last.cursor?.toList ++ last.seen) :
      ∃ page ∈ pages, filled page.next = some c := by
    rw [trail.last_eq] at hc
    exact Walk.mem_cursors_iff.mp hc
  rw [List.map_append, ht]
  cases halt with
  | refused _ _ hfresh cause =>
    refine ⟨List.concat_eq_append ▸ hnodup.concat hfresh, fun c hc ↦ hgiven c ?_⟩
    rcases List.mem_append.mp hc with hseen | hcursor
    · exact List.mem_append_right _ (Walk.mem_fetched_iff.mp hseen)
    · have hcursor : some c = last.cursor? := List.mem_singleton.mp hcursor
      simp [← hcursor]
  | _ =>
    rw [List.map_nil, List.append_nil]
    exact ⟨hnodup, fun c hc ↦ hgiven c (List.mem_append_right _ (Walk.mem_fetched_iff.mp hc))⟩

theorem repeats_iff {c : String} :
    Repeats pages c ↔ (pages.foldl Walk.past .start).cursor? = some c ∧
      c ∈ (pages.foldl Walk.past .start).seen := by
  constructor
  · rintro ⟨front, q, rfl, hq, hne, page, hpage, hgave⟩
    obtain ⟨_, hnext, hmem⟩ := Walk.foldl_past_concat front q
    refine ⟨hnext.trans (filled_eq_some_iff.mpr ⟨hq, hne⟩), (hmem c).mpr ⟨page, hpage, ?_⟩⟩
    exact filled_eq_some_iff.mpr ⟨hgave, hne⟩
  · rintro ⟨hcursor, hseen⟩
    rcases List.eq_nil_or_concat pages with rfl | ⟨front, q, rfl⟩
    · cases hcursor
    · rw [List.concat_eq_append] at hcursor hseen ⊢
      obtain ⟨_, hnext, hmem⟩ := Walk.foldl_past_concat front q
      obtain ⟨hq, hne⟩ := filled_eq_some_iff.mp (hnext.symm.trans hcursor)
      obtain ⟨page, hpage, hgave⟩ := (hmem c).mp hseen
      exact ⟨front, q, rfl, hq, hne, page, hpage, (filled_eq_some_iff.mp hgave).1⟩

/-- A walk is at its end where its last page gave no cursor. -/
theorem atEnd_iff :
    (pages.foldl Walk.past .start).AtEnd ↔
      ∃ page, pages.getLast? = some page ∧ filled page.next = none := by
  rcases List.eq_nil_or_concat pages with rfl | ⟨front, q, rfl⟩
  · simp [Walk.AtEnd]
  · rw [List.concat_eq_append]
    obtain ⟨hstart, hnext, _⟩ := Walk.foldl_past_concat front q
    rw [Walk.AtEnd, hnext, List.getLast?_concat]
    constructor
    · rintro ⟨_, hend⟩
      exact ⟨q, rfl, hend⟩
    · rintro ⟨page, hpage, hend⟩
      cases hpage
      exact ⟨hstart, hend⟩

section Halting

variable (hlast : last = pages.foldl Walk.past .start) (halt : Halts limit pages last rest ending)

include halt in
theorem paused_iff_of_halt : (∃ walk, ending = .paused walk) ↔ pages.length = limit := by
  cases halt with
  | paused hcount => exact ⟨fun _ ↦ hcount, fun _ ↦ ⟨_, rfl⟩⟩
  | finished hcount => simp [Nat.ne_of_lt hcount]
  | repeated hcount => simp [Nat.ne_of_lt hcount]
  | refused hcount => simp [Nat.ne_of_lt hcount]

include hlast halt in
theorem finished_iff_of_halt : ending = .finished ↔
    pages.length < limit ∧ ∃ page, pages.getLast? = some page ∧ filled page.next = none := by
  rw [← atEnd_iff, ← hlast]
  cases halt with
  | paused hcount => simp [hcount]
  | finished hcount hend => exact ⟨fun _ ↦ ⟨hcount, hend⟩, fun _ ↦ rfl⟩
  | repeated _ hcursor => simp [Walk.AtEnd, hcursor]
  | refused _ hgoes => simp [hgoes]

include hlast halt in
theorem failed_iff_of_halt (hanswered : ∀ e ∈ t, ∃ page, answer e = .ok page) (fault : Fault) :
    ending = .failed fault ↔
      (∃ start cause, (t ++ rest).getLast? = some ⟨start, .error cause⟩ ∧ fault = cause.inWalk) ∨
        (pages.length < limit ∧ ∃ c, Repeats pages c ∧ fault = .cursorRepeated c) := by
  have hnot (start : Option String) (cause : Fault) : t.getLast? ≠ some ⟨start, .error cause⟩ := by
    intro hlast
    obtain ⟨page, hpage⟩ := hanswered _ (List.mem_of_getLast? hlast)
    cases hpage
  simp only [repeats_iff, ← hlast]
  cases halt with
  | paused hcount => simp [hcount, hnot]
  | finished _ hend => simp [hnot, hend.2]
  | repeated hcount hcursor hseen =>
    simp only [List.append_nil, hnot, false_and, exists_false, false_or, hcursor,
      Option.some.injEq]
    constructor
    · rintro ⟨⟩
      exact ⟨hcount, _, ⟨rfl, hseen⟩, rfl⟩
    · rintro ⟨_, c, ⟨rfl, _⟩, rfl⟩
      rfl
  | refused _ _ hfresh cause =>
    rw [List.getLast?_concat]
    constructor
    · rintro ⟨⟩
      exact .inl ⟨_, cause, rfl, rfl⟩
    · rintro (⟨start, cause, hstart, rfl⟩ | ⟨_, c, ⟨hcursor, hseen⟩, _⟩)
      · cases hstart
        rfl
      · rw [hcursor, Walk.mem_fetched_iff] at hfresh
        exact absurd hseen hfresh

end Halting

/-- A walk that is asked for pages fetches at least one. -/
theorem ne_nil_of_halt (hlimit : 0 < limit) (hlast : last = pages.foldl Walk.past .start)
    (hall : pages = (t ++ rest).filterMap fun e ↦ (answer e).toOption)
    (halt : Halts limit pages last rest ending) : t ++ rest ≠ [] := by
  intro hnil
  rw [hnil] at hall
  subst hall
  subst hlast
  cases halt with
  | paused hcount => exact absurd hcount (Nat.ne_of_lt hlimit)
  | finished _ hend => exact hend.1 rfl
  | repeated _ hcursor => cases hcursor
  | refused => exact absurd (List.append_eq_nil_iff.mp hnil).2 (List.cons_ne_nil _ _)

/-- Fetches without a cursor twice are bounded by the cursors that the pages give. -/
theorem length_le_of_distinct {fetches : List (Event (Paging α))} {cursors : Finset String}
    (hdistinct : (fetches.map Sigma.fst).Nodup)
    (hcursors : ∀ c, some c ∈ fetches.map Sigma.fst → c ∈ cursors) :
    fetches.length ≤ cursors.card + 1 := by
  have hsub : (fetches.map Sigma.fst).toFinset ⊆ Finset.insertNone cursors := by
    intro start hstart
    rw [Finset.mem_insertNone]
    rintro c rfl
    exact hcursors c (List.mem_toFinset.mp hstart)
  calc
    fetches.length = (fetches.map Sigma.fst).length := (List.length_map _).symm
    _ = (fetches.map Sigma.fst).toFinset.card := (List.toFinset_card_of_nodup hdistinct).symm
    _ ≤ (Finset.insertNone cursors).card := Finset.card_le_card hsub
    _ = cursors.card + 1 := Finset.card_insertNone cursors

theorem walked_of_halt (trail : Walk.Trail fetch .start t pages last)
    (halt : Halts limit pages last rest ending) : Walked limit (t ++ rest) pages ending := by
  obtain ⟨hgiven, hanswered⟩ := answers_of_trail trail
  obtain ⟨hdistinct, hcursors⟩ := cursors_of_halt trail halt
  have hlast : last = pages.foldl Walk.past .start := trail.last_eq
  have hrest : rest.IsChain Onward ∧ ∀ e ∈ rest.head?, e.1 = last.cursor? ∧ ¬last.AtEnd := by
    cases halt with
    | refused _ hgoes => simpa using hgoes
    | _ => simp
  obtain ⟨hchain, hhead⟩ := isChain_of_trail trail hrest.1 hrest.2
  have hall : pages = (t ++ rest).filterMap fun e ↦ (answer e).toOption := by
    rw [List.filterMap_append, hgiven]
    cases halt <;> simp [answer, Except.toOption]
  refine ⟨?_, hchain, hdistinct, hall, paused_iff_of_halt halt, finished_iff_of_halt hlast halt,
    failed_iff_of_halt hlast halt hanswered, ?_⟩
  · intro hlimit
    obtain ⟨e, behind, hsplit⟩ := List.exists_cons_of_ne_nil (ne_nil_of_halt hlimit hlast hall halt)
    have hnone : e.1 = none := (hhead e (by simp [hsplit])).1
    obtain ⟨start, answer⟩ := e
    cases hnone
    exact ⟨answer, behind, hsplit⟩
  · intro cursors hgave
    have hbound : (t ++ rest).length ≤ cursors.card + 1 := by
      refine length_le_of_distinct hdistinct fun c hc ↦ ?_
      obtain ⟨page, hpage, hnext⟩ := hcursors c hc
      obtain ⟨hc, hne⟩ := filled_eq_some_iff.mp hnext
      exact hgave page hpage c hc hne
    refine ⟨hbound, fun hlimit ↦ ?_⟩
    have hlength : pages.length ≤ (t ++ rest).length := by
      rw [hall]
      exact List.length_filterMap_le _ _
    cases halt with
    | paused hcount => omega
    | finished => exact .inl rfl
    | repeated => exact .inr ⟨_, rfl⟩
    | refused => exact .inr ⟨_, rfl⟩

/-- A walk fetches by no cursor twice and goes on by the cursor of the page before, whatever the listing
answers. It gives every page that it fetched, is finished behind a page without a cursor, and fails behind
a page that repeats one. The cursors that are given bound its fetches, so it ends unless there is no end
of them. -/
theorem page_walk_ends {σ : Type} (listing : Handler (Paging α) σ) (s : σ) (limit : Nat) :
    let walk := Walk.takePages fetch limit .start
    (∃ pages ending, (walk.run listing s).1 = .returned (pages, ending) ∧
      Walked limit (walk.trace listing s) pages ending) ∧
    ∀ c, (Fault.cursorRepeated c).category = .provider ∧
      (Fault.cursorRepeated c).message = s!"pagination cursor {c} repeated" := by
  intro walk
  refine ⟨?_, fun c ↦ ⟨rfl, rfl⟩⟩
  obtain ⟨t, rest, pages, last, ending, htrace, ho, trail, halt⟩ :=
    exists_halt (runs_trace listing walk s)
  refine ⟨pages, ending, ho, ?_⟩
  rw [htrace]
  exact walked_of_halt trail halt

end Paging

end VpcMachines
