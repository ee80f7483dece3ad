import Mathlib.Data.List.Induction
import VpcMachines.Proofs.Ending
import VpcMachines.Proofs.Listing.Search

/-!
# The cursors of a walk

Behind some pages a walk has seen the cursors by which it fetched them, and each of them was given by an
earlier page. So where a walk ends because a cursor is repeated, two of its pages gave this cursor
(`Trail.repeats`). A search that is cut off by its bound has made as many calls as the bound says.
-/

namespace VpcMachines

variable {I : Interface} {α : Type}

/-- A listing as a collaborator offers it: the call for the page at a cursor, and the page as its
reply. -/
structure Listing (I : Interface) (α : Type) where
  call : Option String → I.Call
  reply : (start : Option String) → Page α → I.Reply (call start)

namespace Listing

def event (l : Listing I α) (start : Option String) (answer : Except Fault (Page α)) : Event I :=
  ⟨l.call start, answer.map (l.reply start)⟩

/-- Fetching a page is one call of the listing. -/
def FetchedBy (l : Listing I α) (fetch : Walk.Fetch I α) : Prop :=
  ∀ start t o, (fetch start).Runs t o → ∃ answer, t = [l.event start answer] ∧ o = .ofExcept answer

/-- A walk through the listing ends with a page that gives a cursor which an earlier page gave. -/
def Repeats (l : Listing I α) (t : List (Event I)) (cursor : String) : Prop :=
  ∃ (before : List (Event I)) (start : Option String) (first : Page α) (between : List (Event I))
    (again : String) (last : Page α),
    t = before ++ l.event start (.ok first) :: (between ++ [l.event (some again) (.ok last)]) ∧
    filled first.next = some cursor ∧ filled last.next = some cursor ∧
    ∀ e ∈ between, ∃ following page, e = l.event (some following) (.ok page)

variable {l : Listing I α} {fetch : Walk.Fetch I α} {t : List (Event I)} {start : Option String}

theorem Repeats.behind {cursor : String} (h : l.Repeats t cursor) (before : List (Event I)) :
    l.Repeats (before ++ t) cursor := by
  obtain ⟨front, start, first, between, again, last, rfl, hfirst, hlast, hbetween⟩ := h
  refine ⟨before ++ front, start, first, between, again, last, ?_, hfirst, hlast, hbetween⟩
  rw [List.append_assoc]

theorem FetchedBy.eq_of_returned (h : l.FetchedBy fetch) {page : Page α}
    (hrun : (fetch start).Runs t (.returned page)) : t = [l.event start (.ok page)] := by
  obtain ⟨answer, rfl, ho⟩ := h _ _ _ hrun
  cases answer <;> cases ho
  rfl

theorem FetchedBy.eq_of_aborted (h : l.FetchedBy fetch) {abort : Option Fault}
    (hrun : (fetch start).Runs t (.aborted abort)) :
    ∃ cause, abort = some cause ∧ t = [⟨l.call start, .error cause⟩] := by
  obtain ⟨answer, rfl, ho⟩ := h _ _ _ hrun
  cases abort <;> cases answer <;> cases ho
  exact ⟨_, rfl, rfl⟩

end Listing

namespace Walk

open Program

/-! ## Where a walk stands -/

/-- The cursor of the page that comes next. -/
def cursor? : Walk → Option String
  | start => none
  | behind next _ => filled next
  | ended => none

/-- The cursors of the pages that were fetched. -/
def seen : Walk → List String
  | start => []
  | behind _ seen => seen
  | ended => []

/-- The walk behind one page more. -/
def past (walk : Walk) (page : Page α) : Walk :=
  behind page.next (walk.cursor?.toList ++ walk.seen)

variable {fetch : Fetch I α} {l : Listing I α} {test : α → Bool} {walk last : Walk}
  {t : List (Event I)} {page : Page α} {pages : List (Page α)}

/-- A step that gives a page fetched it by the cursor of the walk. -/
theorem fetch_of_runs_next {onward : Walk}
    (h : (walk.next fetch).Runs t (.returned (some page, onward))) :
    (fetch walk.cursor?).Runs t (.returned page) ∧ onward = walk.past page ∧
      (walk = .start ∨ walk.cursor?.isSome) := by
  cases walk with
  | start =>
    rcases runs_next_start_cases h with ⟨found, ho, hfetch⟩ | ⟨abort, ho, _⟩
    · cases ho
      exact ⟨hfetch, rfl, .inl rfl⟩
    · exact absurd ho.symm (Outcome.aborted_ne_returned _ _)
  | behind cursor seen =>
    rcases runs_next_behind_cases h with
      ⟨_, _, ho⟩ | ⟨c, _, _, _, ho⟩ | ⟨c, hc, _, ⟨found, ho, hfetch⟩ | ⟨abort, ho, _⟩⟩
    · cases ho
    · cases ho
    · cases ho
      simp [cursor?, past, Walk.seen, hc, hfetch]
    · exact absurd ho.symm (Outcome.aborted_ne_returned _ _)
  | ended => cases (runs_done_iff.mp h).2

/-- A step that fails could not fetch its page, or met a cursor that it had seen. -/
theorem abort_of_runs_next {abort : Option Fault} (h : (walk.next fetch).Runs t (.aborted abort)) :
    (∃ start, ∃ inner : Option Fault, abort = inner.map Fault.inWalk ∧
        (fetch start).Runs t (.aborted inner)) ∨
      ∃ next seen c, walk = .behind next seen ∧ filled next = some c ∧ c ∈ seen ∧ t = [] ∧
        abort = some (.cursorRepeated c) := by
  cases walk with
  | start =>
    rcases runs_next_start_cases h with ⟨found, ho, _⟩ | ⟨abort', ho, hfetch⟩
    · exact absurd ho (Outcome.aborted_ne_returned _ _)
    · cases Outcome.aborted_inj.mp ho
      exact .inl ⟨none, _, rfl, hfetch⟩
  | behind next seen =>
    rcases runs_next_behind_cases h with
      ⟨_, _, ho⟩ | ⟨c, hc, hmem, ht, ho⟩ | ⟨c, _, _, ⟨found, ho, _⟩ | ⟨abort', ho, hfetch⟩⟩
    · exact absurd ho (Outcome.aborted_ne_returned _ _)
    · cases abort <;> cases ho
      exact .inr ⟨next, seen, c, rfl, hc, hmem, ht, rfl⟩
    · exact absurd ho (Outcome.aborted_ne_returned _ _)
    · cases Outcome.aborted_inj.mp ho
      exact .inl ⟨some c, _, rfl, hfetch⟩
  | ended => exact absurd (runs_done_iff.mp h).2 (Outcome.aborted_ne_returned _ _)

theorem Trail.last_eq (trail : Trail fetch walk t pages last) : last = pages.foldl past walk := by
  induction trail with
  | nil => rfl
  | cons first others ih =>
    obtain ⟨_, rfl, _⟩ := fetch_of_runs_next first
    exact ih

theorem Trail.split {front behind : List (Page α)}
    (trail : Trail fetch walk t (front ++ behind) last) :
    ∃ t₁ t₂ between, t = t₁ ++ t₂ ∧ Trail fetch walk t₁ front between ∧
      Trail fetch between t₂ behind last := by
  induction front generalizing walk t with
  | nil => exact ⟨[], t, walk, rfl, .nil walk, trail⟩
  | cons page front ih =>
    cases trail with
    | cons first others =>
      obtain ⟨t₁, t₂, between, rfl, hfront, hbehind⟩ := ih others
      exact ⟨_, t₂, between, (List.append_assoc _ _ _).symm, .cons first hfront, hbehind⟩

/-- A page gave the cursor exactly if the walk behind the pages has seen it or goes on by it. -/
theorem mem_cursors_iff {cursor : String} :
    cursor ∈ (pages.foldl past start).cursor?.toList ++ (pages.foldl past start).seen ↔
      ∃ page ∈ pages, filled page.next = some cursor := by
  induction pages using List.reverseRecOn with
  | nil => simp [cursor?, seen]
  | append_singleton pages page ih =>
    rw [List.foldl_append, List.foldl_cons, List.foldl_nil]
    change cursor ∈ (filled page.next).toList ++ (_ ++ _) ↔ _
    rw [List.mem_append, ih]
    simp [or_and_right, exists_or, or_comm]

theorem ne_start_past : walk.past page ≠ .start := by
  rw [past]
  exact nofun

/-- Behind the first page, every page is fetched by a cursor. -/
theorem Trail.forall_fetched_behind (hl : l.FetchedBy fetch) (hwalk : walk ≠ .start)
    (trail : Trail fetch walk t pages last) :
    last ≠ .start ∧ ∀ e ∈ t, ∃ following page, e = l.event (some following) (.ok page) := by
  induction trail with
  | nil => exact ⟨hwalk, by simp⟩
  | cons first others ih =>
    obtain ⟨hfetch, rfl, hstart | hcursor⟩ := fetch_of_runs_next first
    · exact absurd hstart hwalk
    · obtain ⟨following, hfollowing⟩ := Option.isSome_iff_exists.mp hcursor
      obtain ⟨hlast, hothers⟩ := ih ne_start_past
      refine ⟨hlast, List.forall_mem_append.mpr ⟨?_, hothers⟩⟩
      rw [hl.eq_of_returned hfetch, hfollowing]
      intro e he
      exact ⟨following, _, List.mem_singleton.mp he⟩

/-- A walk that stands before a cursor which it has seen took two pages that gave this cursor. -/
theorem Trail.repeats (hl : l.FetchedBy fetch) {next : Option String} {seen : List String}
    {cursor : String} (trail : Trail fetch .start t pages (.behind next seen))
    (hnext : filled next = some cursor) (hseen : cursor ∈ seen) : l.Repeats t cursor := by
  have hlast := trail.last_eq
  rcases List.eq_nil_or_concat pages with rfl | ⟨front, q, rfl⟩
  · cases hlast
  rw [List.concat_eq_append] at hlast trail
  rw [List.foldl_append, List.foldl_cons, List.foldl_nil] at hlast
  cases hlast
  obtain ⟨p, hp, hcursor⟩ := mem_cursors_iff.mp hseen
  obtain ⟨earlier, between, rfl⟩ := List.append_of_mem hp
  rw [List.append_assoc, List.cons_append] at trail
  obtain ⟨t₁, t₂, w, rfl, _, hrest⟩ := trail.split
  cases hrest with
  | cons first others =>
    obtain ⟨hfetch, rfl, _⟩ := fetch_of_runs_next first
    obtain ⟨t₃, t₄, v, rfl, hbetween, hend⟩ := others.split
    obtain ⟨hv, hcalls⟩ := hbetween.forall_fetched_behind hl ne_start_past
    cases hend with
    | cons final nothing =>
      cases nothing
      obtain ⟨hfinal, _, hstart | hv'⟩ := fetch_of_runs_next final
      · exact absurd hstart hv
      obtain ⟨again, hagain⟩ := Option.isSome_iff_exists.mp hv'
      rw [hagain] at hfinal
      refine ⟨t₁, w.cursor?, p, t₃, again, q, ?_, hcursor, hnext, hcalls⟩
      rw [hl.eq_of_returned hfetch, hl.eq_of_returned hfinal, List.append_nil,
        List.singleton_append]

/-! ## Searches -/

theorem Trail.answered (hl : l.FetchedBy fetch) (trail : Trail fetch walk t pages last) :
    Answered t := by
  refine trail.forall_mem fun start u page hfetch ↦ ?_
  rw [hl.eq_of_returned hfetch]
  exact answered_singleton

theorem answered_of_find_returned (hl : l.FetchedBy fetch) {limit : Nat} {found : Option α}
    (h : (find fetch test limit walk).Runs t (.returned found)) : Answered t := by
  have hrun := findRun_of_runs h
  generalize ho : Outcome.returned found = o at hrun
  cases hrun with
  | found trail => exact trail.answered hl
  | absent trail => exact trail.answered hl
  | aborted => exact absurd ho.symm (Outcome.aborted_ne_returned _ _)
  | cutOff => cases ho

/-- A search that gives nothing could not fetch a page, the listing repeated a cursor, or its bound cut
it off. -/
theorem find_aborted_cases (hl : l.FetchedBy fetch) {limit : Nat} {abort : Option Fault}
    (h : (find fetch test limit .start).Runs t (.aborted abort)) :
    (∃ before start cause, Answered before ∧ t = before ++ [⟨l.call start, .error cause⟩] ∧
        abort = some cause.inWalk) ∨
      (∃ cursor, Answered t ∧ l.Repeats t cursor ∧ abort = some (.cursorRepeated cursor)) ∨
      (Answered t ∧ abort = none) := by
  have hrun := findRun_of_runs h
  generalize ho : (Outcome.aborted abort : Outcome (Option α)) = o at hrun
  cases hrun with
  | found => exact absurd ho (Outcome.aborted_ne_returned _ _)
  | absent => exact absurd ho (Outcome.aborted_ne_returned _ _)
  | @aborted t₁ t₂ pages last abort' trail hbefore hnext =>
    cases Outcome.aborted_inj.mp ho
    rcases abort_of_runs_next hnext with
      ⟨start, inner, rfl, hfetch⟩ | ⟨next, seen, c, rfl, hc, hmem, rfl, habort⟩
    · obtain ⟨cause, rfl, rfl⟩ := hl.eq_of_aborted hfetch
      exact .inl ⟨t₁, start, cause, trail.answered hl, rfl, rfl⟩
    · rw [List.append_nil]
      exact .inr (.inl ⟨c, trail.answered hl, trail.repeats hl hc hmem, habort⟩)
  | cutOff trail =>
    cases abort <;> cases ho
    exact .inr (.inr ⟨trail.answered hl, rfl⟩)

theorem not_runs_fetch_exhausted (hl : l.FetchedBy fetch) {start : Option String} :
    ¬(fetch start).Runs t .exhausted := by
  intro h
  have haborted : (fetch start).Runs t (.aborted none) := h
  obtain ⟨_, hcause, _⟩ := hl.eq_of_aborted haborted
  cases hcause

/-- A search that is cut off has fetched as many pages as its bound allows. -/
theorem length_of_find_exhausted {limit : Nat}
    (hfetch : ∀ start u page, (fetch start).Runs u (.returned page) → u ≠ [])
    (hend : ∀ start u, ¬(fetch start).Runs u .exhausted)
    (h : (find fetch test limit walk).Runs t .exhausted) : limit ≤ t.length := by
  induction limit generalizing walk t with
  | zero => exact Nat.zero_le _
  | succ limit ih =>
    have haborted : (find fetch test (limit + 1) walk).Runs t (.aborted none) := h
    rcases runs_bind_aborted_iff.mp haborted with
      ⟨t₁, ⟨found, onward⟩, t₂, rfl, hnext, hrest⟩ | hnext
    · cases found with
      | none => cases (runs_done_iff.mp hrest).2
      | some page =>
        have hfirst : t₁ ≠ [] := hfetch _ _ _ (fetch_of_runs_next hnext).1
        have hcalls : 0 < t₁.length := List.length_pos_iff.mpr hfirst
        cases hitem : page.items.find? test with
        | some item =>
          simp only [hitem] at hrest
          cases (runs_done_iff.mp hrest).2
        | none =>
          simp only [hitem] at hrest
          have hlater : limit ≤ t₂.length := ih hrest
          rw [List.length_append]
          omega
    · rcases abort_of_runs_next hnext with
        ⟨start, inner, hinner, hstart⟩ | ⟨_, _, _, _, _, _, _, habort⟩
      · cases inner <;> cases hinner
        exact absurd hstart (hend _ _)
      · cases habort

end Walk

end VpcMachines
