import Mathlib.Algebra.GroupWithZero.Nat
import VpcMachines.Proofs.Listing.Sights

/-!
# Walks that are left and taken up again

Whoever takes only some values from a walk sees the front of what an uninterrupted walk shows, up to the
last value that was asked for, and neither a fault nor a fetch behind it. Whoever goes on later sees what
follows (`lazy_walk_shows_front`). One look for the next page shows the first part of what is seen from
there, and the rest is taken behind this front. Nothing is asked of the listing, which may answer as it
likes.
-/

namespace VpcMachines

open Program
open Walk (Ending)

namespace Paging

variable {α β σ ω : Type} {limit more pages used before : ℕ} {sights front rest shown : List (Sight α β)}
  {listing : Handler (Paging α) σ}

/-- What a run shows that takes at most `limit` values of a walk: the first values of the walk, and the
fetches in front of the last of them. It sees how the walk ends only if these are too few. -/
structure ShowsFront (limit : ℕ) (sights : List (Sight α β)) (t : List (Event (Paging α)))
    (taken : List β) (ending : Ending ω) : Prop where
  taken_eq : taken = (values sights).take limit
  fetches_eq : t = fetches (upTo limit sights)
  paused_iff : (∃ walk, ending = .paused walk) ↔ taken.length = limit
  finished_iff : ending = .finished ↔ taken.length < limit ∧ sights.getLast? = some .finished
  failed_iff : ∀ fault,
    ending = .failed fault ↔ taken.length < limit ∧ sights.getLast? = some (.failed fault)

/-! ## Taking values -/

/-- What a walk that shows `sights` has shown when `limit` values were taken, at most, on at most `pages`
pages, and how that ended. -/
inductive Takes {ω : Type} (sights : ω → σ → ℕ → List (Sight α β)) (limit pages : ℕ) (walk : ω) (s : σ)
    (shown : List (Sight α β)) : Ending ω → σ → Prop
  | paused (used : ℕ) (walk' : ω) (s' : σ) (hused : used ≤ pages) (hstops : Stops limit shown)
      (hopen : ¬Ended shown) (hrest : ∀ n, sights walk s (used + n) = shown ++ sights walk' s' n) :
      Takes sights limit pages walk s shown (.paused walk') s'
  | ended (used : ℕ) (last : Sight α β) (ending : Ending ω) (s' : σ) (hused : used ≤ pages)
      (hfew : (values shown).length < limit) (hlast : shown.getLast? = some last)
      (hending : last.ending? = some ending) (hall : ∀ n, sights walk s (used + n) = shown) :
      Takes sights limit pages walk s shown ending s'

variable {sightsOf : ω → σ → ℕ → List (Sight α β)} {onward onward' : ω} {s s' s'' : σ}
  {ending : Ending ω}

/-- What is taken behind a front is taken with it. -/
theorem Takes.behind (h : Takes sightsOf more pages onward' s' shown ending s'')
    (hused : used ≤ before) (hfront : 0 < more ∨ upTo (values front).length front = front)
    (hopen : ¬Ended front)
    (hsights : ∀ n, sightsOf onward s (used + n) = front ++ sightsOf onward' s' n) :
    Takes sightsOf ((values front).length + more) (before + pages) onward s (front ++ shown) ending
      s'' := by
  have hupTo := upTo_append front shown more hfront
  cases h with
  | paused usedLater onward'' _ hlater hstops hopen' hrest =>
    refine .paused (used + usedLater) _ _ (Nat.add_le_add hused hlater) ⟨?_, ?_⟩
      (not_ended_append hopen hopen') fun n ↦ ?_
    · rw [values_append, List.length_append, hstops.count]
    · rw [hupTo, hstops.upTo_eq]
    · rw [Nat.add_assoc, hsights, hrest, List.append_assoc]
  | ended usedLater last _ _ hlater hfew hlast hending hall =>
    refine .ended (used + usedLater) last _ _ (Nat.add_le_add hused hlater) ?_ ?_ hending fun n ↦ ?_
    · rw [values_append, List.length_append]
      exact Nat.add_lt_add_left hfew _
    · rw [List.getLast?_append, hlast, Option.some_or]
    · rw [Nat.add_assoc, hsights, hall]

theorem Takes.showsFront {n : ℕ} (h : Takes sightsOf limit pages onward s shown ending s')
    (hn : pages ≤ n) :
    ShowsFront limit (sightsOf onward s n) (fetches shown) (values shown) ending := by
  cases h with
  | paused used onward' _ hused hstops hopen hrest =>
    obtain ⟨left, rfl⟩ := Nat.exists_eq_add_of_le (hused.trans hn)
    have hcount := hstops.count
    rw [hrest]
    refine ⟨?_, ?_, ?_, ?_, fun fault ↦ ?_⟩
    · rw [values_append, ← hcount, List.take_left]
    · rw [hstops.upTo_append]
    · exact iff_of_true ⟨_, rfl⟩ hcount
    · exact iff_of_false nofun fun h ↦ absurd hcount h.1.ne
    · exact iff_of_false nofun fun h ↦ absurd hcount h.1.ne
  | ended used last _ _ hused hfew hlast hending hall =>
    obtain ⟨left, rfl⟩ := Nat.exists_eq_add_of_le (hused.trans hn)
    rw [hall]
    refine ⟨?_, ?_, ?_, ?_, fun fault ↦ ?_⟩
    · rw [List.take_of_length_le hfew.le]
    · rw [upTo_of_length_lt hfew]
    · refine iff_of_false ?_ hfew.ne
      rintro ⟨onward', rfl⟩
      cases last <;> cases hending
    · rw [hlast]
      cases last <;> cases hending <;> simp [hfew]
    · rw [hlast]
      cases last <;> cases hending <;> simp [hfew, eq_comm]

theorem Takes.inSight {n : ℕ} (h : Takes sightsOf limit pages onward s shown ending s')
    (hn : pages ≤ n) : InSight limit (sightsOf onward s n) := by
  cases h with
  | paused used onward' _ hused hstops hopen hrest =>
    obtain ⟨left, rfl⟩ := Nat.exists_eq_add_of_le (hused.trans hn)
    rw [hrest, InSight, values_append, List.length_append, hstops.count]
    exact .inl (Nat.le_add_right limit _)
  | ended used last _ _ hused hfew hlast hending hall =>
    obtain ⟨left, rfl⟩ := Nat.exists_eq_add_of_le (hused.trans hn)
    rw [hall]
    have hmem := List.mem_of_getLast? hlast
    cases last <;> cases hending
    · exact .inr (.inl hmem)
    · exact .inr (.inr ⟨_, hmem⟩)

/-- What lies behind the values that are wanted, or behind the end, does not matter. -/
theorem ShowsFront.of_inSight {t : List (Event (Paging α))} {taken : List β}
    (h : ShowsFront limit (front ++ rest) t taken ending) (hsight : InSight limit front)
    (hend : Ended front → rest = []) : ShowsFront limit front t taken ending := by
  rcases hsight with hcount | hended
  · have htaken : taken = (values front).take limit := by
      rw [h.taken_eq, values_append, List.take_append_of_le_length hcount]
    have hlength : taken.length = limit := by rw [htaken, List.length_take_of_le hcount]
    refine ⟨htaken, ?_, h.paused_iff, ?_, fun fault ↦ ?_⟩
    · rw [h.fetches_eq, upTo_append_of_le hcount]
    · exact iff_of_false (fun hfinished ↦ (h.finished_iff.mp hfinished).1.ne hlength)
        fun hfew ↦ hfew.1.ne hlength
    · exact iff_of_false (fun hfailed ↦ ((h.failed_iff fault).mp hfailed).1.ne hlength)
        fun hfew ↦ hfew.1.ne hlength
  · rwa [hend hended, List.append_nil] at h

/-- The program takes values of the walk, and its fetches are those that are shown up to the last. -/
def Taken (listing : Handler (Paging α) σ) (p : Program (Paging α) (List β × Ending ω))
    (sightsOf : ω → σ → ℕ → List (Sight α β)) (limit pages : ℕ) (onward : ω) (s : σ) : Prop :=
  ∃ shown ending s', RunsTo listing p s (fetches shown) (.returned (values shown, ending)) s' ∧
    Takes sightsOf limit pages onward s shown ending s'

/-- A look that ends the walk, behind values that were held. -/
theorem taken_of_end (held : List β) {p : Program (Paging α) (List β × Ending ω)}
    {answer : Except Fault (Option (Page α) × Walk)} {last : Sight α β}
    {fetched : List (Event (Paging α))} (run : RunsTo listing p s fetched (.returned (held, ending)) s')
    (hlast : Ends answer last) (hending : last.ending? = some ending)
    (hfetched : fetched.length ≤ pages) (hfew : held.length < limit)
    (hsights : ∀ n, sightsOf onward s (fetched.length + n) =
      held.map .given ++ (fetched.map .fetched ++ [last])) :
    Taken listing p sightsOf limit pages onward s := by
  have hnone : values [last] = [] ∧ fetches [last] = [] := by cases hlast <;> exact ⟨rfl, rfl⟩
  have hvalues : values (held.map .given ++ (fetched.map .fetched ++ [last])) = held := by
    simp [hnone.1]
  have hfetches : fetches (held.map .given ++ (fetched.map .fetched ++ [last])) = fetched := by
    simp [hnone.2]
  refine ⟨_, ending, s', ?_, .ended fetched.length last _ _ hfetched ?_ ?_ hending hsights⟩
  · rwa [hvalues, hfetches]
  · rwa [hvalues]
  · rw [← List.append_assoc, List.getLast?_concat]

/-- A program that gives what a front shows and goes on as one that takes values behind it. -/
theorem Taken.behind {p p' : Program (Paging α) (List β × Ending ω)} {total : ℕ}
    (h : Taken listing p' sightsOf more pages onward' s') (front : List (Sight α β)) (used : ℕ)
    (hrun : ∀ {t : List (Event (Paging α))} {taken : List β} {ending : Ending ω} {s'' : σ},
      RunsTo listing p' s' t (.returned (taken, ending)) s'' →
        RunsTo listing p s (fetches front ++ t) (.returned (values front ++ taken, ending)) s'')
    (hused : used ≤ before) (hfront : 0 < more ∨ upTo (values front).length front = front)
    (hopen : ¬Ended front)
    (hsights : ∀ n, sightsOf onward s (used + n) = front ++ sightsOf onward' s' n)
    (hlimit : (values front).length + more = limit) (htotal : before + pages = total) :
    Taken listing p sightsOf limit total onward s := by
  subst hlimit htotal
  obtain ⟨shown, ending, s'', hrun', htakes⟩ := h
  refine ⟨front ++ shown, ending, s'', ?_, htakes.behind hused hfront hopen hsights⟩
  rw [fetches_append, values_append]
  exact hrun hrun'

/-! ## Taking pages -/

def pageSights (listing : Handler (Paging α) σ) (walk : Walk) (s : σ) (pages : ℕ) :
    List (Sight α (Page α)) :=
  sightsFrom (fun page ↦ [page]) listing pages walk s

theorem taken_pages (listing : Handler (Paging α) σ) (limit : ℕ) (walk : Walk) (s : σ) :
    Taken listing (walk.takePages fetch limit) (pageSights listing) limit limit walk s := by
  induction limit generalizing walk s with
  | zero =>
    refine ⟨[], .paused walk, s, .pure _, .paused 0 walk s le_rfl ⟨rfl, rfl⟩ ?_ fun n ↦ ?_⟩
    · simp [Ended]
    · rw [Nat.zero_add, List.nil_append]
  | succ limit ih =>
    cases look (fun page ↦ [page]) listing walk s with
    | ends answer last fetched s' run hlast hfetched sights_eq =>
      have hpages : fetched.length ≤ limit + 1 := hfetched.trans (Nat.succ_pos limit)
      cases hlast with
      | finished =>
        exact taken_of_end [] (run.bind_done rfl) .finished rfl hpages
          (Nat.succ_pos limit) sights_eq
      | failed fault =>
        exact taken_of_end [] (run.bind_done rfl) (.failed fault) rfl hpages
          (Nat.succ_pos limit) sights_eq
    | page e page behind s' run unseen sights_eq =>
      exact (ih behind s').behind [.fetched e, .given page] 1
        (fun hrest ↦ run.bind (hrest.bind_done rfl)) le_rfl (.inr rfl) (by simp [Ended])
        (fun n ↦ Nat.add_comm n 1 ▸ sights_eq n) (Nat.add_comm 1 limit) (Nat.add_comm 1 limit)

/-! ## Taking items -/

def itemSights (listing : Handler (Paging α) σ) (walk : ItemWalk α) (s : σ) (pages : ℕ) :
    List (Sight α α) :=
  walk.held.map .given ++ sightsFrom Page.items listing pages walk.walk s

/-- As many items as are held are taken without a look at the walk. -/
theorem taken_held (listing : Handler (Paging α) σ) (pages : ℕ) (walk : ItemWalk α) (s : σ)
    (henough : limit ≤ walk.held.length) :
    Taken listing (walk.take fetch pages limit) (itemSights listing) limit pages walk s := by
  have hstops : Stops limit ((walk.held.take limit).map (.given : α → Sight α α)) := by
    have hgiven := stops_given (α := α) (walk.held.take limit)
    rwa [List.length_take_of_le henough] at hgiven
  have htake : walk.take (fetch (α := α)) pages limit =
      return (walk.held.take limit, .paused ⟨walk.held.drop limit, walk.walk⟩) := by
    cases pages <;> rw [ItemWalk.take, if_pos henough]
  refine ⟨_, .paused ⟨walk.held.drop limit, walk.walk⟩, s, ?_,
    .paused 0 _ s (Nat.zero_le _) hstops (not_ended_given _) fun n ↦ ?_⟩
  · rw [htake, fetches_map_given, values_map_given]
    exact .pure _
  · rw [Nat.zero_add, itemSights, itemSights, ← List.append_assoc, ← List.map_append,
      List.take_append_drop]

/-- Items are taken, or the walk is exhausted, because it gives too few of them on so many pages. -/
theorem taken_items (listing : Handler (Paging α) σ) (pages limit : ℕ) (walk : ItemWalk α) (s : σ) :
    Taken listing (walk.take fetch pages limit) (itemSights listing) limit pages walk s ∨
      (∃ s', RunsTo listing (walk.take fetch pages limit) s (fetches (itemSights listing walk s pages))
          .exhausted s') ∧
        ∀ n < pages, ¬InSight limit (itemSights listing walk s n) := by
  induction pages generalizing limit walk s with
  | zero =>
    by_cases henough : limit ≤ walk.held.length
    · exact .inl (taken_held listing 0 walk s henough)
    · refine .inr ⟨⟨s, ?_⟩, fun n hn ↦ absurd hn (Nat.not_lt_zero n)⟩
      rw [ItemWalk.take, if_neg henough, itemSights, fetches_append, fetches_map_given,
        fetches_sightsFrom_zero, List.append_nil]
      exact .exhausted
  | succ pages ih =>
    by_cases henough : limit ≤ walk.held.length
    · exact .inl (taken_held listing (pages + 1) walk s henough)
    have hfew : walk.held.length < limit := not_le.mp henough
    rw [ItemWalk.take, if_neg henough]
    obtain ⟨held, walk⟩ := walk
    cases look Page.items listing walk s with
    | ends answer last fetched s' run hlast hfetched sights_eq =>
      have hpages : fetched.length ≤ pages + 1 := hfetched.trans (Nat.succ_pos pages)
      have hsights : ∀ n, itemSights listing ⟨held, walk⟩ s (fetched.length + n) =
          held.map .given ++ (fetched.map .fetched ++ [last]) :=
        fun n ↦ congrArg (held.map (.given : α → Sight α α) ++ ·) (sights_eq n)
      cases hlast with
      | finished => exact .inl (taken_of_end held (run.bind_done rfl) .finished rfl hpages hfew hsights)
      | failed fault =>
        exact .inl (taken_of_end held (run.bind_done rfl) (.failed fault) rfl hpages hfew hsights)
    | page e page behind s' run unseen sights_eq =>
      obtain ⟨more, rfl⟩ := Nat.exists_eq_add_of_le hfew.le
      have hmore : 0 < more := Nat.pos_of_lt_add_right hfew
      let front : List (Sight α α) := held.map .given ++ [.fetched e]
      have hvalues : values front = held := by
        rw [values_append, values_map_given]
        exact List.append_nil held
      have hfetches : fetches front = [e] := by
        rw [fetches_append, fetches_map_given]
        rfl
      have hopen : ¬Ended front := not_ended_append (not_ended_given held) (not_ended_fetched e)
      have hsights : ∀ n, itemSights listing ⟨held, walk⟩ s (n + 1) =
          front ++ itemSights listing ⟨page.items, behind⟩ s' n := by
        intro n
        rw [itemSights, sights_eq, List.append_assoc]
        rfl
      rw [Nat.add_sub_cancel_left]
      rcases ih more ⟨page.items, behind⟩ s' with htaken | ⟨⟨s'', hrun⟩, hshort⟩
      · refine .inl ?_
        refine htaken.behind front 1 (fun hrest ↦ ?_) le_rfl (.inl hmore) hopen
          (fun n ↦ Nat.add_comm n 1 ▸ hsights n) (congrArg (·.length + more) hvalues)
          (Nat.add_comm 1 pages)
        rw [hvalues, hfetches]
        exact run.bind (hrest.bind_done rfl)
      · refine .inr ⟨⟨s'', ?_⟩, ?_⟩
        · rw [hsights, fetches_append, hfetches]
          exact run.bind hrun.bind_exhausted
        · rintro (_ | n) hn hseen
          · rw [itemSights, unseen] at hseen
            rcases (inSight_append (congrArg List.length (values_map_given held))).mp hseen with
              hend | hnone
            · exact not_ended_given held hend
            · simp [InSight, Ended, values, hmore.ne'] at hnone
          · rw [hsights] at hseen
            exact hshort n (Nat.lt_of_succ_lt_succ hn) (((inSight_append
              (congrArg List.length hvalues)).mp hseen).resolve_left hopen)

/-! ## Leaving a walk and going on -/

/-- Values are taken in several turns, each of which goes on where the one before left the walk. -/
def inTurns {I : Interface} (take : ℕ → ω → Program I (List β × Ending ω)) :
    List ℕ → ω → Program I (List β × Ending ω)
  | [], walk => return ([], .paused walk)
  | limit :: limits, walk => do
    match ← take limit walk with
    | (taken, .paused walk) =>
      let (others, ending) ← inTurns take limits walk
      return (taken ++ others, ending)
    | halted => return halted

/-- Several turns take what one turn takes that has all their limits together. `Reach` says for how many
values a walk is long enough, where it may be exhausted. -/
theorem taken_inTurns {take : ℕ → ω → Program (Paging α) (List β × Ending ω)} (cost : ℕ → ℕ)
    (Reach : ℕ → ω → σ → Prop)
    (htake : ∀ limit walk s, Reach limit walk s →
      Taken listing (take limit walk) sightsOf limit (cost limit) walk s)
    (hless : ∀ limit more walk s, Reach (limit + more) walk s → Reach limit walk s)
    (honward : ∀ limit more walk s used shown walk' s', Reach (limit + more) walk s →
      Stops limit shown → ¬Ended shown →
      (∀ n, sightsOf walk s (used + n) = shown ++ sightsOf walk' s' n) → Reach more walk' s')
    (limits : List ℕ) (walk : ω) (s : σ) (hreach : Reach limits.sum walk s) :
    Taken listing (inTurns take limits walk) sightsOf limits.sum (limits.map cost).sum walk s := by
  induction limits generalizing walk s with
  | nil =>
    refine ⟨[], .paused walk, s, .pure _, .paused 0 walk s le_rfl ⟨rfl, rfl⟩ ?_ fun n ↦ ?_⟩
    · simp [Ended]
    · rw [Nat.zero_add, List.nil_append]
  | cons limit limits ih =>
    rw [List.sum_cons] at hreach
    rw [List.sum_cons, List.map_cons, List.sum_cons]
    obtain ⟨shown, ending, s', hrun, htakes⟩ := htake limit walk s (hless _ _ _ _ hreach)
    cases htakes with
    | paused used walk' _ hused hstops hopen hrest =>
      have hlater := ih walk' s' (honward _ _ _ _ _ _ _ _ hreach hstops hopen hrest)
      exact hlater.behind shown used (fun hothers ↦ hrun.bind (hothers.bind_done rfl)) hused
        (.inr (hstops.count.symm ▸ hstops.upTo_eq)) hopen hrest
        (congrArg (· + limits.sum) hstops.count) rfl
    | ended used last _ _ hused hfew hlast hending hall =>
      refine ⟨shown, ending, s', hrun.bind_done ?_, .ended used last _ _ (Nat.le_add_right_of_le hused)
        (Nat.lt_add_right _ hfew) hlast hending hall⟩
      cases last <;> cases hending <;> rfl

/-! ## The main result -/

/-- The program, on its own listing, shows the front of what an uninterrupted walk shows. -/
def Shows (listing : Handler (Paging α) σ) (p : Program (Paging α) (List β × Ending ω)) (s : σ)
    (limit : ℕ) (sights : List (Sight α β)) : Prop :=
  ∃ t taken ending s', RunsTo listing p s t (.returned (taken, ending)) s' ∧
    ShowsFront limit sights t taken ending

theorem Taken.shows {p : Program (Paging α) (List β × Ending ω)} {n : ℕ}
    (h : Taken listing p sightsOf limit pages onward s) (hn : pages ≤ n) :
    Shows listing p s limit (sightsOf onward s n) := by
  obtain ⟨shown, ending, s', hrun, htakes⟩ := h
  exact ⟨_, _, _, s', hrun, htakes.showsFront hn⟩

theorem itemSights_add (listing : Handler (Paging α) σ) (walk : ItemWalk α) (s : σ)
    (pages more : ℕ) :
    ∃ later, itemSights listing walk s (pages + more) = itemSights listing walk s pages ++ later ∧
      (Ended (itemSights listing walk s pages) → later = []) := by
  obtain ⟨later, hlater, hended⟩ := sightsFrom_add Page.items listing pages more walk.walk s
  refine ⟨later, ?_, fun hend ↦ hended ?_⟩
  · rw [itemSights, hlater, itemSights, List.append_assoc]
  · by_contra hopen
    exact not_ended_append (not_ended_given walk.held) hopen hend

theorem Taken.shows_items {p : Program (Paging α) (List α × Ending (ItemWalk α))} {n : ℕ}
    {walk : ItemWalk α} (h : Taken listing p (itemSights listing) limit pages walk s)
    (hsight : InSight limit (itemSights listing walk s n)) :
    Shows listing p s limit (itemSights listing walk s n) := by
  obtain ⟨t, taken, ending, s', hrun, hshows⟩ := h.shows (Nat.le_add_left pages n)
  obtain ⟨later, hlater, hended⟩ := itemSights_add listing walk s n pages
  rw [hlater] at hshows
  exact ⟨t, taken, ending, s', hrun, hshows.of_inSight hsight hended⟩

/-- So many items are in sight on so many pages. -/
theorem taken_items_of_inSight {bound n : ℕ} (hbound : n < bound) (limit : ℕ) (walk : ItemWalk α)
    (s : σ) (hsight : InSight limit (itemSights listing walk s n)) :
    Taken listing (walk.take fetch bound limit) (itemSights listing) limit bound walk s := by
  rcases taken_items listing bound limit walk s with htaken | ⟨-, hshort⟩
  · exact htaken
  · exact absurd hsight (hshort n hbound)

theorem inSight_behind {walk walk' : ItemWalk α} {n : ℕ} {shown : List (Sight α α)}
    (hsight : InSight (limit + more) (itemSights listing walk s n)) (hstops : Stops limit shown)
    (hopen : ¬Ended shown)
    (hrest : ∀ n, itemSights listing walk s (used + n) = shown ++ itemSights listing walk' s' n) :
    InSight more (itemSights listing walk' s' n) := by
  obtain ⟨later, hlater, -⟩ := itemSights_add listing walk s n used
  have hfar : InSight (limit + more) (itemSights listing walk s (used + n)) := by
    rw [Nat.add_comm used, hlater]
    exact hsight.append
  rw [hrest] at hfar
  exact ((inSight_append hstops.count).mp hfar).resolve_left hopen

/-- Pages, and items, that are taken from a walk, at once or in turns, are the front of what the
uninterrupted walk shows, however far it is followed. Taking items ends unless the walk goes on and on
without them. -/
theorem lazy_walk_shows_front (listing : Handler (Paging α) σ) (s : σ) :
    let pagesTo := fun pages ↦ wholeWalk (fun page ↦ [page]) listing pages [] none s
    let itemsTo := fun pages ↦ wholeWalk Page.items listing pages [] none s
    (∀ limit pages, limit ≤ pages →
      Shows listing (Walk.takePages fetch limit .start) s limit (pagesTo pages)) ∧
    (∀ limits pages, limits.sum ≤ pages →
      Shows listing (inTurns (Walk.takePages fetch) limits .start) s limits.sum (pagesTo pages)) ∧
    (∀ limit pages bound, InSight limit (itemsTo pages) → pages < bound →
      Shows listing (ItemWalk.take fetch bound limit .start) s limit (itemsTo pages)) ∧
    (∀ limits pages bound, InSight limits.sum (itemsTo pages) → pages < bound →
      Shows listing (inTurns (ItemWalk.take fetch bound) limits .start) s limits.sum
        (itemsTo pages)) ∧
    (∀ limit pages bound, ¬InSight limit (itemsTo pages) → bound ≤ pages →
      ∃ s', RunsTo listing (ItemWalk.take fetch bound limit .start) s (fetches (itemsTo bound))
        .exhausted s') ∧
    ∀ pages more, pagesTo pages <+: pagesTo (pages + more) ∧
      itemsTo pages <+: itemsTo (pages + more) := by
  intro pagesTo itemsTo
  refine ⟨fun limit pages hpages ↦ ?_, fun limits pages hpages ↦ ?_,
    fun limit pages bound hsight hbound ↦ ?_, fun limits pages bound hsight hbound ↦ ?_,
    fun limit pages bound hshort hbound ↦ ?_, fun pages more ↦ ⟨?_, ?_⟩⟩
  · exact (taken_pages listing limit .start s).shows hpages
  · have htaken := taken_inTurns id (fun _ _ _ ↦ True)
      (fun limit walk s _ ↦ taken_pages listing limit walk s) (fun _ _ _ _ h ↦ h)
      (fun _ _ _ _ _ _ _ _ h _ _ _ ↦ h) limits .start s trivial
    rw [List.map_id] at htaken
    exact htaken.shows hpages
  · exact (taken_items_of_inSight hbound limit .start s hsight).shows_items hsight
  · have htaken := taken_inTurns (fun _ ↦ bound)
      (fun limit walk s ↦ InSight limit (itemSights listing walk s pages))
      (taken_items_of_inSight hbound) (fun _ _ _ _ ↦ InSight.of_add)
      (fun _ _ _ _ _ _ _ _ ↦ inSight_behind) limits .start s hsight
    exact htaken.shows_items hsight
  · rcases taken_items listing bound limit .start s with htaken | ⟨hrun, -⟩
    · obtain ⟨shown, ending, s', -, htakes⟩ := htaken
      exact absurd (htakes.inSight hbound) hshort
    · exact hrun
  · obtain ⟨later, hlater, -⟩ := sightsFrom_add (fun page ↦ [page]) listing pages more .start s
    exact ⟨later, hlater.symm⟩
  · obtain ⟨later, hlater, -⟩ := sightsFrom_add Page.items listing pages more .start s
    exact ⟨later, hlater.symm⟩

/-- Behind two full pages with an empty one between them, the last one leads back to the second. -/
def leadingBack : Handler (Paging String) Unit where
  answer start s :=
    (match start with
      | none => .ok ⟨["a", "b"], some "2"⟩
      | some "2" => .ok ⟨[], some "3"⟩
      | some "3" => .ok ⟨["c", "d"], some "2"⟩
      | some _ => .error .unimplemented, s)

theorem leading_back_not_seen_before_all_items :
    let pagesTo := fun pages ↦ wholeWalk (fun page ↦ [page]) leadingBack pages [] none ()
    let itemsTo := fun pages ↦ wholeWalk Page.items leadingBack pages [] none ()
    let takePages := Walk.takePages (fetch (α := String))
    let take := ItemWalk.take (fetch (α := String))
    fetches (upTo 2 (itemsTo 3)) = [⟨none, .ok ⟨["a", "b"], some "2"⟩⟩] ∧
      (itemsTo 3).getLast? = some (.failed (.cursorRepeated "2")) ∧
      Shows leadingBack (take 4 2 .start) () 2 (itemsTo 3) ∧
      Shows leadingBack (take 4 5 .start) () 5 (itemsTo 3) ∧
      Shows leadingBack (inTurns (take 4) [1, 3] .start) () 4 (itemsTo 3) ∧
      Shows leadingBack (takePages 3 .start) () 3 (pagesTo 3) ∧
      Shows leadingBack (inTurns takePages [1, 1] .start) () 2 (pagesTo 3) ∧
      ∃ s', RunsTo leadingBack (take 2 3 .start) () (fetches (itemsTo 2)) .exhausted s' := by
  intro pagesTo itemsTo takePages take
  obtain ⟨hpages, hpageTurns, hitems, hitemTurns, hexhausted, -⟩ :=
    lazy_walk_shows_front leadingBack ()
  have hlast : (itemsTo 3).getLast? = some (.failed (.cursorRepeated "2")) := rfl
  have hall : ∀ limit, InSight limit (itemsTo 3) :=
    fun limit ↦ .inr (.inr ⟨_, List.mem_of_getLast? hlast⟩)
  have hshort : ¬InSight 3 (itemsTo 2) := by
    have hshown : itemsTo 2 = [.fetched ⟨none, .ok ⟨["a", "b"], some "2"⟩⟩, .given "a", .given "b",
        .fetched ⟨some "2", .ok ⟨[], some "3"⟩⟩] := rfl
    have hopen : ¬Ended (itemsTo 2) := by
      rw [hshown]
      simp [Ended]
    exact not_or.mpr ⟨show ¬3 ≤ 2 by decide, hopen⟩
  exact ⟨rfl, hlast, hitems 2 3 4 (hall 2) (by decide), hitems 5 3 4 (hall 5) (by decide),
    hitemTurns [1, 3] 3 4 (hall 4) (by decide), hpages 3 3 le_rfl, hpageTurns [1, 1] 3 (by decide),
    hexhausted 3 2 2 hshort le_rfl⟩

end Paging

end VpcMachines
