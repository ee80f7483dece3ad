import VpcMachines.Proofs.Listing.Pages
import VpcMachines.Proofs.Running

/-!
# What an uninterrupted walk shows

An uninterrupted walk shows the fetches that it makes and the values that it gives, in their order, and
then how it ends, unless it has no end. Values are pages or items. What is seen of a walk from where it
stands is read off one look for the next page, and what is seen on more pages goes on from what is seen
on fewer (`sightsFrom_add`).
-/

namespace VpcMachines

open Program
open Walk (Ending)

namespace Paging

/-! ## What is seen of a walk -/

inductive Sight (α β : Type) where
  | fetched (e : Event (Paging α))
  | given (value : β)
  | finished
  | failed (fault : Fault)

namespace Sight

variable {α β ω : Type}

def fetch? : Sight α β → Option (Event (Paging α))
  | fetched e => some e
  | _ => none

def value? : Sight α β → Option β
  | given value => some value
  | _ => none

/-- How a walk ends that shows this, if it ends there. -/
def ending? : Sight α β → Option (Ending ω)
  | finished => some .finished
  | failed fault => some (.failed fault)
  | _ => none

end Sight

variable {α β σ ω : Type} {limit more pages : ℕ} {sights front rest shown : List (Sight α β)}

def fetches (sights : List (Sight α β)) : List (Event (Paging α)) := sights.filterMap Sight.fetch?

def values (sights : List (Sight α β)) : List β := sights.filterMap Sight.value?

/-- What is seen until so many values are given. -/
def upTo : ℕ → List (Sight α β) → List (Sight α β)
  | 0, _ => []
  | _ + 1, [] => []
  | limit + 1, .given value :: rest => .given value :: upTo limit rest
  | limit + 1, sight :: rest => sight :: upTo (limit + 1) rest

/-- What an uninterrupted walk shows on at most `pages` pages. It fetches a page, gives what is on it, and
goes on by its cursor, unless an earlier page was fetched by that. -/
def wholeWalk (give : Page α → List β) (listing : Handler (Paging α) σ) :
    (pages : ℕ) → (seen : List String) → (start : Option String) → σ → List (Sight α β)
  | 0, _, _, _ => []
  | pages + 1, seen, start, s =>
    let (answer, s) := listing.answer start s
    .fetched ⟨start, answer⟩ ::
      match answer with
      | .error fault => [.failed fault.inWalk]
      | .ok page =>
        (give page).map .given ++
          match filled page.next with
          | none => [.finished]
          | some cursor =>
            if cursor ∈ seen then [.failed (.cursorRepeated cursor)]
            else wholeWalk give listing pages (cursor :: seen) (some cursor) s

/-- What there is to see from where a walk stands. -/
def sightsFrom (give : Page α → List β) (listing : Handler (Paging α) σ) (pages : ℕ) :
    Walk → σ → List (Sight α β)
  | .start, s => wholeWalk give listing pages [] none s
  | .behind next seen, s =>
    match filled next with
    | none => [.finished]
    | some cursor =>
      if cursor ∈ seen then [.failed (.cursorRepeated cursor)]
      else wholeWalk give listing pages (cursor :: seen) (some cursor) s
  | .ended, _ => [.finished]

/-- The end of the walk is shown. -/
def Ended (sights : List (Sight α β)) : Prop := .finished ∈ sights ∨ ∃ fault, .failed fault ∈ sights

/-- So many values are in sight, or the end. -/
def InSight (limit : ℕ) (sights : List (Sight α β)) : Prop :=
  limit ≤ (values sights).length ∨ Ended sights

/-- Exactly so many values are shown, and nothing behind the last. -/
structure Stops (limit : ℕ) (shown : List (Sight α β)) : Prop where
  count : (values shown).length = limit
  upTo_eq : upTo limit shown = shown

@[simp]
theorem fetches_append : fetches (front ++ rest) = fetches front ++ fetches rest :=
  List.filterMap_append

@[simp]
theorem values_append : values (front ++ rest) = values front ++ values rest :=
  List.filterMap_append

@[simp]
theorem fetches_map_given (given : List β) : fetches (given.map (.given : β → Sight α β)) = [] := by
  induction given with
  | nil => rfl
  | cons value given ih => exact ih

@[simp]
theorem values_map_given (given : List β) : values (given.map (.given : β → Sight α β)) = given := by
  induction given with
  | nil => rfl
  | cons value given ih => exact congrArg (value :: ·) ih

@[simp]
theorem fetches_map_fetched (t : List (Event (Paging α))) :
    fetches (t.map (.fetched : _ → Sight α β)) = t := by
  induction t with
  | nil => rfl
  | cons e t ih => exact congrArg (e :: ·) ih

@[simp]
theorem values_map_fetched (t : List (Event (Paging α))) :
    values (t.map (.fetched : _ → Sight α β)) = [] := by
  induction t with
  | nil => rfl
  | cons e t ih => exact ih

theorem values_cons_of_none {sight : Sight α β} (h : sight.value? = none) :
    values (sight :: rest) = values rest :=
  List.filterMap_cons_none h

theorem upTo_cons_of_none {sight : Sight α β} (h : sight.value? = none) (hlimit : 0 < limit) :
    upTo limit (sight :: rest) = sight :: upTo limit rest := by
  obtain ⟨limit, rfl⟩ := Nat.exists_eq_add_one_of_ne_zero (Nat.ne_of_gt hlimit)
  cases sight with
  | given value => cases h
  | _ => rfl

/-- Behind a front that does not show the last value that is wanted, or that ends with it. -/
theorem upTo_append (front rest : List (Sight α β)) (more : ℕ)
    (h : 0 < more ∨ upTo (values front).length front = front) :
    upTo ((values front).length + more) (front ++ rest) = front ++ upTo more rest := by
  induction front with
  | nil => exact congrArg (upTo · rest) (Nat.zero_add more)
  | cons sight front ih =>
    cases hvalue : sight.value? with
    | some value =>
      cases sight <;> cases hvalue
      have hcount : (values (.given value :: front)).length + more =
          ((values front).length + more) + 1 := Nat.add_right_comm _ 1 _
      rw [hcount, List.cons_append, upTo, ih (h.imp_right List.tail_eq_of_cons_eq), List.cons_append]
    | none =>
      rw [values_cons_of_none hvalue] at h ⊢
      have hwanted : 0 < (values front).length ∨ 0 < more := by
        rcases h with hmore | hfront
        · exact .inr hmore
        · refine .inl (Nat.pos_of_ne_zero fun hnone ↦ ?_)
          rw [hnone] at hfront
          cases hfront
      have hfront : 0 < more ∨ upTo (values front).length front = front := by
        by_cases hmore : 0 < more
        · exact .inl hmore
        · have hvalues : 0 < (values front).length := hwanted.resolve_right hmore
          have hshown := h.resolve_left hmore
          rw [upTo_cons_of_none hvalue hvalues] at hshown
          exact .inr (List.tail_eq_of_cons_eq hshown)
      rw [List.cons_append, upTo_cons_of_none hvalue (by omega), ih hfront, List.cons_append]

theorem upTo_append_of_le (h : limit ≤ (values front).length) :
    upTo limit (front ++ rest) = upTo limit front := by
  induction front generalizing limit with
  | nil =>
    obtain rfl : limit = 0 := Nat.le_zero.mp h
    rw [upTo, upTo]
  | cons sight front ih =>
    obtain _ | limit := limit
    · rw [upTo, upTo]
    cases hvalue : sight.value? with
    | some value =>
      cases sight <;> cases hvalue
      exact congrArg (_ :: ·) (ih (Nat.le_of_succ_le_succ h))
    | none =>
      rw [values_cons_of_none hvalue] at h
      rw [List.cons_append, upTo_cons_of_none hvalue (Nat.succ_pos limit),
        upTo_cons_of_none hvalue (Nat.succ_pos limit), ih h]

theorem Stops.upTo_append (h : Stops limit shown) (rest : List (Sight α β)) :
    upTo limit (shown ++ rest) = shown := by
  obtain ⟨rfl, hupTo⟩ := h
  have hnone := Paging.upTo_append shown rest 0 (.inr hupTo)
  rw [Nat.add_zero] at hnone
  rw [hnone, upTo, List.append_nil]

theorem upTo_of_length_lt (h : (values shown).length < limit) : upTo limit shown = shown := by
  have hmore : 0 < limit - (values shown).length := Nat.sub_pos_of_lt h
  have hall := upTo_append shown [] _ (.inl hmore)
  rw [Nat.add_sub_cancel' h.le, List.append_nil] at hall
  rw [hall]
  cases limit - (values shown).length <;> exact List.append_nil _

theorem stops_given (given : List β) :
    Stops given.length (given.map (.given : β → Sight α β)) := by
  induction given with
  | nil => exact ⟨rfl, rfl⟩
  | cons value given ih => exact ⟨congrArg Nat.succ ih.count, congrArg (_ :: ·) ih.upTo_eq⟩

theorem not_ended_append (h : ¬Ended front) (h' : ¬Ended rest) : ¬Ended (front ++ rest) := by
  simp only [Ended, List.mem_append, not_or, not_exists] at h h' ⊢
  exact ⟨⟨h.1, h'.1⟩, fun fault ↦ ⟨h.2 fault, h'.2 fault⟩⟩

theorem not_ended_given (given : List β) : ¬Ended (given.map (.given : β → Sight α β)) := by
  simp [Ended]

theorem not_ended_fetched (e : Event (Paging α)) : ¬Ended [(.fetched e : Sight α β)] := by
  simp [Ended]

theorem InSight.append (h : InSight limit front) : InSight limit (front ++ rest) := by
  rw [InSight, values_append, List.length_append]
  rcases h with hcount | hdone | ⟨fault, hfailed⟩
  · exact .inl (hcount.trans (Nat.le_add_right _ _))
  · exact .inr (.inl (List.mem_append_left _ hdone))
  · exact .inr (.inr ⟨fault, List.mem_append_left _ hfailed⟩)

theorem inSight_append (hcount : (values front).length = limit) :
    InSight (limit + more) (front ++ rest) ↔ Ended front ∨ InSight more rest := by
  simp only [InSight, Ended, values_append, List.length_append, List.mem_append, hcount,
    Nat.add_le_add_iff_left, exists_or]
  tauto

theorem InSight.of_add (h : InSight (limit + more) sights) : InSight limit sights :=
  h.imp_left (Nat.le_add_right limit more).trans

/-! ## One step of a walk -/

variable {give : Page α → List β} {listing : Handler (Paging α) σ} {walk : Walk} {s : σ}

/-- What is seen last where a look for the next page ends the walk. -/
inductive Ends : Except Fault (Option (Page α) × Walk) → Sight α β → Prop where
  | finished : Ends (.ok (none, .ended)) .finished
  | failed (fault : Fault) : Ends (.error fault) (.failed fault)

/-- What a look for the next page comes to, and what is seen of the walk from there. -/
inductive Look (give : Page α → List β) (listing : Handler (Paging α) σ) (walk : Walk) (s : σ) :
    Prop where
  | ends (answer : Except Fault (Option (Page α) × Walk)) (last : Sight α β)
      (fetched : List (Event (Paging α))) (s' : σ)
      (run : RunsTo listing (walk.next fetch).observe s fetched (.returned answer) s')
      (hlast : Ends answer last) (hfetched : fetched.length ≤ 1)
      (sights_eq : ∀ pages, sightsFrom give listing (fetched.length + pages) walk s =
        fetched.map .fetched ++ [last])
  | page (e : Event (Paging α)) (page : Page α) (behind : Walk) (s' : σ)
      (run : RunsTo listing (walk.next fetch).observe s [e] (.returned (.ok (some page, behind))) s')
      (unseen : sightsFrom give listing 0 walk s = [])
      (sights_eq : ∀ pages, sightsFrom give listing (pages + 1) walk s =
        .fetched e :: ((give page).map .given ++ sightsFrom give listing pages behind s'))

/-- Where a walk looks for a page by a cursor that it has not used. -/
theorem look_of_fetch (start : Option String) (seen : List String)
    (hnext : walk.next (fetch : Walk.Fetch (Paging α) α) = Walk.fetchPage fetch start seen)
    (hsights : ∀ pages,
      sightsFrom give listing pages walk s = wholeWalk give listing pages seen start s) :
    Look give listing walk s := by
  rcases hanswer : listing.answer start s with ⟨fault | page, s'⟩
  · refine .ends (.error fault.inWalk) _ [⟨start, .error fault⟩] s' (.observe ?_)
      (.failed fault.inWalk) le_rfl fun pages ↦ ?_
    · rw [hnext]
      exact .call hanswer ⟨rfl, rfl⟩
    · rw [hsights, List.length_singleton, Nat.add_comm, wholeWalk, hanswer]
      rfl
  · refine .page ⟨start, .ok page⟩ page (.behind page.next seen) s' ?_ (hsights 0) fun pages ↦ ?_
    · have hrun : RunsTo listing (walk.next fetch) s [⟨start, .ok page⟩]
          (.ofExcept (.ok (some page, .behind page.next seen))) s' := by
        rw [hnext]
        exact .call hanswer (.pure _)
      exact hrun.observe
    · rw [hsights, wholeWalk, hanswer]
      rfl

theorem look (give : Page α → List β) (listing : Handler (Paging α) σ) (walk : Walk) (s : σ) :
    Look give listing walk s := by
  cases walk with
  | start => exact look_of_fetch none [] rfl fun _ ↦ rfl
  | behind next seen =>
    cases hcursor : filled next with
    | none =>
      refine .ends (.ok (none, .ended)) _ [] s (.observe ?_) .finished (Nat.zero_le _) fun pages ↦ ?_
      · rw [Walk.next, hcursor]
        exact .pure _
      · rw [sightsFrom, hcursor]
        rfl
    | some cursor =>
      by_cases hseen : cursor ∈ seen
      · refine .ends (.error (.cursorRepeated cursor)) _ [] s (.observe ?_) (.failed _)
          (Nat.zero_le _) fun pages ↦ ?_
        · simp only [Walk.next, hcursor, if_pos hseen]
          exact ⟨rfl, rfl⟩
        · simp only [sightsFrom, hcursor, if_pos hseen]
          rfl
      · refine look_of_fetch (some cursor) (cursor :: seen) ?_ fun pages ↦ ?_
        · simp only [Walk.next, hcursor, if_neg hseen]
        · simp only [sightsFrom, hcursor, if_neg hseen]
  | ended =>
    exact .ends (.ok (none, .ended)) _ [] s (.observe (.pure _)) .finished (Nat.zero_le _) fun _ ↦ rfl

/-- Where no page was looked for, nothing is seen, or the end, which stays. -/
theorem sightsFrom_zero (give : Page α → List β) (listing : Handler (Paging α) σ) (walk : Walk)
    (s : σ) : sightsFrom give listing 0 walk s = [] ∨
      ∃ last : Sight α β, last.fetch? = none ∧
        ∀ pages, sightsFrom give listing pages walk s = [last] := by
  cases walk with
  | start => exact .inl rfl
  | behind next seen =>
    cases hcursor : filled next with
    | none => exact .inr ⟨.finished, rfl, fun _ ↦ by simp only [sightsFrom, hcursor]⟩
    | some cursor =>
      by_cases hseen : cursor ∈ seen
      · exact .inr ⟨.failed (.cursorRepeated cursor), rfl,
          fun _ ↦ by simp only [sightsFrom, hcursor, if_pos hseen]⟩
      · exact .inl (by simp only [sightsFrom, hcursor, if_neg hseen]; rfl)
  | ended => exact .inr ⟨.finished, rfl, fun _ ↦ rfl⟩

theorem fetches_sightsFrom_zero (give : Page α → List β) (listing : Handler (Paging α) σ)
    (walk : Walk) (s : σ) : fetches (sightsFrom give listing 0 walk s) = [] := by
  rcases sightsFrom_zero give listing walk s with hnone | ⟨last, hlast, hall⟩
  · rw [hnone]
    rfl
  · rw [hall]
    exact List.filterMap_cons_none hlast

/-- What is seen on more pages goes on from what is seen on fewer, unless that shows the end. -/
theorem sightsFrom_add (give : Page α → List β) (listing : Handler (Paging α) σ) (pages more : ℕ)
    (walk : Walk) (s : σ) :
    ∃ later, sightsFrom give listing (pages + more) walk s =
        sightsFrom give listing pages walk s ++ later ∧
      (Ended (sightsFrom give listing pages walk s) → later = []) := by
  induction pages generalizing walk s with
  | zero =>
    rcases sightsFrom_zero give listing walk s with hnone | ⟨last, -, hall⟩
    · refine ⟨sightsFrom give listing (0 + more) walk s, ?_, ?_⟩
      · rw [hnone, List.nil_append]
      · rw [hnone]
        simp [Ended]
    · exact ⟨[], by rw [hall, hall, List.append_nil], fun _ ↦ rfl⟩
  | succ pages ih =>
    cases look give listing walk s with
    | ends answer last fetched s' run hlast hfetched sights_eq =>
      refine ⟨[], ?_, fun _ ↦ rfl⟩
      have hpages : fetched.length ≤ pages + 1 := hfetched.trans (Nat.succ_pos pages)
      obtain ⟨left, hleft⟩ := Nat.exists_eq_add_of_le hpages
      rw [hleft, Nat.add_assoc, sights_eq, sights_eq, List.append_nil]
    | page e page behind s' run unseen sights_eq =>
      obtain ⟨later, hlater, hended⟩ := ih behind s'
      refine ⟨later, ?_, fun hend ↦ hended ?_⟩
      · rw [Nat.add_right_comm, sights_eq, sights_eq, hlater, List.cons_append, List.append_assoc]
      · rw [sights_eq] at hend
        simpa [Ended] using hend

end Paging

end VpcMachines
