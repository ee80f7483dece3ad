import VpcMachines.Proofs.Listing.Chain
import VpcMachines.Proofs.Yielding

/-!
# What a search through a chain covers

Where each page of a chain is fetched by one call, a search gives the first item of the whole listing
that passes its test, however the listing is cut into pages. It calls for the pages in their order, each
by its own cursor and each once, up to the page on which this item stands (`Chain.search_yields`). The
course of a walk says which pages it takes and how it ends, so that it is found once for all that is done
with the pages (`Chain.course`).
-/

namespace VpcMachines.Chain

open Program Walk

variable {I : Interface} {α : Type} {c : Chain α} {right : Event I → Prop} {fetch : Fetch I α}
  {call : Option String → I.Call} {test : α → Bool} {limit : Nat}

/-- The pages with their cursors. The first one needs none. -/
def pages (c : Chain α) : List (Option String × List α) :=
  (none, c.first) :: c.later.map fun p ↦ (some p.1, p.2)

/-- The cursors of pages, up to the first page with an item that passes a test. -/
def asked (test : α → Bool) (pages : List (Option String × List α)) : List (Option String) :=
  (pages.take (pages.findIdx (fun p ↦ p.2.any test) + 1)).map Prod.fst

/-- Only pages of the chain are asked for. -/
theorem exists_page_of_mem_asked {start : Option String} (h : start ∈ asked test c.pages) :
    ∃ page, c.page start = some page := by
  obtain ⟨p, hp, rfl⟩ := List.mem_map.mp h
  rcases List.mem_cons.mp (List.mem_of_mem_take hp) with rfl | hlater
  · exact ⟨_, rfl⟩
  · obtain ⟨⟨cursor, items⟩, hmem, rfl⟩ := List.mem_map.mp hlater
    obtain ⟨front, rest, hsplit⟩ := List.append_of_mem hmem
    exact ⟨_, page_split hsplit⟩

/-- A fetch that yields a page lets the walk go on behind it. -/
theorem fetchPage_yields {start : Option String} {page : Page α} {calls : List I.Call}
    (h : (fetch start).Yields right calls (.returned page)) (seen : List String) :
    (fetchPage fetch start seen).Yields right calls
      (.returned (some page, .behind page.next seen)) := by
  have hpage : ((fetch start).mapFault Fault.inWalk).Yields right calls (.returned page) :=
    h.mapFault _
  have hbehind : (fetchPage fetch start seen).Yields right (calls ++ [])
      (.returned (some page, .behind page.next seen)) := hpage.bind (.pure _)
  rwa [List.append_nil] at hbehind

/-- As far as answers are right, every page of the chain is fetched by one call. -/
def ServedBy (c : Chain α) (right : Event I → Prop) (fetch : Fetch I α)
    (call : Option String → I.Call) : Prop :=
  ∀ start page, c.page start = some page → (fetch start).Yields right [call start] (.returned page)

section Asked

variable {start : Option String} {items : List α} {rest : List (Option String × List α)}

theorem asked_cons_of_any (h : items.any test = true) :
    asked test ((start, items) :: rest) = [start] := by
  simp [asked, List.findIdx_cons, h]

theorem asked_cons_of_not_any (h : items.any test = false) :
    asked test ((start, items) :: rest) = start :: asked test rest := by
  simp [asked, List.findIdx_cons, h]

end Asked

/-! ## The course of a walk -/

/-- From where it stands, a walk takes these pages by one call each, and then it is at an end or fails. -/
inductive Course (right : Event I → Prop) (fetch : Fetch I α) (call : Option String → I.Call) :
    Walk → List (Option String × List α) → Option Fault → Prop where
  | ended {walk : Walk} (hend : (walk.next fetch).Yields right [] (.returned (none, .ended))) :
      Course right fetch call walk [] none
  | failed {walk : Walk} {fault : Fault} (hend : (walk.next fetch).Yields right [] (.failed fault)) :
      Course right fetch call walk [] (some fault)
  | page {walk onward : Walk} {start : Option String} {page : Page α}
      {later : List (Option String × List α)} {fault : Option Fault}
      (hnext : (walk.next fetch).Yields right [call start] (.returned (some page, onward)))
      (others : Course right fetch call onward later fault) :
      Course right fetch call walk ((start, page.items) :: later) fault

/-- How a search ends: with the item that it found, or else as the walk does. -/
def searchEnd (found : Option α) (fault : Option Fault) : Outcome (Option α) :=
  match found, fault with
  | some item, _ => .returned (some item)
  | none, none => .returned none
  | none, some fault => .failed fault

/-- A search asks for the pages of the walk up to the first item that passes. -/
theorem Course.find_yields {walk : Walk} {pages : List (Option String × List α)}
    {fault : Option Fault} (h : Course right fetch call walk pages fault)
    (hlimit : pages.length < limit) :
    (find fetch test limit walk).Yields right ((asked test pages).map call)
      (searchEnd ((pages.flatMap Prod.snd).find? test) fault) := by
  induction h generalizing limit with
  | ended hend =>
    obtain ⟨limit, rfl⟩ := Nat.exists_eq_add_one_of_ne_zero (Nat.ne_of_gt hlimit)
    exact hend.bind (.pure none)
  | failed hend =>
    obtain ⟨limit, rfl⟩ := Nat.exists_eq_add_one_of_ne_zero (Nat.ne_of_gt hlimit)
    exact hend.bind_failed
  | @page walk onward start page later fault hnext others ih =>
    obtain ⟨limit, rfl⟩ := Nat.exists_eq_add_one_of_ne_zero (Nat.ne_of_gt (Nat.zero_lt_of_lt hlimit))
    have hlater := ih (Nat.lt_of_succ_lt_succ hlimit)
    rw [List.flatMap_cons, List.find?_append]
    cases hitem : page.items.find? test with
    | some item =>
      have hany : page.items.any test = true :=
        List.any_eq_true.mpr ⟨item, List.mem_of_find?_eq_some hitem, List.find?_some hitem⟩
      rw [asked_cons_of_any hany]
      change Yields right _ ([call start] ++ []) _
      apply hnext.bind
      simp only [hitem]
      exact .pure _
    | none =>
      have hnone : page.items.any test = false :=
        List.any_eq_false.mpr (List.find?_eq_none.mp hitem)
      rw [asked_cons_of_not_any hnone]
      change Yields right _ ([call start] ++ (asked test later).map call) _
      apply hnext.bind
      simp only [hitem]
      exact hlater

/-- What the page before some pages has for a cursor, where the last of all has `closing`. -/
def cursorBefore (closing : Option String) : List (String × List α) → Option String
  | [] => closing
  | (cursor, _) :: _ => some cursor

/-- Behind some pages with cursors of their own, a walk takes the others, and ends as it does behind
the last. -/
theorem course_behind {front rest : List (String × List α)} {closing : Option String}
    {fault : Option Fault} (hfilled : ∀ p ∈ rest, p.1 ≠ "")
    (hdistinct : ((front ++ rest).map Prod.fst).Nodup)
    (hserve : ∀ between cursor items behind, rest = between ++ (cursor, items) :: behind →
      (fetch (some cursor)).Yields right [call (some cursor)]
        (.returned ⟨items, cursorBefore closing behind⟩))
    (hend : Course right fetch call (.behind closing ((front ++ rest).map Prod.fst).reverse) []
      fault) :
    Course right fetch call (.behind (cursorBefore closing rest) (front.map Prod.fst).reverse)
      (rest.map fun p ↦ (some p.1, p.2)) fault := by
  -- `front` grows by a page with every step, so the next cursor is never among those seen.
  induction rest generalizing front with
  | nil =>
    rw [List.append_nil] at hend
    exact hend
  | cons p rest ih =>
    obtain ⟨cursor, items⟩ := p
    have hne : cursor ≠ "" := hfilled _ (List.mem_cons_self ..)
    have hcursor : filled (some cursor) = some cursor := filled_eq_some_iff.mpr ⟨rfl, hne⟩
    have hfresh : cursor ∉ (front.map Prod.fst).reverse := by
      rw [List.map_append, List.nodup_append] at hdistinct
      rw [List.mem_reverse]
      intro hmem
      exact hdistinct.2.2 cursor hmem cursor (List.mem_cons_self ..) rfl
    have hnext : ((Walk.behind (some cursor) (front.map Prod.fst).reverse).next fetch).Yields right
        [call (some cursor)] (.returned (some ⟨items, cursorBefore closing rest⟩,
          .behind (cursorBefore closing rest) (cursor :: (front.map Prod.fst).reverse))) := by
      simp only [next, hcursor, hfresh, if_false]
      exact fetchPage_yields (hserve [] cursor items rest rfl) _
    have hgrown : front ++ (cursor, items) :: rest = (front ++ [(cursor, items)]) ++ rest := by simp
    have hseen : cursor :: (front.map Prod.fst).reverse =
        ((front ++ [(cursor, items)]).map Prod.fst).reverse := by simp
    rw [hgrown] at hdistinct hend
    apply Course.page hnext
    rw [hseen]
    apply ih (fun q hq ↦ hfilled q (List.mem_cons_of_mem _ hq)) hdistinct _ hend
    intro between next found behind hsplit
    rw [hsplit] at hserve
    exact hserve ((cursor, items) :: between) next found behind rfl

theorem cursorOf_eq (rest : List (String × List α)) :
    c.cursorOf rest = cursorBefore c.closing rest := by
  cases rest <;> rfl

/-- The items of the pages are those of the chain. -/
theorem flatMap_pages (c : Chain α) : c.pages.flatMap Prod.snd = c.items := by
  rw [pages, List.flatMap_cons, List.flatMap_map]
  rfl

theorem length_pages (c : Chain α) : c.pages.length = c.later.length + 1 := by
  rw [pages, List.length_cons, List.length_map]

/-- A walk takes all pages of a chain and is at an end then. -/
theorem course (hserve : c.ServedBy right fetch call) :
    Course right fetch call .start c.pages none := by
  have hnext : (Walk.start.next fetch).Yields right [call none]
      (.returned (some ⟨c.first, c.cursorOf c.later⟩, .behind (c.cursorOf c.later) [])) :=
    fetchPage_yields (hserve none _ rfl) []
  have hdistinct : (([] ++ c.later).map Prod.fst).Nodup := c.cursors_distinct
  apply Course.page hnext
  rw [cursorOf_eq]
  apply course_behind c.cursors_filled hdistinct
  · intro between cursor items behind hsplit
    rw [← cursorOf_eq]
    exact hserve _ _ (page_split hsplit)
  · apply Course.ended
    simp only [next, c.closing_unfilled]
    exact .pure _

/-- A search gives the first item of the chain that passes, and asks for the pages up to that item. -/
theorem search_yields (hserve : c.ServedBy right fetch call) (test : α → Bool)
    (hlimit : c.later.length + 1 < limit) :
    (find fetch test limit .start).Yields right ((asked test c.pages).map call)
      (.returned (c.items.find? test)) := by
  have hfind : (find fetch test limit .start).Yields right ((asked test c.pages).map call)
      (searchEnd (c.items.find? test) none) := by
    rw [← flatMap_pages]
    exact (course hserve).find_yields (length_pages c ▸ hlimit)
  cases hitem : c.items.find? test <;> rw [hitem] at hfind <;> exact hfind

section CarriedOut

variable {J : Interface} {β : Type} {serve : (c : I.Call) → Program J (I.Reply c)}
  {right' : Event J → Prop} {request : Option String → J.Call} {p : Program I β} {o : Outcome β}

/-- A program that asks for pages still asks for them one by one when it is carried out. -/
theorem interpret_yields (hp : p.Yields right ((asked test c.pages).map call) o)
    (hserve : Upholds serve right' right)
    (hpages : ∀ start page, c.page start = some page →
      ∃ end', (serve (call start)).Yields right' [request start] end') :
    (p.interpret serve).Yields right' ((asked test c.pages).map request) o := by
  have hinner : CarriedOutBy serve right' ((asked test c.pages).map call)
      ((asked test c.pages).map fun start ↦ [request start]) := by
    rw [CarriedOutBy, List.forall₂_map_left_iff, List.forall₂_map_right_iff, List.forall₂_same]
    intro start hstart
    obtain ⟨page, hpage⟩ := exists_page_of_mem_asked hstart
    exact hpages start page hpage
  have hyields := hp.interpret hserve hinner
  rwa [← List.flatMap_def, ← List.map_eq_flatMap] at hyields

end CarriedOut

end VpcMachines.Chain
