import VpcMachines.Proofs.Listing.Search

/-!
# Listings cut into pages

A chain is a listing that is cut into pages in some way. Every page but the first is fetched by a cursor
of its own, which the page before gives. A walk that fetches all pages of a chain gets all its items
(`Chain.items_of_complete`).
-/

namespace VpcMachines

open Walk (Complete Fetch)

structure Chain (α : Type) where
  first : List α
  /-- The pages behind the first one, with their cursors. -/
  later : List (String × List α)
  /-- What the last page has for a cursor. -/
  closing : Option String
  cursors_filled : ∀ p ∈ later, p.1 ≠ ""
  cursors_distinct : (later.map Prod.fst).Nodup
  closing_unfilled : filled closing = none

namespace Chain

variable {α : Type} {c : Chain α} {cursor : String} {p : Page α}

def items (c : Chain α) : List α := c.first ++ c.later.flatMap Prod.snd

/-- The cursor that stands before the rest of the pages. -/
def cursorOf (c : Chain α) : List (String × List α) → Option String
  | [] => c.closing
  | (cursor, _) :: _ => some cursor

def pageIn (c : Chain α) (cursor : String) : List (String × List α) → Option (Page α)
  | [] => none
  | (key, items) :: rest =>
    if key = cursor then some ⟨items, c.cursorOf rest⟩ else c.pageIn cursor rest

/-- The page of a cursor. The first page needs none. -/
def page (c : Chain α) : Option String → Option (Page α)
  | none => some ⟨c.first, c.cursorOf c.later⟩
  | some cursor => c.pageIn cursor c.later

/-- One page alone. -/
def single (items : List α) : Chain α where
  first := items
  later := []
  closing := none
  cursors_filled := by simp
  cursors_distinct := List.nodup_nil
  closing_unfilled := filled_none

@[simp]
theorem items_single (items : List α) : (single items).items = items := List.append_nil items

theorem pageIn_split {front rest : List (String × List α)} {items : List α}
    (h : cursor ∉ front.map Prod.fst) :
    c.pageIn cursor (front ++ (cursor, items) :: rest) = some ⟨items, c.cursorOf rest⟩ := by
  induction front with
  | nil => exact if_pos rfl
  | cons p front ih =>
    rw [List.map_cons, List.mem_cons, not_or] at h
    rw [List.cons_append, pageIn, if_neg (Ne.symm h.1)]
    exact ih h.2

/-- Cursors are told apart, so each page is found by its own. -/
theorem page_split {front rest : List (String × List α)} {items : List α}
    (h : c.later = front ++ (cursor, items) :: rest) :
    c.page (some cursor) = some ⟨items, c.cursorOf rest⟩ := by
  have hfresh : cursor ∉ front.map Prod.fst := by
    have hdistinct := c.cursors_distinct
    rw [h, List.map_append, List.nodup_append] at hdistinct
    intro hmem
    exact hdistinct.2.2 cursor hmem cursor (by simp) rfl
  rw [page, h]
  exact pageIn_split hfresh

theorem filled_cursorOf {front rest : List (String × List α)} (h : c.later = front ++ rest) :
    filled (c.cursorOf rest) = rest.head?.map Prod.fst := by
  cases rest with
  | nil => exact c.closing_unfilled
  | cons p rest =>
    have hfilled : p.1 ≠ "" := c.cursors_filled p (by simp [h])
    simp [cursorOf, filled, hfilled]

theorem mem_of_pageIn {pages : List (String × List α)} (h : c.pageIn cursor pages = some p) :
    ∀ item ∈ p.items, item ∈ pages.flatMap Prod.snd := by
  induction pages with
  | nil => cases h
  | cons first pages ih =>
    intro item hitem
    rw [List.flatMap_cons, List.mem_append]
    by_cases hfirst : first.1 = cursor
    · rw [pageIn, if_pos hfirst] at h
      cases h
      exact .inl hitem
    · rw [pageIn, if_neg hfirst] at h
      exact .inr (ih h item hitem)

/-- A page holds items of the listing only. -/
theorem mem_items_of_page {start : Option String} (h : c.page start = some p) :
    ∀ item ∈ p.items, item ∈ c.items := by
  intro item hitem
  rw [items, List.mem_append]
  cases start with
  | none =>
    cases h
    exact .inl hitem
  | some cursor => exact .inr (mem_of_pageIn h item hitem)

variable {I : Interface} {fetch : Fetch I α} {t : List (Event I)} {listed : List α}

/-- All pages from one page on hold all items from there on. -/
theorem items_of_complete_from {start : Option String} {front rest : List (String × List α)}
    {items : List α} (hfirst : c.page start = some ⟨items, c.cursorOf rest⟩)
    (hsplit : c.later = front ++ rest) (h : Complete fetch start t listed)
    (hserve : ∀ start u page, (fetch start).Runs u (.returned page) → u ⊆ t →
      c.page start = some page) :
    listed = items ++ rest.flatMap Prod.snd := by
  -- `front` grows by a page with every fetch, which keeps the cursors of `rest` apart from it.
  induction h generalizing items front rest with
  | last fetched hnext =>
    have hpage := hserve _ _ _ fetched (List.Subset.refl _)
    rw [hfirst] at hpage
    cases hpage
    have hrest := filled_cursorOf hsplit
    rw [hnext] at hrest
    cases rest with
    | nil => exact (List.append_nil _).symm
    | cons following rest => cases hrest
  | more fetched hnext others ih =>
    have hpage := hserve _ _ _ fetched (List.subset_append_left _ _)
    rw [hfirst] at hpage
    cases hpage
    have hrest := filled_cursorOf hsplit
    rw [hnext] at hrest
    cases rest with
    | nil => cases hrest
    | cons following rest =>
      obtain ⟨next, more⟩ := following
      cases hrest
      have hbehind : c.later = (front ++ [(next, more)]) ++ rest := by simp [hsplit]
      have hserved := ih (page_split hsplit) hbehind fun start u page hu hsub ↦
        hserve start u page hu (List.Subset.trans hsub (List.subset_append_right _ _))
      rw [hserved, List.flatMap_cons]

/-- All pages of a chain hold all its items. -/
theorem items_of_complete (h : Complete fetch none t listed)
    (hserve : ∀ start u page, (fetch start).Runs u (.returned page) → u ⊆ t →
      c.page start = some page) :
    listed = c.items :=
  items_of_complete_from rfl (List.nil_append _).symm h hserve

end Chain

end VpcMachines
