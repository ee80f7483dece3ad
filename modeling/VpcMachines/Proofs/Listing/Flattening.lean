import VpcMachines.Proofs.Listing.Coverage
import VpcMachines.Proofs.Listing.Pages

/-!
# Listings read item by item

A walk by items gives the items of all pages in their order, and a search gives the first item with its
name. Neither depends on how the listing is cut into pages, and a walk that is made again goes the same
way (`search_independent_of_paging`). Where the last page gives a cursor that an earlier page gave, the
pages form a loop: a search still finds what stands on one of them, and fails with the cursor otherwise.
-/

namespace VpcMachines

open Program Walk Chain

/-- The program done again behind itself. -/
def Program.twice {I : Interface} {α : Type} (p : Program I α) : Program I (α × α) := do
  let once ← p
  let again ← p
  return (once, again)

namespace Program.Yields

variable {I : Interface} {α : Type} {right : Event I → Prop} {calls : List I.Call}
  {p : Program I α}

theorem observe {answer : Except Fault α} (hp : p.Yields right calls (.ofExcept answer)) :
    p.observe.Yields right calls (.returned answer) := by
  intro t end' h hright
  rcases runs_observe_cases h with ⟨found, rfl, hrun⟩ | ⟨rfl, hrun⟩
  · obtain ⟨hcalls, ho⟩ := hp _ _ hrun hright
    exact ⟨hcalls, congrArg _ (Outcome.ofExcept_inj ho)⟩
  · obtain ⟨_, ho⟩ := hp _ _ hrun hright
    cases answer <;> cases ho

/-- What is done twice goes the same way twice. -/
theorem twice {a : α} (hp : p.Yields right calls (.returned a)) :
    p.twice.Yields right (calls ++ calls) (.returned (a, a)) := by
  have hagain : (do let again ← p; return (a, again)).Yields right (calls ++ [])
      (.returned (a, a)) := hp.bind (.pure _)
  rw [List.append_nil] at hagain
  exact hp.bind hagain

end Program.Yields

section Course

variable {I : Interface} {α : Type} {right : Event I → Prop} {fetch : Fetch I α}
  {call : Option String → I.Call} {limit : Nat}

/-- How reading ends that takes more items than there are. -/
def Walk.endOf : Option Fault → Ending (ItemWalk α)
  | none => .finished
  | some fault => .failed fault

/-- A walk by items gives all items of its pages, and ends as the walk over them does. -/
theorem Chain.Course.take_yields {walk : Walk} {pages : List (Option String × List α)}
    {fault : Option Fault} {held : List α} {bound : Nat}
    (h : Course right fetch call walk pages fault) (hbound : pages.length < bound)
    (hlimit : held.length + (pages.flatMap Prod.snd).length < limit) :
    (ItemWalk.take fetch bound limit ⟨held, walk⟩).Yields right (pages.map (call ∘ Prod.fst))
      (.returned (held ++ pages.flatMap Prod.snd, endOf fault)) := by
  -- More than the items held are wanted at every step, so each one looks at the next page.
  have hmore : ¬limit ≤ held.length := by omega
  induction h generalizing held bound limit with
  | @ended walk hend =>
    obtain ⟨bound, rfl⟩ := Nat.exists_eq_add_one_of_ne_zero (Nat.ne_of_gt hbound)
    have hnext : (walk.next fetch).observe.Yields right [] (.returned (.ok (none, .ended))) :=
      Yields.observe hend
    rw [ItemWalk.take, if_neg hmore, List.flatMap_nil, List.append_nil]
    exact hnext.bind (.pure _)
  | @failed walk fault hend =>
    obtain ⟨bound, rfl⟩ := Nat.exists_eq_add_one_of_ne_zero (Nat.ne_of_gt hbound)
    have hnext : (walk.next fetch).observe.Yields right [] (.returned (.error fault)) :=
      Yields.observe hend
    rw [ItemWalk.take, if_neg hmore, List.flatMap_nil, List.append_nil]
    exact hnext.bind (.pure _)
  | @page walk onward start page later fault hnext others ih =>
    obtain ⟨bound, rfl⟩ := Nat.exists_eq_add_one_of_ne_zero (Nat.ne_of_gt (Nat.zero_lt_of_lt hbound))
    rw [List.flatMap_cons, List.length_append] at hlimit
    change held.length + (page.items.length + (later.flatMap Prod.snd).length) < limit at hlimit
    have hrest : page.items.length + (later.flatMap Prod.snd).length < limit - held.length := by
      omega
    have hlater : (ItemWalk.take fetch bound (limit - held.length) ⟨page.items, onward⟩).Yields right
        (later.map (call ∘ Prod.fst)) (.returned (page.items ++ later.flatMap Prod.snd, endOf fault)) :=
      ih (Nat.lt_of_succ_lt_succ hbound) hrest (by omega)
    have hpage : (walk.next fetch).observe.Yields right [call start]
        (.returned (.ok (some page, onward))) := Yields.observe hnext
    have hgiven : (ItemWalk.take fetch bound (limit - held.length) ⟨page.items, onward⟩ >>=
        fun given ↦ pure (held ++ given.1, given.2)).Yields right (later.map (call ∘ Prod.fst) ++ [])
          (.returned (held ++ (page.items ++ later.flatMap Prod.snd), endOf fault)) :=
      hlater.bind (.pure _)
    rw [List.append_nil] at hgiven
    rw [ItemWalk.take, if_neg hmore, List.flatMap_cons]
    exact hpage.bind hgiven

/-! ## Listings that loop -/

/-- Pages whose last one gives the cursor of one of them. -/
structure Loop (α : Type) where
  chain : Chain α
  back : String
  back_mem : back ∈ chain.later.map Prod.fst

namespace Loop

variable {l : Loop α}

/-- The page of a cursor, which has a further cursor in any case. -/
def page (l : Loop α) (start : Option String) : Option (Page α) :=
  (l.chain.page start).map fun p ↦ ⟨p.items, some ((filled p.next).getD l.back)⟩

theorem next_eq {front rest : List (String × List α)} (h : l.chain.later = front ++ rest) :
    some ((filled (l.chain.cursorOf rest)).getD l.back) = cursorBefore (some l.back) rest := by
  rw [filled_cursorOf h]
  cases rest <;> rfl

theorem filled_back (l : Loop α) : filled (some l.back) = some l.back := by
  obtain ⟨p, hp, hback⟩ := List.mem_map.mp l.back_mem
  have hfilled : l.back ≠ "" := hback ▸ l.chain.cursors_filled p hp
  exact filled_eq_some_iff.mpr ⟨rfl, hfilled⟩

/-- A walk takes all pages of a loop and fails behind the last. -/
theorem course (hserve : ∀ start page, l.page start = some page →
      (fetch start).Yields right [call start] (.returned page)) :
    Course right fetch call .start l.chain.pages (some (.cursorRepeated l.back)) := by
  have hpage : l.page none =
      some ⟨l.chain.first, some ((filled (l.chain.cursorOf l.chain.later)).getD l.back)⟩ := rfl
  rw [next_eq (List.nil_append _).symm] at hpage
  have hnext : (Walk.start.next fetch).Yields right [call none]
      (.returned (some ⟨l.chain.first, cursorBefore (some l.back) l.chain.later⟩,
        .behind (cursorBefore (some l.back) l.chain.later) [])) :=
    fetchPage_yields (hserve none _ hpage) []
  have hdistinct : (([] ++ l.chain.later).map Prod.fst).Nodup := l.chain.cursors_distinct
  apply Course.page hnext
  apply course_behind l.chain.cursors_filled hdistinct
  · intro between cursor items behind hsplit
    have hbehind : l.chain.later = (between ++ [(cursor, items)]) ++ behind := by simp [hsplit]
    apply hserve
    rw [page, page_split hsplit, ← next_eq hbehind]
    rfl
  · have hseen : l.back ∈ (([] ++ l.chain.later).map Prod.fst).reverse :=
      List.mem_reverse.mpr l.back_mem
    apply Course.failed
    simp only [next, l.filled_back, hseen, if_true]
    exact .fail _

end Loop

end Course

/-! ## What does not depend on the pages -/

namespace Paging

variable {α σ : Type} {listing : Handler (Paging α) σ} {pageOf : Option String → Option (Page α)}

/-- At any time the listing answers with these pages. -/
def Serves (listing : Handler (Paging α) σ) (pageOf : Option String → Option (Page α)) : Prop :=
  ∀ s start page, pageOf start = some page → (listing.answer start s).1 = .ok page

/-- An answer is right that is the page of the cursor, if there is one. -/
def Right (pageOf : Option String → Option (Page α)) (e : Event (Paging α)) : Prop :=
  ∀ page, pageOf e.1 = some page → e.2 = .ok page

theorem fetch_yields {start : Option String} {page : Page α} (h : pageOf start = some page) :
    (fetch start).Yields (Right pageOf) [start] (.returned page) := by
  apply Yields.request
  intro answer hright
  exact hright page h

theorem Serves.right (h : Serves listing pageOf) (start : Option String) (s : σ) :
    Right pageOf ⟨start, (listing.answer start s).1⟩ := fun page hpage ↦ h s start page hpage

/-- The listing that has these pages only. -/
def serving (pageOf : Option String → Option (Page α)) : Handler (Paging α) Unit where
  answer start s := ((pageOf start).elim (.error .unimplemented) .ok, s)

theorem serves_serving : Serves (serving pageOf) pageOf := by
  intro s start page h
  change (pageOf start).elim _ _ = _
  rw [h]
  rfl

/-- However a listing is cut into pages, a walk by items gives all of it, a search gives the first item
with its name and asks for the pages up to this item, and both do the same when they are done again.
Where the pages form a loop, a search that finds nothing on them fails. -/
theorem search_independent_of_paging (listing : Handler (Paging NamedResource) σ) (s : σ)
    (name : String) (bound limit : Nat) :
    let named : NamedResource → Bool := fun r ↦ r.name == some name
    let items := ItemWalk.take fetch bound limit .start
    let search := findNamed fetch name bound
    (∀ c : Chain NamedResource, Serves listing c.page → c.pages.length < bound →
      c.items.length < limit →
      let cursors := c.pages.map Prod.fst
      let all := (c.items, (.finished : Ending (ItemWalk NamedResource)))
      let first := c.items.find? named
      items.Goes listing s cursors (.returned all) ∧
      search.Goes listing s (asked named c.pages) (.returned first) ∧
      items.twice.Goes listing s (cursors ++ cursors) (.returned (all, all)) ∧
      search.twice.Goes listing s (asked named c.pages ++ asked named c.pages)
        (.returned (first, first))) ∧
    ∀ l : Loop NamedResource, Serves listing l.page → l.chain.pages.length < bound →
      let repeated := Fault.cursorRepeated l.back
      repeated.category = .provider ∧
      (∀ item, l.chain.items.find? named = some item →
        search.Goes listing s (asked named l.chain.pages) (.returned (some item))) ∧
      (l.chain.items.find? named = none →
        search.Goes listing s (asked named l.chain.pages) (.failed repeated)) := by
  intro named items search
  constructor
  · intro c hserve hbound hlimit cursors all first
    have hserved : c.ServedBy (Right c.page) fetch id := fun start page ↦ fetch_yields
    have hitems : items.Yields (Right c.page) cursors (.returned all) := by
      have htotal : ([] : List NamedResource).length + (c.pages.flatMap Prod.snd).length < limit := by
        rw [flatMap_pages, List.length_nil, Nat.zero_add]
        exact hlimit
      have htake := (course hserved).take_yields hbound htotal
      rw [flatMap_pages] at htake
      exact htake
    have hsearch : search.Yields (Right c.page) (asked named c.pages) (.returned first) := by
      have hfind := search_yields hserved named (length_pages c ▸ hbound)
      rw [List.map_id] at hfind
      exact hfind
    exact ⟨hitems.goes hserve.right s, hsearch.goes hserve.right s,
      hitems.twice.goes hserve.right s, hsearch.twice.goes hserve.right s⟩
  · intro l hserve hbound repeated
    have hcourse : Course (Right l.page) fetch id .start l.chain.pages (some repeated) :=
      Loop.course fun start page ↦ fetch_yields
    have hsearch : search.Yields (Right l.page) (asked named l.chain.pages)
        (searchEnd (l.chain.items.find? named) (some repeated)) := by
      rw [← flatMap_pages, ← List.map_id (asked named l.chain.pages)]
      exact hcourse.find_yields hbound
    have hgoes := hsearch.goes hserve.right s
    refine ⟨rfl, fun item hitem ↦ ?_, fun hnone ↦ ?_⟩
    · rwa [hitem] at hgoes
    · rwa [hnone] at hgoes

/-- Three pages, the first of them empty, and a record without a name. -/
def threePages : Chain NamedResource where
  first := []
  later := [("2", [⟨"r-1", none⟩, ⟨"r-2", some "a"⟩]), ("3", [⟨"r-3", some "b"⟩, ⟨"r-4", some "a"⟩])]
  closing := some ""
  cursors_filled := by simp
  cursors_distinct := by simp
  closing_unfilled := rfl

/-- The same pages, where the last one leads back to the second. -/
def threePagesLooped : Loop NamedResource := ⟨threePages, "2", by simp [threePages]⟩

theorem search_through_pages_and_loop :
    let items := ItemWalk.take fetch 4 5 .start
    let search := findNamed fetch "b" 4
    let missing := findNamed fetch "c" 4
    items.Goes (serving threePages.page) () [none, some "2", some "3"]
        (.returned (threePages.items, .finished)) ∧
      search.Goes (serving threePages.page) () [none, some "2", some "3"]
        (.returned (some ⟨"r-3", some "b"⟩)) ∧
      search.Goes (serving threePagesLooped.page) () [none, some "2", some "3"]
        (.returned (some ⟨"r-3", some "b"⟩)) ∧
      missing.Goes (serving threePagesLooped.page) () [none, some "2", some "3"]
        (.failed (.cursorRepeated "2")) := by
  obtain ⟨hpages, _⟩ := search_independent_of_paging (serving threePages.page) () "b" 4 5
  obtain ⟨hitems, hsearch, _⟩ := hpages threePages serves_serving (by decide) (by decide)
  obtain ⟨_, hlooped⟩ := search_independent_of_paging (serving threePagesLooped.page) () "b" 4 5
  obtain ⟨_, hfound, _⟩ := hlooped threePagesLooped serves_serving (by decide)
  obtain ⟨_, hmissing⟩ := search_independent_of_paging (serving threePagesLooped.page) () "c" 4 5
  obtain ⟨_, _, hfailed⟩ := hmissing threePagesLooped serves_serving (by decide)
  exact ⟨hitems, hsearch, hfound _ rfl, hfailed rfl⟩

end Paging

end VpcMachines
