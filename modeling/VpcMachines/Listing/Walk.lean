import VpcMachines.Listing.Page
import VpcMachines.Program

/-!
# Walks over a listing

A walk fetches pages one after the other, each by the cursor of the page before, and can be left and
taken up again at any point. Whether there is another page, and whether its cursor was given before,
is only looked at when the walk goes on. A cursor that was given before is a fault. The fault of a fetch
leaves the walk as it is, but for the end of an iteration, which cannot leave a walk.
-/

namespace VpcMachines

/-- Where a walk stands: before the first page, behind a page, or at the end. -/
inductive Walk where
  | start
  | behind (next : Option String) (seen : List String)
  | ended
  deriving DecidableEq, Repr

namespace Walk

variable {I : Interface} {α : Type}

/-- Fetches pages by their cursors; the first page has none. -/
abbrev Fetch (I : Interface) (α : Type) := Option String → Program I (Page α)

/-- Fetches the page of a cursor; the walk stands behind it then. -/
def fetchPage (fetch : Fetch I α) (cursor : Option String) (seen : List String) :
    Program I (Option (Page α) × Walk) := do
  let page ← (fetch cursor).mapFault Fault.inWalk
  return (some page, behind page.next seen)

/-- The next page, if there is one, and where the walk stands then. -/
def next (fetch : Fetch I α) : Walk → Program I (Option (Page α) × Walk)
  | start => fetchPage fetch none []
  | behind cursor seen =>
    match filled cursor with
    | none => return (none, ended)
    | some cursor =>
      if cursor ∈ seen then .fail (.cursorRepeated cursor)
      else fetchPage fetch (some cursor) (cursor :: seen)
  | ended => return (none, ended)

/-- How taking values from a walk ended. -/
inductive Ending (ω : Type) where
  /-- All values that were asked for were taken; the walk can go on. -/
  | paused (walk : ω)
  | finished
  | failed (fault : Fault)

/-- At most `limit` pages. -/
def takePages (fetch : Fetch I α) : Nat → Walk → Program I (List (Page α) × Ending Walk)
  | 0, walk => return ([], .paused walk)
  | limit + 1, walk => do
    match ← (walk.next fetch).observe with
    | .error fault => return ([], .failed fault)
    | .ok (none, _) => return ([], .finished)
    | .ok (some page, walk) =>
      let (pages, ending) ← takePages fetch limit walk
      return (page :: pages, ending)

end Walk

/-- A walk by items: those of the last page that were not taken, and the walk behind that page. -/
structure ItemWalk (α : Type) where
  held : List α
  walk : Walk

namespace ItemWalk

open Walk (Fetch Ending)

variable {I : Interface} {α : Type}

def start : ItemWalk α := ⟨[], .start⟩

/-- At most `limit` items, from the items held and at most `pages` further pages. -/
def take (fetch : Fetch I α) :
    (pages : Nat) → (limit : Nat) → ItemWalk α → Program I (List α × Ending (ItemWalk α))
  | pages, limit, walk =>
    if limit ≤ walk.held.length then
      return (walk.held.take limit, .paused ⟨walk.held.drop limit, walk.walk⟩)
    else
      match pages with
      | 0 => .exhausted
      | pages + 1 => do
        match ← (walk.walk.next fetch).observe with
        | .error fault => return (walk.held, .failed fault)
        | .ok (none, _) => return (walk.held, .finished)
        | .ok (some page, behind) =>
          let (items, ending) ← take fetch pages (limit - walk.held.length) ⟨page.items, behind⟩
          return (walk.held ++ items, ending)

end ItemWalk

namespace Walk

variable {I : Interface} {α : Type}

/-- The first item that passes a test, on at most `pages` further pages. -/
def find (fetch : Fetch I α) (test : α → Bool) : (pages : Nat) → Walk → Program I (Option α)
  | 0, _ => .exhausted
  | pages + 1, walk => do
    match ← walk.next fetch with
    | (none, _) => return none
    | (some page, walk) =>
      match page.items.find? test with
      | some item => return some item
      | none => find fetch test pages walk

end Walk

/-- The first resource of a listing with exactly this name. -/
def findNamed {I : Interface} (fetch : Walk.Fetch I NamedResource) (name : String) (pages : Nat) :
    Program I (Option NamedResource) :=
  Walk.find fetch (fun r ↦ r.name == some name) pages .start

end VpcMachines
