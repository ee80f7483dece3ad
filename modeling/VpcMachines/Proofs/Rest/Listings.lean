import VpcMachines.Proofs.Json.Equality
import VpcMachines.Proofs.Machine.Meaning
import VpcMachines.Proofs.Rest.Records
import VpcMachines.Proofs.Rest.Tolerance

/-!
# Listings over HTTP

A server holds listings that are cut into pages in any way, and each page is a reply that shows it. A
search over HTTP finds the first record of the whole listing with the name, if there is one, and sends
one request for each page up to it: the first without a cursor, and each other with the cursor that the
link before it carries.
-/

namespace VpcMachines.Rest

open Program

variable {α β : Type} {c : Connection} {right : Event Http → Prop}

/-! ## Single pages -/

/-- A request for a page of a listing. -/
def Connection.pageRequest (c : Connection) (path : String) (filters : List (String × Option String))
    (start : Option String) : Request :=
  c.request .get path (filters ++ [("start", start)]) none

theorem lookup_filters_eq_none {filters : List (String × Option String)} {name : String}
    (h : filters.lookup name = none) :
    (filters.filterMap fun (name, value) ↦ value.map fun s ↦ (name, Json.text s)).lookup name =
      none := by
  induction filters with
  | nil => rfl
  | cons filter filters ih =>
    obtain ⟨other, value⟩ := filter
    rw [List.lookup_cons] at h
    cases hother : name == other with
    | true => simp [hother] at h
    | false =>
      simp only [hother] at h
      cases value with
      | none => exact ih h
      | some s =>
        change List.lookup name ((other, Json.text s) :: _) = none
        rw [List.lookup_cons, hother]
        exact ih h

/-- A request for a page carries the cursor of the page, and nothing if there is none. -/
theorem pageRequest_start {path : String} {filters : List (String × Option String)}
    (h : filters.lookup "start" = none) (start : Option String) :
    (c.pageRequest path filters start).query.lookup "start" = start.map .text := by
  rw [Connection.pageRequest, Connection.request, List.filterMap_append, List.lookup_append,
    List.lookup_append, lookup_filters_eq_none h]
  cases start <;> rfl

/-- Requests for the pages of a chain are replied to with these pages, under a name. -/
def ShowsListing (c : Connection) (shows : α → Json → Prop) (path name : String)
    (filters : List (String × Option String)) (chain : Chain α) : Event Http → Prop
  | ⟨request, answer⟩ => ∀ start page, chain.page start = some page →
      request = c.pageRequest path filters start →
      ∃ reply, answer = .ok reply ∧ ShowsPage shows name page reply

theorem runs_exchange {path : String} {filters : List (String × Option String)} {method : Method}
    {body : Option Json} {t : List (Event Http)} {o : Outcome Json} (htoken : c.token ≠ "")
    (h : (exchange c method path filters body).Runs t o) :
    ∃ answer, t = [⟨c.request method path filters body, answer⟩] ∧
      ∀ reply, answer = .ok reply → o = .ofExcept (content s!"{method.text} {path}" reply) := by
  rw [exchange, if_neg htoken] at h
  rcases runs_bind_iff.mp h with ⟨t₁, reply, t₂, rfl, hrequest, hrest⟩ | ⟨abort, rfl, hrequest⟩
  · cases runs_request_returned_iff.mp (runs_mapFault_returned_iff.mp hrequest)
    obtain ⟨rfl, rfl⟩ := runs_ofExcept_iff.mp hrest
    refine ⟨.ok reply, rfl, fun other hother ↦ ?_⟩
    cases hother
    rfl
  · obtain ⟨inner, rfl, hfailed⟩ := runs_mapFault_aborted_iff.mp hrequest
    obtain ⟨cause, rfl, rfl⟩ := runs_request_aborted_iff.mp hfailed
    exact ⟨.error cause, rfl, nofun⟩

/-- What is fetched takes one request, and its reply is read. -/
theorem runs_fetch_read {path : String} {filters : List (String × Option String)}
    {read : Json → Reading β} {t : List (Event Http)} {o : Outcome β} (htoken : c.token ≠ "")
    (h : (fetch c path filters >>= fun v ↦ ofExcept (read v)).Runs t o) :
    ∃ answer, t = [⟨c.request .get path filters none, answer⟩] ∧
      ∀ reply, answer = .ok reply → o = .ofExcept (content s!"GET {path}" reply >>= read) := by
  rcases runs_bind_iff.mp h with ⟨t₁, v, t₂, rfl, hfetch, hread⟩ | ⟨abort, rfl, hfetch⟩
  · obtain ⟨answer, rfl, hcontent⟩ := runs_exchange htoken hfetch
    obtain ⟨rfl, rfl⟩ := runs_ofExcept_iff.mp hread
    refine ⟨answer, rfl, fun reply hreply ↦ ?_⟩
    have hv : Except.ok v = content s!"GET {path}" reply :=
      Outcome.ofExcept_inj (hcontent reply hreply)
    rw [← hv]
    rfl
  · obtain ⟨answer, rfl, hcontent⟩ := runs_exchange htoken hfetch
    refine ⟨answer, rfl, fun reply hreply ↦ ?_⟩
    have ho : Outcome.aborted abort = .ofExcept (content s!"GET {path}" reply) :=
      hcontent reply hreply
    cases hv : content s!"GET {path}" reply with
    | ok v =>
      rw [hv] at ho
      exact absurd ho (Outcome.aborted_ne_returned _ _)
    | error fault =>
      rw [hv] at ho
      cases abort <;> cases ho
      rfl

/-- A request that is replied to with something that can be read. -/
theorem fetch_yields {path : String} {filters : List (String × Option String)}
    {read : Json → Reading β} {b : β} (htoken : c.token ≠ "")
    (hreply : ∀ answer, right ⟨c.request .get path filters none, answer⟩ →
      ∃ reply v, answer = .ok reply ∧ content s!"GET {path}" reply = .ok v ∧ read v = .ok b) :
    (fetch c path filters >>= fun v ↦ ofExcept (read v) : Program Http β).Yields right
      [c.request .get path filters none] (.returned b) := by
  intro t end' h hright
  obtain ⟨answer, rfl, hread⟩ := runs_fetch_read htoken h
  obtain ⟨reply, v, rfl, hcontent, hv⟩ := hreply answer (hright _ (List.mem_singleton_self _))
  rw [hread reply rfl, hcontent]
  exact ⟨rfl, congrArg Outcome.ofExcept hv⟩

theorem page_yields {shows : α → Json → Prop} {read : Json → Reading α} {path name : String}
    {filters : List (String × Option String)} {chain : Chain α} (htoken : c.token ≠ "")
    (hread : ∀ a v, shows a v → read v = .ok a)
    (hshows : ∀ e, right e → ShowsListing c shows path name filters chain e) :
    chain.ServedBy right
      (fun start ↦ fetch c path (filters ++ [("start", start)]) >>=
        fun v ↦ ofExcept (page read name v))
      (c.pageRequest path filters) := by
  intro start found hfound
  refine fetch_yields htoken fun answer hanswer ↦ ?_
  obtain ⟨reply, rfl, hpage⟩ := hshows _ hanswer start found hfound rfl
  obtain ⟨v, hv, hfields⟩ := hpage.read_eq hread _
  exact ⟨reply, v, rfl, hv, hfields⟩

theorem named_servedBy {name : String} {chain : Chain NamedResource} (htoken : c.token ≠ "")
    (hshows : ∀ e, right e → ShowsListing c ShowsNamed s!"/{name}" name [] chain e) :
    chain.ServedBy right (namedPage c name) (c.pageRequest s!"/{name}" []) :=
  page_yields htoken named_of_shows hshows

/-- What carries a call out gives an answer to it. -/
theorem exists_answer_of_runs {p : Program Http α} {t : List (Event Http)} {o : Outcome α}
    (hp : ∀ limit, IsService limit p) (h : p.Runs t o) : ∃ answer, o = .ofExcept answer := by
  cases o with
  | returned a => exact ⟨.ok a, rfl⟩
  | failed fault => exact ⟨.error fault, rfl⟩
  | exhausted =>
    have hlong := (hp (t.length + 1)).bounded t h
    omega

/-! ## A server with listings -/

/-- What a server lists. The instances of a name are listed apart. -/
structure Holdings where
  subnets : Chain NamedResource
  groups : Chain NamedResource
  images : Chain NamedResource
  keys : Chain NamedResource
  instances : String → Chain Instance

namespace Holdings

/-- The replies of a server that lists all this. -/
structure Serves (w : Holdings) (c : Connection) (e : Event Http) : Prop where
  subnets : ShowsListing c ShowsNamed "/subnets" "subnets" [] w.subnets e
  groups : ShowsListing c ShowsNamed "/security_groups" "security_groups" [] w.groups e
  images : ShowsListing c ShowsNamed "/images" "images" [] w.images e
  keys : ShowsListing c ShowsNamed "/keys" "keys" [] w.keys e
  instances : ∀ name, ShowsListing c ShowsInstance "/instances" "instances" [("name", some name)]
    (w.instances name) e

/-- No listing has more pages than a bound leaves room for. -/
structure FitsIn (w : Holdings) (pages : Nat) : Prop where
  subnets : w.subnets.later.length + 1 < pages
  groups : w.groups.later.length + 1 < pages
  images : w.images.later.length + 1 < pages
  keys : w.keys.later.length + 1 < pages

/-- The holdings as a catalog. -/
def catalog (w : Holdings) : Catalog where
  images := w.images
  keys := w.keys
  subnet name := w.subnets.items.find? fun r ↦ r.name == some name
  groupNamed name := w.groups.items.find? fun r ↦ r.name == some name
  group id := w.groups.items.find? fun r ↦ r.id == id
  instances := w.instances

variable {w : Holdings} {pages : Nat}

theorem FitsIn.catalog (h : w.FitsIn pages) : w.catalog.FitsIn pages := ⟨h.images, h.keys⟩

theorem subnets_servedBy (htoken : c.token ≠ "") :
    w.subnets.ServedBy (w.Serves c) (namedPage c "subnets") (c.pageRequest "/subnets" []) :=
  named_servedBy htoken fun _ (h : w.Serves c _) ↦ h.subnets

theorem groups_servedBy (htoken : c.token ≠ "") :
    w.groups.ServedBy (w.Serves c) (namedPage c "security_groups")
      (c.pageRequest "/security_groups" []) :=
  named_servedBy htoken fun _ (h : w.Serves c _) ↦ h.groups

theorem images_servedBy (htoken : c.token ≠ "") :
    w.images.ServedBy (w.Serves c) (namedPage c "images") (c.pageRequest "/images" []) :=
  named_servedBy htoken fun _ (h : w.Serves c _) ↦ h.images

theorem keys_servedBy (htoken : c.token ≠ "") :
    w.keys.ServedBy (w.Serves c) (namedPage c "keys") (c.pageRequest "/keys" []) :=
  named_servedBy htoken fun _ (h : w.Serves c _) ↦ h.keys

theorem instances_servedBy (htoken : c.token ≠ "") (name : String) :
    (w.instances name).ServedBy (w.Serves c)
      (fun start ↦ serve c pages (.listInstances (some name) start))
      (c.pageRequest "/instances" [("name", some name)]) :=
  page_yields htoken observedInstance_of_shows fun _ (h : w.Serves c _) ↦ h.instances name

theorem answer_eq_of_servedBy {chain : Chain α} {fetch : Walk.Fetch Http α}
    {call : Option String → Request} {start : Option String} {t : List (Event Http)}
    {answer : Except Fault (Page α)} (hserve : chain.ServedBy right fetch call)
    (hrun : (fetch start).Runs t (.ofExcept answer)) (hright : ∀ e ∈ t, right e) :
    ∀ page, chain.page start = some page → answer = .ok page := by
  intro page hpage
  have hend : Outcome.ofExcept answer = .ofExcept (.ok page) :=
    (hserve start page hpage _ _ hrun hright).2
  exact Outcome.ofExcept_inj hend

/-- Over HTTP, calls are answered as the catalog of the holdings says. -/
theorem upholds (htoken : c.token ≠ "") (hfits : w.FitsIn pages) :
    Upholds (serve c pages) (w.Serves c) w.catalog.Lists := by
  have hservice {call : CloudCall} {t : List (Event Http)} {o : Outcome call.Reply}
      (hsame : ∀ limit, serve c pages call = serve c limit call)
      (hrun : (serve c pages call).Runs t o) : ∃ answer, o = .ofExcept answer := by
    refine exists_answer_of_runs (fun limit ↦ ?_) hrun
    rw [hsame limit]
    exact isService_serve call
  intro call t o hrun hright
  cases call with
  | listImages start =>
    obtain ⟨answer, rfl⟩ := hservice (fun _ ↦ rfl) hrun
    exact ⟨answer, rfl, answer_eq_of_servedBy (images_servedBy htoken) hrun hright⟩
  | listKeys start =>
    obtain ⟨answer, rfl⟩ := hservice (fun _ ↦ rfl) hrun
    exact ⟨answer, rfl, answer_eq_of_servedBy (keys_servedBy htoken) hrun hright⟩
  | listInstances name start =>
    obtain ⟨answer, rfl⟩ := hservice (fun _ ↦ rfl) hrun
    cases name with
    | none => exact ⟨answer, rfl, trivial⟩
    | some name =>
      exact ⟨answer, rfl, answer_eq_of_servedBy (instances_servedBy htoken name) hrun hright⟩
  | getSubnetByName name =>
    have hsearch := Chain.search_yields (subnets_servedBy htoken) (fun r ↦ r.name == some name)
      hfits.subnets
    exact ⟨.ok _, (hsearch _ _ hrun hright).2, rfl⟩
  | getSecurityGroupByName name =>
    have hsearch := Chain.search_yields (groups_servedBy htoken) (fun r ↦ r.name == some name)
      hfits.groups
    exact ⟨.ok _, (hsearch _ _ hrun hright).2, rfl⟩
  | _ =>
    obtain ⟨answer, rfl⟩ := hservice (fun _ ↦ rfl) hrun
    exact ⟨answer, rfl, trivial⟩

theorem upholds_beside (htoken : c.token ≠ "") (hfits : w.FitsIn pages) :
    Upholds (serveBeside c pages) (Beside (w.Serves c)) (Beside w.catalog.Lists) := by
  intro call t o hrun hright
  cases call with
  | inl call =>
    obtain ⟨u, rfl, hu⟩ := runs_beside_iff.mp hrun
    exact upholds htoken hfits call u o hu fun e he ↦ hright e.beside (List.mem_map_of_mem he)
  | inr call =>
    obtain ⟨answer, _, ho⟩ := runs_serveBeside_local hrun
    exact ⟨answer, ho, trivial⟩

/-! ## Searches -/

variable {network : Option NetworkStatus} {r : Reference} {name : String}

theorem resolve_image_yields (htoken : c.token ≠ "") (hfits : w.FitsIn pages)
    (hname : filled r.name = some name) (hid : filled r.id = none) :
    (overHttp c pages (Reference.resolve pages (some r) .image network)).Yields (w.Serves c)
      ((Chain.asked (fun r ↦ r.name == some name) w.images.pages).map (c.pageRequest "/images" []))
      (Reference.located .image name (w.catalog.named .image name)) := by
  refine Chain.interpret_yields (Reference.resolve_image hfits.catalog hname hid)
    (upholds htoken hfits) fun start page hpage ↦ ?_
  exact ⟨_, images_servedBy htoken start page hpage⟩

theorem resolve_key_yields (htoken : c.token ≠ "") (hfits : w.FitsIn pages)
    (hname : filled r.name = some name) (hid : filled r.id = none) :
    (overHttp c pages (Reference.resolve pages (some r) .sshKey network)).Yields (w.Serves c)
      ((Chain.asked (fun r ↦ r.name == some name) w.keys.pages).map (c.pageRequest "/keys" []))
      (Reference.located .sshKey name (w.catalog.named .sshKey name)) := by
  refine Chain.interpret_yields (Reference.resolve_key hfits.catalog hname hid)
    (upholds htoken hfits) fun start page hpage ↦ ?_
  exact ⟨_, keys_servedBy htoken start page hpage⟩

theorem findInstance_yields (htoken : c.token ≠ "") (hfits : w.FitsIn pages)
    (hpages : (w.instances name).later.length + 1 < pages) :
    (overHttp c pages (Machine.findInstance pages name)).Yields (w.Serves c)
      ((Chain.asked (fun i ↦ i.name == name) (w.instances name).pages).map
        (c.pageRequest "/instances" [("name", some name)]))
      (.returned (w.catalog.instanceNamed name)) := by
  have hfind := Catalog.findInstance_yields (k := w.catalog) hpages
  refine Chain.interpret_yields hfind (upholds htoken hfits) fun start page hpage ↦ ?_
  exact ⟨_, instances_servedBy htoken name start page hpage⟩

/-- Creating a machine whose instance is there sends no other requests than the search for it. -/
theorem create_yields {spec : MachineSpec} {i : Instance} (htoken : c.token ≠ "")
    (hfits : w.FitsIn pages) (hpages : (w.instances spec.name).later.length + 1 < pages)
    (hfound : w.catalog.instanceNamed spec.name = some i) :
    (overHttpBeside c pages (Machine.create pages spec network)).Yields (Beside (w.Serves c))
      ((Chain.asked (fun i ↦ i.name == spec.name) (w.instances spec.name).pages).map
        fun start ↦ .inl (c.pageRequest "/instances" [("name", some spec.name)] start))
      (.returned (some i)) := by
  let asked := Chain.asked (fun i : Instance ↦ i.name == spec.name) (w.instances spec.name).pages
  let call (start : Option String) : (Cloud.sum Local).Call :=
    .inl (.listInstances (some spec.name) start)
  have hfind : Yields (Beside w.catalog.Lists)
      ((Machine.findInstance pages spec.name).beside : Machine.Action (Option Instance))
      (asked.map call) (.returned (some i)) := by
    have hcalls : (asked.map (CloudCall.listInstances (some spec.name))).map
        (fun c ↦ (.inl c : (Cloud.sum Local).Call)) = asked.map call := List.map_map
    have hbeside := (Catalog.findInstance_yields (k := w.catalog) hpages).beside (J := Local)
    rw [hfound] at hbeside
    exact Eq.mp (congrArg (Yields _ _ · _) hcalls) hbeside
  have hcreate : Yields (Beside w.catalog.Lists) (Machine.create pages spec network)
      (asked.map call ++ []) (.returned (some i)) := hfind.bind (.pure (some i))
  rw [List.append_nil] at hcreate
  refine Chain.interpret_yields hcreate (upholds_beside htoken hfits) fun start page hpage ↦ ?_
  exact ⟨_, (instances_servedBy htoken spec.name start page hpage).beside⟩

end Holdings

/-! ## A server with two pages -/

/-- The default settings, a token and the address of a cloud. -/
def plainConnection : Connection := ⟨.default, "token", "https://cloud", 30⟩

/-- A listing whose first page is empty. -/
def twoPages (items : List α) : Chain α :=
  ⟨[], [("a b", items)], none, by simp, by simp, filled_none⟩

/-- One record in each listing. -/
def twoPageHoldings : Holdings where
  subnets := twoPages [⟨"record-1", some "record"⟩]
  groups := twoPages [⟨"record-1", some "record"⟩]
  images := twoPages [⟨"record-1", some "record"⟩]
  keys := twoPages [⟨"record-1", some "record"⟩]
  instances _ := twoPages [⟨"record-1", "record", none, none, none, none⟩]

/-- The members of a reply that shows a page of every listing. -/
def pageMembers (records : List Json) (next : List (String × Json)) : List (String × Json) :=
  ["subnets", "security_groups", "images", "keys", "instances"].map (·, .array records) ++ next

def firstMembers : List (String × Json) :=
  pageMembers [] [("next", .object [("href", .text "https://cloud/list?limit=1&start=a%20b")])]

def recordMembers : List (String × Json) := [("id", .text "record-1"), ("name", .text "record")]

def secondMembers : List (String × Json) := pageMembers [.object recordMembers] []

/-- Replies with the second page to every cursor. -/
def twoPageServer : Handler Http Unit where
  answer request s :=
    match request.query.lookup "start" with
    | none => (.ok (rendered firstMembers), s)
    | some _ => (.ok (rendered secondMembers), s)

theorem carries_link : Link.Carries "a b" "https://cloud/list?limit=1&start=a%20b" := by
  have hblank : Link.EscapedBytes ['%', '2', '0'] (String.utf8EncodeChar ' ') :=
    .cons (a := '2') (b := '0') rfl rfl .nil
  have hvalue : Link.Writes ['a', '%', '2', '0', 'b'] "a b" :=
    .plain (c := 'a') rfl (.encoded hblank (.plain (c := 'b') rfl .nil))
  have hlimit : ∀ field ∈ ["limit=1".toList], Link.IsOther "start" field := by
    intro field hfield
    cases List.mem_singleton.mp hfield
    exact ⟨by decide, by decide, by decide +kernel⟩
  have hquery := @Link.Gives.intro "a b" ["limit=1".toList] [] _ hlimit (by simp) hvalue
  have hhost : Link.IsAuthority "cloud".toList := ⟨by simp [Link.endsAuthority], by decide, by decide⟩
  exact ⟨⟨_, "/list".toList, _, [], hhost, .inr (by decide), by decide, by decide, hquery, .inl rfl,
    by decide⟩, by simp⟩

theorem eq_of_page_twoPages {items : List α} {cursor : String} {page : Page α}
    (h : (twoPages items).page (some cursor) = some page) : page = ⟨items, none⟩ := by
  change (if "a b" = cursor then some ⟨items, none⟩ else none) = some page at h
  split at h
  · exact (Option.some.inj h).symm
  · cases h

theorem showsListing_twoPages {shows : α → Json → Prop} {item : α} {path name : String}
    {filters : List (String × Option String)} (hfilters : filters.lookup "start" = none)
    (hfirst : firstMembers.lookup name = some (.array []))
    (hsecond : secondMembers.lookup name = some (.array [.object recordMembers]))
    (hitem : shows item (.object recordMembers)) (request : Request) (s : Unit) :
    ShowsListing c shows path name filters (twoPages [item])
      ⟨request, (twoPageServer.answer request s).1⟩ := by
  rintro start page hpage rfl
  have hstart : (c.pageRequest path filters start).query.lookup "start" = start.map .text :=
    pageRequest_start hfilters start
  simp only [twoPageServer, hstart]
  cases start with
  | none =>
    cases hpage
    refine ⟨_, rfl, showsPage_rendered (by decide +kernel) hfirst .nil ?_⟩
    exact ⟨by decide, _, _, rfl, rfl, carries_link⟩
  | some cursor =>
    cases eq_of_page_twoPages hpage
    exact ⟨_, rfl, showsPage_rendered (by decide +kernel) hsecond (.cons hitem .nil) (.inl rfl)⟩

theorem serves_twoPageServer (request : Request) (s : Unit) :
    twoPageHoldings.Serves c ⟨request, (twoPageServer.answer request s).1⟩ := by
  have hnamed : ShowsNamed ⟨"record-1", some "record"⟩ (.object recordMembers) :=
    ⟨_, rfl, rfl, rfl⟩
  have hinstance : ShowsInstance ⟨"record-1", "record", none, none, none, none⟩
      (.object recordMembers) :=
    ⟨_, rfl, rfl, rfl, .inl rfl, .inl ⟨rfl, .inl rfl⟩, .inl ⟨rfl, .inl rfl⟩, .inl ⟨rfl, .inl rfl⟩⟩
  exact ⟨showsListing_twoPages rfl rfl rfl hnamed request s,
    showsListing_twoPages rfl rfl rfl hnamed request s,
    showsListing_twoPages rfl rfl rfl hnamed request s,
    showsListing_twoPages rfl rfl rfl hnamed request s,
    fun _ ↦ showsListing_twoPages rfl rfl rfl hinstance request s⟩

/-! ## What is found -/

/-- Over HTTP, subnets, groups, images, keys and instances are found by their names however the listings
are cut into pages. The requests ask for the pages in their order, the first without a cursor and each
other by its own, and no page is asked for behind the first match. -/
theorem listings_lose_nothing {σ τ : Type} (server : Handler Http σ) (s : σ)
    (all : Handler (Http.sum Local) τ) (s' : τ) (c : Connection) (w : Holdings) (pages : Nat)
    (name : String) (htoken : c.token ≠ "") (hfits : w.FitsIn pages)
    (hinstances : (w.instances name).later.length + 1 < pages)
    (hserver : ∀ request s, w.Serves c ⟨request, (server.answer request s).1⟩)
    (hall : ∀ request s, w.Serves c ⟨request, (all.answer (.inl request) s).1⟩) :
    let test (r : NamedResource) := r.name == some name
    let instances := w.instances name
    (serve c pages (.getSubnetByName name)).Goes server s
        ((Chain.asked test w.subnets.pages).map (c.pageRequest "/subnets" []))
        (.returned (w.subnets.items.find? test)) ∧
      (serve c pages (.getSecurityGroupByName name)).Goes server s
        ((Chain.asked test w.groups.pages).map (c.pageRequest "/security_groups" []))
        (.returned (w.groups.items.find? test)) ∧
      (∀ (r : Reference) (network : Option NetworkStatus), filled r.id = none →
        filled r.name = some name →
        (overHttp c pages (Reference.resolve pages (some r) .image network)).Goes server s
            ((Chain.asked test w.images.pages).map (c.pageRequest "/images" []))
            (Reference.located .image name (w.images.items.find? test)) ∧
          (overHttp c pages (Reference.resolve pages (some r) .sshKey network)).Goes server s
            ((Chain.asked test w.keys.pages).map (c.pageRequest "/keys" []))
            (Reference.located .sshKey name (w.keys.items.find? test))) ∧
      (overHttp c pages (Machine.findInstance pages name)).Goes server s
        ((Chain.asked (fun i ↦ i.name == name) instances.pages).map
          (c.pageRequest "/instances" [("name", some name)]))
        (.returned (instances.items.find? fun i ↦ i.name == name)) ∧
      (∀ (spec : MachineSpec) (network : Option NetworkStatus) (i : Instance), spec.name = name →
        instances.items.find? (fun i ↦ i.name == name) = some i →
        (overHttpBeside c pages (Machine.create pages spec network)).Goes all s'
          ((Chain.asked (fun i ↦ i.name == name) instances.pages).map
            fun start ↦ .inl (c.pageRequest "/instances" [("name", some name)] start))
          (.returned (some i))) ∧
      ∀ (path : String) (filters : List (String × Option String)) (start : Option String),
        filters.lookup "start" = none →
        (c.pageRequest path filters start).query.lookup "start" = start.map .text := by
  intro test instances
  have hall' : ∀ request s, Beside (w.Serves c) ⟨request, (all.answer request s).1⟩ := by
    intro request s
    cases request with
    | inl request => exact hall request s
    | inr call => trivial
  refine ⟨?_, ?_, fun r network hid hname ↦ ⟨?_, ?_⟩, ?_, ?_, ?_⟩
  · exact (Chain.search_yields (Holdings.subnets_servedBy htoken) test hfits.subnets).goes hserver s
  · exact (Chain.search_yields (Holdings.groups_servedBy htoken) test hfits.groups).goes hserver s
  · exact (Holdings.resolve_image_yields htoken hfits hname hid).goes hserver s
  · exact (Holdings.resolve_key_yields htoken hfits hname hid).goes hserver s
  · exact (Holdings.findInstance_yields htoken hfits hinstances).goes hserver s
  · rintro spec network i rfl hfound
    exact (Holdings.create_yields htoken hfits hinstances hfound).goes hall' s'
  · intro path filters start hfilters
    exact pageRequest_start hfilters start

/-- The subnet on the second page is found, with the cursor that stands in the link to this page. -/
theorem listings_lose_nothing_on_two_pages :
    let c := plainConnection
    let all := twoPageServer.sum (⟨fun _ s ↦ (.error .unimplemented, s)⟩ : Handler Local Unit)
    c.token ≠ "" ∧ twoPageHoldings.FitsIn 3 ∧
      (twoPageHoldings.instances "record").later.length + 1 < 3 ∧
      (∀ request s, twoPageHoldings.Serves c ⟨request, (twoPageServer.answer request s).1⟩) ∧
      (∀ request s, twoPageHoldings.Serves c ⟨request, (all.answer (.inl request) s).1⟩) ∧
      (serve c 3 (.getSubnetByName "record")).Goes twoPageServer ()
        [c.pageRequest "/subnets" [] none, c.pageRequest "/subnets" [] (some "a b")]
        (.returned (some ⟨"record-1", some "record"⟩)) := by
  intro c all
  have htoken : c.token ≠ "" := by decide
  have hfits : twoPageHoldings.FitsIn 3 := ⟨by decide, by decide, by decide, by decide⟩
  have hinstances : (twoPageHoldings.instances "record").later.length + 1 < 3 := by decide
  obtain ⟨hsubnet, _⟩ := listings_lose_nothing twoPageServer () all () c twoPageHoldings 3 "record"
    htoken hfits hinstances serves_twoPageServer serves_twoPageServer
  exact ⟨htoken, hfits, hinstances, serves_twoPageServer, serves_twoPageServer, hsubnet⟩

end VpcMachines.Rest
