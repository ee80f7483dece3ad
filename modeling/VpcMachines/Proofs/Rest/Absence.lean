import VpcMachines.Proofs.Rest.Listings

/-!
# What is missing over HTTP

A server holds listings, and it replies to a request for a single security group with the record or with
the status 404. Over HTTP, a name that nothing carries is not found, whatever the kind. A group that does
not exist is not reported in this way: the request for it is refused, and so is resolving its ID.
-/

namespace VpcMachines.Rest

open Program

variable {c : Connection} {w : Holdings} {pages : Nat} {r : Reference} {kind : ResourceKind}
  {network : Option NetworkStatus} {id name : String}

/-! ## Single security groups -/

def Connection.groupRequest (c : Connection) (id : String) : Request :=
  c.request .get s!"/security_groups/{id}" [] none

/-- A reply that shows a record, or that there is none. -/
def ShowsRecord : Option NamedResource → Reply → Prop
  | some r, reply => reply.status < 400 ∧ reply.status ≠ 204 ∧
    ∃ v, Json.read reply.body.toList = .ok v ∧ ShowsNamed r v
  | none, reply => reply.status = 404

/-- Requests for single groups are replied to with their records. -/
def Holdings.ServesGroups (w : Holdings) (c : Connection) : Event Http → Prop
  | ⟨request, answer⟩ => ∀ id, request = c.groupRequest id →
    ∃ reply, answer = .ok reply ∧ ShowsRecord (w.catalog.group id) reply

/-- What the call for a group is answered, given its record and the reply. -/
def groupAnswer (id : String) (reply : Reply) :
    Option NamedResource → Except Fault (Option NamedResource)
  | some r => .ok (some r)
  | none => .error (.refused s!"GET /security_groups/{id}" 404 reply.body)

theorem read_of_showsRecord {record : Option NamedResource} {reply : Reply}
    (h : ShowsRecord record reply) :
    (content s!"GET /security_groups/{id}" reply >>= fun v ↦ some <$> named v) =
      groupAnswer id reply record := by
  cases record with
  | some r =>
    obtain ⟨haccepted, hfull, v, hbody, hshows⟩ := h
    rw [content_of_read haccepted hfull hbody]
    change (some <$> named v) = _
    rw [named_of_shows r v hshows]
    rfl
  | none =>
    have hstatus : reply.status = 404 := h
    rw [content, if_pos (by omega), hstatus]
    rfl

theorem runs_getSecurityGroup {t : List (Event Http)} {o : Outcome (Option NamedResource)}
    (htoken : c.token ≠ "") (h : (serve c pages (.getSecurityGroup id)).Runs t o)
    (hright : ∀ e ∈ t, w.ServesGroups c e) :
    ∃ reply, t = [⟨c.groupRequest id, .ok reply⟩] ∧ ShowsRecord (w.catalog.group id) reply ∧
      o = .ofExcept (groupAnswer id reply (w.catalog.group id)) := by
  simp only [serve, map_ofExcept] at h
  obtain ⟨answer, rfl, hread⟩ := runs_fetch_read htoken h
  obtain ⟨reply, rfl, hshows⟩ := hright _ (List.mem_singleton_self _) id rfl
  refine ⟨reply, rfl, hshows, ?_⟩
  rw [hread reply rfl]
  exact congrArg Outcome.ofExcept (read_of_showsRecord hshows)

/-- How resolving the ID of a group ends, given the answer to the call for the group. -/
def resolvedGroup (id : String) : Except Fault (Option NamedResource) → Outcome String
  | .ok record => Reference.located .securityGroup id record
  | .error cause => .failed (cause.inCall s!"fetching security group {id}")

theorem runs_resolve_group {t : List (Event Cloud)} {o : Outcome String}
    (hid : filled r.id = some id) (hknown : r.known .securityGroup network = none)
    (h : (Reference.resolve pages (some r) .securityGroup network).Runs t o) :
    ∃ answer, t = [⟨.getSecurityGroup id, answer⟩] ∧ o = resolvedGroup id answer := by
  rw [Reference.known] at hknown
  simp only [Reference.resolve, Reference.isSet_of_filled_id hid, if_true, Reference.resolveSet,
    Reference.resolveSecurityGroup, hknown, hid] at h
  rcases runs_described_bind_cases h with ⟨cause, rfl, rfl⟩ | ⟨record, rest, rfl, hrest⟩
  · exact ⟨.error cause, rfl, rfl⟩
  · have hfound : (Reference.found .securityGroup id record).Yields (fun _ ↦ True) []
        (Reference.located .securityGroup id record) := Reference.found_yields id record
    obtain ⟨hcalls, rfl⟩ := hfound _ _ hrest fun _ _ ↦ trivial
    cases List.map_eq_nil_iff.mp hcalls
    exact ⟨.ok record, rfl, rfl⟩

/-- Over HTTP, resolving the ID of a group sends the request for the group alone. -/
theorem runs_resolve_group_overHttp {t : List (Event Http)} {o : Outcome String}
    (htoken : c.token ≠ "") (hid : filled r.id = some id)
    (hknown : r.known .securityGroup network = none)
    (h : (overHttp c pages (Reference.resolve pages (some r) .securityGroup network)).Runs t o)
    (hright : ∀ e ∈ t, w.ServesGroups c e) :
    ∃ reply, t = [⟨c.groupRequest id, .ok reply⟩] ∧ ShowsRecord (w.catalog.group id) reply ∧
      o = resolvedGroup id (groupAnswer id reply (w.catalog.group id)) := by
  cases interpretRun_of_runs h with
  | served run calls =>
    obtain ⟨answer, rfl, rfl⟩ := runs_resolve_group hid hknown run
    cases calls with
    | cons first others =>
      cases others
      rw [List.append_nil] at hright ⊢
      obtain ⟨reply, rfl, hshows, ho⟩ := runs_getSecurityGroup htoken first hright
      rw [Outcome.ofExcept_inj ho]
      exact ⟨reply, rfl, hshows, rfl⟩
  | cutOff run calls last =>
    obtain ⟨answer, hcalls, _⟩ := runs_resolve_group hid hknown run
    rcases List.append_eq_singleton_iff.mp hcalls with ⟨rfl, hcall⟩ | ⟨_, hcall⟩
    · cases hcall
      have hright₂ := (List.forall_mem_append.mp hright).2
      obtain ⟨reply, _, _, ho⟩ := runs_getSecurityGroup htoken last hright₂
      generalize groupAnswer id reply (w.catalog.group id) = result at ho
      cases result <;> cases ho
    · cases hcall

/-! ## A server with one group -/

/-- What the address of a single group begins with. -/
def groupsUrl : String := "https://cloud/security_groups/"

/-- The reply to a request for a single group. -/
def groupReply (url : String) : Reply :=
  if url = groupsUrl ++ "record-1" then rendered recordMembers
  else ⟨404, "not found"⟩

/-- Replies with the record of the one group of the listings, and with the status 404 for others. -/
def groupServer : Handler Http Unit where
  answer request s :=
    if groupsUrl.toList.isPrefixOf request.url.toList then (.ok (groupReply request.url), s)
    else twoPageServer.answer request s

theorem showsListing_groupServer {α : Type} {shows : α → Json → Prop} {path name : String}
    {filters : List (String × Option String)} {chain : Chain α} {request : Request} {s : Unit}
    (hpath : groupsUrl.toList.isPrefixOf ("https://cloud" ++ path).toList = false)
    (h : ShowsListing plainConnection shows path name filters chain
      ⟨request, (twoPageServer.answer request s).1⟩) :
    ShowsListing plainConnection shows path name filters chain
      ⟨request, (groupServer.answer request s).1⟩ := by
  rintro start page hpage rfl
  have hanswer : groupServer.answer (plainConnection.pageRequest path filters start) s =
      twoPageServer.answer (plainConnection.pageRequest path filters start) s :=
    if_neg (Bool.eq_false_iff.mp hpath)
  rw [hanswer]
  exact h start page hpage rfl

theorem serves_groupServer (request : Request) (s : Unit) :
    twoPageHoldings.Serves plainConnection ⟨request, (groupServer.answer request s).1⟩ := by
  have hpages := serves_twoPageServer (c := plainConnection) request s
  exact ⟨showsListing_groupServer (by decide) hpages.subnets,
    showsListing_groupServer (by decide) hpages.groups,
    showsListing_groupServer (by decide) hpages.images,
    showsListing_groupServer (by decide) hpages.keys,
    fun name ↦ showsListing_groupServer (by decide) (hpages.instances name)⟩

theorem url_groupRequest (id : String) :
    (plainConnection.groupRequest id).url = groupsUrl ++ id := by
  change "https://cloud" ++ ("/security_groups/" ++ id) = _
  rw [← String.append_assoc]
  exact congrArg (· ++ id) (by decide)

theorem showsRecord_groupReply (id : String) :
    ShowsRecord (twoPageHoldings.catalog.group id) (groupReply (groupsUrl ++ id)) := by
  by_cases hid : id = "record-1"
  · subst hid
    have hbody : Json.read (rendered recordMembers).body.toList = .ok (.object recordMembers) :=
      read_rendered (by decide +kernel)
    exact ⟨by decide, by decide, _, hbody, _, rfl, rfl, rfl⟩
  · have hnone : twoPageHoldings.catalog.group id = none := by
      refine List.find?_eq_none.mpr fun record hrecord ↦ ?_
      cases List.mem_singleton.mp hrecord
      simpa using Ne.symm hid
    have hother : groupsUrl ++ id ≠ groupsUrl ++ "record-1" := by
      rwa [Ne, String.append_right_inj]
    rw [hnone, groupReply, if_neg hother]
    rfl

theorem servesGroups_groupServer (request : Request) (s : Unit) :
    twoPageHoldings.ServesGroups plainConnection ⟨request, (groupServer.answer request s).1⟩ := by
  rintro id rfl
  have hprefix : groupsUrl.toList.isPrefixOf (plainConnection.groupRequest id).url.toList := by
    rw [url_groupRequest, List.isPrefixOf_iff_prefix, String.toList_append]
    exact List.prefix_append _ _
  have hshows := showsRecord_groupReply id
  rw [← url_groupRequest] at hshows
  exact ⟨_, congrArg Prod.fst (if_pos hprefix), hshows⟩

/-! ## What is missing -/

namespace Holdings

/-- What is listed of each kind. -/
def listing (w : Holdings) : ResourceKind → Chain NamedResource
  | .image => w.images
  | .sshKey => w.keys
  | .subnet => w.subnets
  | .securityGroup => w.groups

theorem catalog_named (w : Holdings) (kind : ResourceKind) (name : String) :
    w.catalog.named kind name = (w.listing kind).items.find? fun r ↦ r.name == some name := by
  cases kind <;> rfl

end Holdings

/-- Over HTTP, a name that nothing of the kind carries is not found. If a security group does not exist,
the one request for it is refused with the status 404, and resolving its ID fails with this refusal; the
ID of a group that exists is confirmed. -/
theorem absent_name_not_found_absent_group_refused {σ : Type} (server : Handler Http σ) (s : σ)
    (c : Connection) (w : Holdings) (pages : Nat) (r : Reference) (kind : ResourceKind)
    (network : Option NetworkStatus)
    (htoken : c.token ≠ "") (hfits : w.FitsIn pages) (hknown : r.known kind network = none)
    (hlists : ∀ request s, w.Serves c ⟨request, (server.answer request s).1⟩)
    (hgroups : ∀ request s, w.ServesGroups c ⟨request, (server.answer request s).1⟩) :
    let resolve := overHttp c pages (Reference.resolve pages (some r) kind network)
    (∀ name, filled r.id = none → filled r.name = some name →
      (∀ record ∈ (w.listing kind).items, record.name ≠ some name) →
      (resolve.run server s).1 = .failed (.notFound kind.text name)) ∧
    (∀ id, kind = .securityGroup → filled r.id = some id →
      (∀ record ∈ w.groups.items, record.id ≠ id) →
      ∃ reply, reply.status = 404 ∧ resolve.trace server s = [⟨c.groupRequest id, .ok reply⟩] ∧
        (resolve.run server s).1 =
          .failed (.refused s!"GET /security_groups/{id}" 404 reply.body)) ∧
    ∀ id, kind = .securityGroup → filled r.id = some id →
      (∃ record ∈ w.groups.items, record.id = id) → (resolve.run server s).1 = .returned id := by
  intro resolve
  have hrun := runs_trace server resolve s
  refine ⟨?_, ?_, ?_⟩
  · intro name hid hname habsent
    have hnone : w.catalog.named kind name = none := by
      rw [Holdings.catalog_named]
      refine List.find?_eq_none.mpr fun record hrecord ↦ ?_
      simpa using habsent record hrecord
    have hsettles := Reference.resolve_live hfits.catalog hname hid hknown
    rw [hnone] at hsettles
    exact hsettles.interpret_end_eq (Holdings.upholds htoken hfits) hrun
      (forall_right_of_answers hlists resolve s)
  · rintro id rfl hid habsent
    have hnone : w.catalog.group id = none := by
      refine List.find?_eq_none.mpr fun record hrecord ↦ ?_
      simpa using habsent record hrecord
    obtain ⟨reply, ht, hstatus, ho⟩ := runs_resolve_group_overHttp htoken hid hknown hrun
      (forall_right_of_answers hgroups resolve s)
    rw [hnone] at hstatus ho
    exact ⟨reply, hstatus, ht, ho⟩
  · rintro id rfl hid ⟨record, hrecord, hsame⟩
    have hsome : (w.catalog.group id).isSome :=
      List.find?_isSome.mpr ⟨record, hrecord, beq_iff_eq.mpr hsame⟩
    obtain ⟨found, hfound⟩ := Option.isSome_iff_exists.mp hsome
    have hexists : found.id = id := by
      simpa using List.find?_some hfound
    obtain ⟨reply, _, _, ho⟩ := runs_resolve_group_overHttp htoken hid hknown hrun
      (forall_right_of_answers hgroups resolve s)
    rw [hfound] at ho
    rw [ho, ← hexists]
    rfl

/-- Where there are an image and a group, other names are not found and other IDs are refused. -/
theorem other_group_refused :
    let resolve kind r := overHttp plainConnection 3 (Reference.resolve 3 (some r) kind none)
    plainConnection.token ≠ "" ∧ twoPageHoldings.FitsIn 3 ∧
      (∀ request s,
        twoPageHoldings.Serves plainConnection ⟨request, (groupServer.answer request s).1⟩) ∧
      (∀ request s,
        twoPageHoldings.ServesGroups plainConnection ⟨request, (groupServer.answer request s).1⟩) ∧
      ((resolve .image ⟨none, some "other"⟩).run groupServer ()).1 =
        .failed (.notFound "image" "other") ∧
      (∃ body, ((resolve .securityGroup ⟨some "sg-1", none⟩).run groupServer ()).1 =
        .failed (.refused "GET /security_groups/sg-1" 404 body)) ∧
      ((resolve .securityGroup ⟨some "record-1", none⟩).run groupServer ()).1 =
        .returned "record-1" := by
  intro resolve
  have htoken : plainConnection.token ≠ "" := by decide
  have hfits : twoPageHoldings.FitsIn 3 := ⟨by decide, by decide, by decide, by decide⟩
  obtain ⟨hname, _⟩ := absent_name_not_found_absent_group_refused groupServer () plainConnection
    twoPageHoldings 3 ⟨none, some "other"⟩ .image none htoken hfits rfl serves_groupServer
    servesGroups_groupServer
  obtain ⟨_, habsent, _⟩ := absent_name_not_found_absent_group_refused groupServer () plainConnection
    twoPageHoldings 3 ⟨some "sg-1", none⟩ .securityGroup none htoken hfits rfl serves_groupServer
    servesGroups_groupServer
  obtain ⟨_, _, hpresent⟩ := absent_name_not_found_absent_group_refused groupServer ()
    plainConnection twoPageHoldings 3 ⟨some "record-1", none⟩ .securityGroup none htoken hfits rfl
    serves_groupServer servesGroups_groupServer
  obtain ⟨reply, _, _, hrefused⟩ := habsent "sg-1" rfl rfl (by decide)
  exact ⟨htoken, hfits, serves_groupServer, servesGroups_groupServer,
    hname "other" rfl rfl (by decide), ⟨reply.body, hrefused⟩,
    hpresent "record-1" rfl rfl ⟨_, List.mem_singleton_self _, rfl⟩⟩

/-- Resolving the ID of a group that does not exist ends with another fault than that it is not found. -/
theorem absent_group_not_reported_as_not_found :
    let resolve := overHttp plainConnection 3
      (Reference.resolve 3 (some ⟨some "sg-1", none⟩) .securityGroup none)
    (∀ request s,
      twoPageHoldings.Serves plainConnection ⟨request, (groupServer.answer request s).1⟩) ∧
      (∀ request s,
        twoPageHoldings.ServesGroups plainConnection ⟨request, (groupServer.answer request s).1⟩) ∧
      (∀ record ∈ twoPageHoldings.groups.items, record.id ≠ "sg-1") ∧
      (resolve.run groupServer ()).1 ≠ .failed (.notFound "security_group" "sg-1") ∧
      ∃ fault, (resolve.run groupServer ()).1 = .failed fault ∧ fault.category = .provider ∧
        fault.status? = some 404 := by
  intro resolve
  have hend : (resolve.run groupServer ()).1 =
      .failed (.refused "GET /security_groups/sg-1" 404 "not found") := rfl
  rw [hend]
  exact ⟨serves_groupServer, servesGroups_groupServer, by decide, nofun, _, rfl, rfl, rfl⟩

end VpcMachines.Rest
