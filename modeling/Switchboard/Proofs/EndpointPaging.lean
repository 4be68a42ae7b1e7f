import Switchboard.Proofs.Calls
import Switchboard.Proofs.JsonText
import Switchboard.Proofs.Paging
import Switchboard.Proofs.Rendering

/-!
# Paging through an endpoint

A client pages through an endpoint that lists something by calling its tool with the cursor of the
answer before (`Paging`). Where a call leads depends on the arguments for the path and the query only
(`renderPath_congr`, `renderQuery_congr`), so a cursor does not reach the backend; the answer is a
page of the list in the reply. As long as the replies hold the same document, the calls are therefore
a walk through its list (`paging_iff`), and the client has the whole list in the end
(`paging_covers_list`). That takes a call that leads somewhere: not every path does
(`not_all_listings_paged`).
-/

namespace Switchboard

/-! ## Arguments -/

/-- Arguments with a cursor, or without. -/
def argumentsAt (arguments : NameMap Json) : Option Json → Json
  | none => .object (arguments.erase "cursor").entries
  | some cursor => .object (arguments.insert "cursor" cursor).entries

theorem get?_argumentsAt {name : String} (h : name ≠ "cursor") (arguments : NameMap Json)
    (cursor : Option Json) : (argumentsAt arguments cursor).get? name = arguments.find? name := by
  cases cursor with
  | none => exact (NameMap.find?_erase arguments "cursor" name).trans (if_neg (Ne.symm h))
  | some cursor =>
    exact (NameMap.find?_insert arguments "cursor" name cursor).trans (if_neg (Ne.symm h))

theorem pageCursor_argumentsAt (arguments : NameMap Json) (cursor : Option String) :
    pageCursor (argumentsAt arguments (cursor.map .string)) = cursor := by
  cases cursor with
  | none =>
    have hnone : (argumentsAt arguments none).get? "cursor" = none :=
      (NameMap.find?_erase arguments "cursor" "cursor").trans (if_pos rfl)
    rw [pageCursor, Option.map_none, hnone]
    rfl
  | some token =>
    have hsome : (argumentsAt arguments (some (.string token))).get? "cursor" =
        some (.string token) :=
      (NameMap.find?_insert arguments "cursor" "cursor" (.string token)).trans (if_pos rfl)
    rw [pageCursor, Option.map_some, hsome]
    rfl

theorem pageLimit_argumentsAt (arguments : NameMap Json) (cursor : Option Json) (usual : Nat) :
    pageLimit (argumentsAt arguments cursor) usual = pageLimit (.object arguments.entries) usual := by
  rw [pageLimit, get?_argumentsAt (by decide)]
  rfl

/-! ## Answers -/

/-- A document is held by its compact text if it comes out of that text again. -/
theorem holds_compact {document : Json}
    (h : Json.Written.value? Json.maxNesting document.written = some document) :
    (Http.Reply.answered 200 (Text.Utf8.encode document.compact)).Holds document := by
  refine ⟨200, _, _, rfl, by decide, ?_⟩
  rw [Text.Utf8.decode?_encode, Option.bind_some, Json.read?, Json.read?_compact]
  exact h

theorem nextCursor_eq_none_iff {items : List Json} {cursor : Option String} {limit : Nat} :
    (paginate items cursor limit).nextCursor = none ↔
      (paginate items cursor limit).hasMore = false := by
  have hmore := hasMore_window_iff_nextCursor items (startOf items cursor) (normalizeLimit limit)
  rw [← paginate_eq] at hmore
  rw [← Bool.not_eq_true, hmore, Option.not_isSome_iff_eq_none]

theorem get?_items_toJson (p : Page Json) : (p.toJson id).get? "items" = some (.array p.items) := by
  simp [Page.toJson, Json.get?, Assoc.find?]

theorem get?_nextCursor_toJson (p : Page Json) :
    (p.toJson id).get? "nextCursor" = p.nextCursor.map .string := by
  cases h : p.nextCursor <;> simp [Page.toJson, Json.get?, Assoc.find?, h]

/-! ## Calls -/

/-- A call that was answered: the request that was sent and the items of the answer. -/
structure PageCall where
  request : Http.Request
  items : List Json

/-- The calls of a client who starts with a cursor, or without one, and goes on with the cursor of
each answer until an answer has none. The `n`-th request of all is answered by `replies n`. -/
inductive Paging (c : Connection) (e : Endpoint) (arguments : NameMap Json)
    (replies : Nat → Http.Reply) : Nat → Option Json → List PageCall → Prop
  | last {n : Nat} {cursor : Option Json} {request : Http.Request} {answer : Json}
      {items : List Json}
      (hcall : EndpointService.call c e (argumentsAt arguments cursor) (replies n) =
        (.ok answer, [request]))
      (hitems : answer.get? "items" = some (.array items))
      (hlast : answer.get? "nextCursor" = none) :
    Paging c e arguments replies n cursor [⟨request, items⟩]
  | more {n : Nat} {cursor : Option Json} {request : Http.Request} {answer next : Json}
      {items : List Json} {rest : List PageCall}
      (hcall : EndpointService.call c e (argumentsAt arguments cursor) (replies n) =
        (.ok answer, [request]))
      (hitems : answer.get? "items" = some (.array items))
      (hmore : answer.get? "nextCursor" = some next)
      (hrest : Paging c e arguments replies (n + 1) (some next) rest) :
    Paging c e arguments replies n cursor (⟨request, items⟩ :: rest)

/-- An endpoint that lists what is found at a pointer, and takes no argument of its own for the
page that is asked for. -/
structure Endpoint.Lists (e : Endpoint) (pointer : String) : Prop where
  list : e.list = some pointer
  free : ∀ name ∈ e.pathParams ++ e.query, name ≠ "cursor" ∧ name ≠ "limit"

/-- The cursor does not matter to the request behind a call. -/
theorem Endpoint.Lists.render_eq {e : Endpoint} {pointer : String} (he : e.Lists pointer)
    (arguments : NameMap Json) (cursor : Option Json) :
    e.renderPath (argumentsAt arguments cursor) = e.renderPath (.object arguments.entries) ∧
      e.renderQuery (argumentsAt arguments cursor) = e.renderQuery (.object arguments.entries) := by
  have hget : ∀ name ∈ e.pathParams ++ e.query,
      (argumentsAt arguments cursor).get? name = (Json.object arguments.entries).get? name :=
    fun name hname => get?_argumentsAt (he.free name hname).1 arguments cursor
  exact ⟨renderPath_congr fun name hname => hget name (List.mem_append_left _ hname),
    renderQuery_congr fun name hname => hget name (List.mem_append_right _ hname)⟩

/-- The page that a cursor stands for is cut out of the list. -/
theorem Endpoint.Lists.shape_eq {e : Endpoint} {pointer : String} (he : e.Lists pointer)
    {document : Json} {items : List Json} (hitems : document.pointer? pointer = some (.array items))
    (arguments : NameMap Json) (cursor : Option String) (usual : Nat) :
    e.shape document (argumentsAt arguments (cursor.map .string)) usual =
      .ok ((paginate items cursor (pageLimit (.object arguments.entries) usual)).toJson id) := by
  rw [shape, he.list, pageCursor_argumentsAt, pageLimit_argumentsAt]
  simp only [listAt, hitems]
  rfl

section

open EndpointService

variable {c : Connection} {e : Endpoint} {arguments : NameMap Json} {pointer : String}

/-- A call that leads nowhere without a cursor leads nowhere with one. -/
theorem Endpoint.Lists.leadsNowhere_argumentsAt (he : e.Lists pointer) {failure : Failure}
    (h : LeadsNowhere c e (.object arguments.entries) failure) (cursor : Option Json) :
    LeadsNowhere c e (argumentsAt arguments cursor) failure := by
  obtain ⟨hpath, hquery⟩ := he.render_eq arguments cursor
  cases h with
  | unfilled herror => exact .unfilled (hpath.trans herror)
  | unjoined hrender hurl => exact .unjoined (hpath.trans hrender) hurl
  | foreign hrender hurl hhttp => exact .foreign (hpath.trans hrender) hurl hhttp
  | unfit hrender hurl hhttp hfits =>
    exact .unfit (hpath.trans hrender) hurl hhttp (hquery.symm ▸ hfits)

/-! ## Calls in turn -/

variable {path : String} {address : Url} {document : Json} {items : List Json}
  {replies : Nat → Http.Reply}

/-- A call that leads somewhere sends the same request whatever the cursor, and is answered by the
page of the cursor. -/
theorem Endpoint.Lists.call_eq (he : e.Lists pointer)
    (hleads : LeadsTo c e (.object arguments.entries) path address)
    (hitems : document.pointer? pointer = some (.array items)) {reply : Http.Reply}
    (hreply : reply.Holds document) (cursor : Option String) :
    call c e (argumentsAt arguments (cursor.map .string)) reply =
      (.ok ((paginate items cursor (pageLimit (.object arguments.entries) c.pageSize)).toJson id),
        [c.backend.requestTo address (e.renderQuery (.object arguments.entries))]) := by
  obtain ⟨hpath, hquery⟩ := he.render_eq arguments (cursor.map .string)
  have hleads' : LeadsTo c e (argumentsAt arguments (cursor.map .string)) path address :=
    ⟨hpath.trans hleads.render, hleads.join, hleads.http, hquery.symm ▸ hleads.fits⟩
  rw [call_of_leadsTo hleads', Backend.document_of_holds hreply, hquery,
    ← he.shape_eq hitems arguments cursor c.pageSize]
  rfl

/-- What a call comes to is read off its page. -/
theorem Endpoint.Lists.eq_of_call (he : e.Lists pointer)
    (hleads : LeadsTo c e (.object arguments.entries) path address)
    (hitems : document.pointer? pointer = some (.array items)) {reply : Http.Reply}
    (hreply : reply.Holds document) {cursor : Option String} {answer : Json}
    {request : Http.Request} {got : List Json}
    (hcall : call c e (argumentsAt arguments (cursor.map .string)) reply =
      (.ok answer, [request]))
    (hgot : answer.get? "items" = some (.array got)) :
    let p := paginate items cursor (pageLimit (.object arguments.entries) c.pageSize)
    request = c.backend.requestTo address (e.renderQuery (.object arguments.entries)) ∧
      got = p.items ∧ answer.get? "nextCursor" = p.nextCursor.map .string := by
  intro p
  rw [he.call_eq hleads hitems hreply cursor] at hcall
  obtain ⟨hanswer, hrequest⟩ := Prod.mk.inj hcall
  obtain rfl := Except.ok.inj hanswer
  rw [get?_items_toJson] at hgot
  exact ⟨(List.cons.inj hrequest).1.symm, (Json.array.inj (Option.some.inj hgot)).symm,
    get?_nextCursor_toJson p⟩

/-- Paging is a walk through the list, and each of its pages comes with the same request. -/
theorem paging_iff (he : e.Lists pointer)
    (hleads : LeadsTo c e (.object arguments.entries) path address)
    (hreplies : ∀ n, (replies n).Holds document)
    (hitems : document.pointer? pointer = some (.array items))
    {n : Nat} {cursor : Option String} {calls : List PageCall} :
    Paging c e arguments replies n (cursor.map .string) calls ↔
      ∃ pages, Walk items (pageLimit (.object arguments.entries) c.pageSize) cursor pages ∧
        calls = pages.map fun p =>
          ⟨c.backend.requestTo address (e.renderQuery (.object arguments.entries)), p.items⟩ := by
  have hanswer (n : Nat) (cursor : Option String) :=
    he.call_eq hleads hitems (hreplies n) cursor
  constructor
  · intro h
    generalize hstart : cursor.map Json.string = start at h
    induction h generalizing cursor with
    | @last n _ _ _ _ hcall hgot hlast =>
      subst hstart
      obtain ⟨rfl, rfl, hnext⟩ := he.eq_of_call hleads hitems (hreplies n) hcall hgot
      rw [hlast, eq_comm, Option.map_eq_none_iff] at hnext
      exact ⟨_, .last (nextCursor_eq_none_iff.mp hnext), rfl⟩
    | @more n _ _ _ _ _ _ hcall hgot hmore _ ih =>
      subst hstart
      obtain ⟨rfl, rfl, hnext⟩ := he.eq_of_call hleads hitems (hreplies n) hcall hgot
      rw [hmore] at hnext
      obtain ⟨pages, hwalk, rfl⟩ := ih hnext.symm
      refine ⟨_, .more ?_ hwalk, rfl⟩
      by_contra hnone
      rw [nextCursor_eq_none_iff.mpr (Bool.not_eq_true _ ▸ hnone)] at hnext
      cases hnext
  · rintro ⟨pages, hwalk, rfl⟩
    induction hwalk generalizing n with
    | @last cursor hlast =>
      refine .last (hanswer n cursor) (get?_items_toJson _) ?_
      rw [get?_nextCursor_toJson, nextCursor_eq_none_iff.mpr hlast, Option.map_none]
    | @more cursor rest hmore _ ih =>
      obtain ⟨token, htoken⟩ := Option.ne_none_iff_exists'.mp fun hnone =>
        Bool.false_ne_true ((nextCursor_eq_none_iff.mp hnone).symm.trans hmore)
      rw [htoken] at ih
      refine .more (hanswer n cursor) (get?_items_toJson _) ?_ ih
      rw [get?_nextCursor_toJson, htoken, Option.map_some]

/-- A client whose call leads somewhere comes to an end and has the list then, nothing twice and
nothing left out, after the same request each time; no answer has more items than the arguments ask
for, or the settings, within bounds. If it leads nowhere, every call fails with the reason and sends
nothing, with a cursor or without and whatever the other side would reply. -/
theorem paging_covers_list (c : Connection) (he : e.Lists pointer) (arguments : NameMap Json)
    (hpath : e.renderPath (.object arguments.entries) = .ok path)
    (hitems : document.pointer? pointer = some (.array items))
    (hlen : items.length < Decimal.wordBound) (replies : Nat → Http.Reply)
    (hreplies : ∀ n, (replies n).Holds document) :
    let limit := ((arguments.find? "limit").bind Json.asNat?).getD c.pageSize
    let width := if limit = 0 then 50 else min limit 500
    (1 ≤ width ∧ width ≤ 500) ∧
    (∀ failure, LeadsNowhere c e (.object arguments.entries) failure →
      ∀ cursor reply, call c e (argumentsAt arguments cursor) reply = (.error failure, [])) ∧
    ((∀ failure, ¬ LeadsNowhere c e (.object arguments.entries) failure) →
      ∃ address, c.backend.url path = .ok address ∧ ∃ calls : List PageCall,
        (∀ calls', Paging c e arguments replies 0 none calls' ↔ calls' = calls) ∧
        (∀ call ∈ calls, call.request =
          c.backend.requestTo address (e.renderQuery (.object arguments.entries))) ∧
        calls.length = max 1 ((items.length + width - 1) / width) ∧
        calls.flatMap (·.items) = items ∧
        ∀ call ∈ calls, call.items.length ≤ width) := by
  intro limit width
  refine ⟨⟨normalizeLimit_pos limit, normalizeLimit_le limit⟩,
    fun failure hnowhere cursor reply =>
      call_of_leadsNowhere (he.leadsNowhere_argumentsAt hnowhere cursor) reply,
    fun hsomewhere => ?_⟩
  obtain ⟨failure, hnowhere⟩ | ⟨path', address, hleads⟩ :=
    leadsNowhere_or_leadsTo c e (.object arguments.entries)
  · exact absurd hnowhere (hsomewhere failure)
  obtain rfl := Except.ok.inj (hpath.symm.trans hleads.render)
  refine ⟨address, hleads.join, ?_⟩
  have hiff {calls : List PageCall} :
      Paging c e arguments replies 0 ((none : Option String).map .string) calls ↔ _ :=
    paging_iff he hleads hreplies hitems
  obtain ⟨pages, hpages⟩ := Walk.exists_pages hlen limit none
  refine ⟨pages.map fun p =>
      ⟨c.backend.requestTo address (e.renderQuery (.object arguments.entries)), p.items⟩,
    fun calls' => ⟨fun h => ?_, fun h => hiff.mpr ⟨pages, hpages, h⟩⟩, ?_, ?_, ?_, ?_⟩
  · obtain ⟨pages', hpages', rfl⟩ := hiff.mp h
    rw [hpages.unique hpages']
  · exact List.forall_mem_map.mpr fun _ _ => rfl
  · rw [List.length_map]
    exact hpages.length_pages hlen
  · rw [List.flatMap_map]
    exact hpages.flatMap_items hlen
  · refine List.forall_mem_map.mpr fun p hp => ?_
    obtain ⟨cursor, rfl⟩ := hpages.exists_cursor_of_mem hp
    rw [paginate_eq, length_items_window]
    exact Nat.min_le_left _ _

end

/-- The hosts of a group. -/
def groupListing : Endpoint :=
  { tool := "hosts_list", description := "Hosts of a group", path := "/\x7bgroup\x7d/hosts"
    query := ["tag"], list := some "/hosts" }

/-- Five hosts, two at a time. -/
theorem paging_five_hosts :
    let arguments := NameMap.ofList [("group", Json.string "web"), ("limit", Json.ofNat 2)]
    let document := Json.object [("hosts", .array ([1, 2, 3, 4, 5].map Json.ofNat))]
    let reply := Http.Reply.answered 200 (Text.Utf8.encode document.compact)
    groupListing.Lists "/hosts" ∧
    groupListing.renderPath (.object arguments.entries) = .ok "/web/hosts" ∧
    ∃ calls, Paging ⟨rootBackend, 50⟩ groupListing arguments (fun _ => reply) 0 none calls ∧
      calls.length = 3 ∧ calls.flatMap (·.items) = [1, 2, 3, 4, 5].map Json.ofNat := by
  intro arguments document reply
  have he : groupListing.Lists "/hosts" := ⟨rfl, by decide +kernel⟩
  have hpath : groupListing.renderPath (.object arguments.entries) = .ok "/web/hosts" := by
    decide +kernel
  have hreply : reply.Holds document := holds_compact rfl
  have hleads : EndpointService.LeadsTo ⟨rootBackend, 50⟩ groupListing
      (.object arguments.entries) "/web/hosts"
      { rootBackend.base with path := .segments ["web", "hosts"] } :=
    EndpointService.leadsTo_iff.mpr ⟨hpath, by decide +kernel, by decide +kernel⟩
  obtain ⟨-, -, hcalls⟩ := paging_covers_list ⟨rootBackend, 50⟩ he arguments hpath rfl
    (by decide) (fun _ => reply) fun _ => hreply
  obtain ⟨address, -, calls, hiff, -, hlength, hitems, -⟩ := hcalls hleads.not_leadsNowhere
  exact ⟨he, hpath, calls, (hiff calls).mpr rfl, hlength.trans (by decide +kernel), hitems⟩

/-- An endpoint whose path leads nowhere. -/
def hostlessListing : Endpoint :=
  { tool := "hosts_list", description := "All hosts", path := "http://", list := some "" }

/-- It takes a path that leads somewhere: a text with a scheme and no host leads nowhere, from
whatever address. -/
theorem not_all_listings_paged :
    ¬ ∀ (service : String) (settings : Option BackendConfig) (b : Backend) (usual : Nat)
        (e : Endpoint) (pointer path : String) (arguments : NameMap Json) (document : Json)
        (items : List Json) (replies : Nat → Http.Reply),
      Backend.connect service settings = .ok b → e.Lists pointer →
      e.renderPath (.object arguments.entries) = .ok path →
      document.pointer? pointer = some (.array items) → items.length < Decimal.wordBound →
      (∀ n, (replies n).Holds document) →
      ∃ calls, Paging ⟨b, usual⟩ e arguments replies 0 none calls := by
  intro hall
  have he : hostlessListing.Lists "" := ⟨rfl, by decide +kernel⟩
  have hpath : hostlessListing.renderPath (.object []) = .ok "http://" := by decide +kernel
  obtain ⟨calls, hcalls⟩ := hall "hosts" (some { url := some "http://h" }) rootBackend 50
    hostlessListing "" "http://" NameMap.empty (.array [Json.ofNat 1]) _
    (fun _ => .answered 200 (Text.Utf8.encode (Json.array [Json.ofNat 1]).compact))
    (by decide +kernel) he hpath rfl (by decide) fun _ => holds_compact rfl
  have hnowhere : EndpointService.LeadsNowhere ⟨rootBackend, 50⟩ hostlessListing
      (.object NameMap.empty.entries) ⟨["invalid path 'http://'", "empty host"]⟩ :=
    .unjoined hpath (by decide +kernel)
  have hnothing :=
    EndpointService.call_of_leadsNowhere (he.leadsNowhere_argumentsAt hnowhere none)
  cases hcalls with
  | last hcall => cases (hnothing _).symm.trans hcall
  | more hcall => cases (hnothing _).symm.trans hcall

end Switchboard
