import Switchboard.Proofs.Charset
import Switchboard.Proofs.Joining
import Switchboard.Service.Endpoints

/-!
# Calls of endpoints

A call of an endpoint leads to an address and sends one request there (`LeadsTo`), or it leads
nowhere: its path cannot be made or joined, or the client refuses the address (`LeadsNowhere`). What
the other side replies becomes an answer only if it reports success, sends a document, and the
document has room for a list where the endpoint lists something (`document_eq_ok_iff`,
`exists_shape_iff`). A reply that reports anything else is an error that names the service and the
status and shows how the text of the body begins (`call_answers_documents`).
-/

namespace Switchboard

/-- An outside that notes every request and replies to all of them alike. -/
def World.noting (reply : Http.Reply) : World (StateM (List Http.Request)) where
  fetch request := do
    modify (· ++ [request])
    pure reply
  now := pure 0
  pause _ := pure ()

/-- What a call comes to if its request gets a reply, and the requests that it sends. -/
def EndpointService.call (c : Connection) (e : Endpoint) (arguments : Json) (reply : Http.Reply) :
    Outcome × List Http.Request :=
  (((handler c e arguments).run (.noting reply)).run []).run

/-! ## Requests -/

/-- An address that can be asked: it is one of HTTP and names a machine. -/
structure Url.IsHttp (u : Url) : Prop where
  scheme : u.scheme = "http" ∨ u.scheme = "https"
  host : ∃ a, u.authority = some a ∧ a.host ≠ .domain ""

/-- An address that fits into a request. -/
structure Url.Fits (u : Url) : Prop where
  size : u.text.utf8ByteSize ≤ 65534
  host : ∀ a, u.authority = some a →
    ∀ c ∈ a.host.text.toList, c ∉ ['"', '\x60', '\x7b', '\x7d']

namespace Http.Request

variable {r : Request}

theorem isWritable_iff : r.isWritable = true ↔ r.url.Fits := by
  have hchar (c : Char) : isHostChar c = true ↔ c ∉ ['"', '\x60', '\x7b', '\x7d'] := by
    have hmarks : "\"\x60\x7b\x7d".toList = ['"', '\x60', '\x7b', '\x7d'] := by decide
    rw [isHostChar, hmarks, Bool.not_eq_true', List.contains_eq_mem, decide_eq_false_iff_not]
  rw [isWritable, Bool.and_eq_true, decide_eq_true_eq]
  constructor
  · rintro ⟨hsize, hhost⟩
    refine ⟨hsize, fun a ha => ?_⟩
    rw [ha] at hhost
    exact fun c hc => (hchar c).mp (List.all_eq_true.mp hhost c hc)
  · rintro ⟨hsize, hhost⟩
    refine ⟨hsize, ?_⟩
    cases ha : r.url.authority with
    | none => rfl
    | some a => exact List.all_eq_true.mpr fun c hc => (hchar c).mpr (hhost a ha c hc)

theorem isAskable_iff : r.isAskable = true ↔ r.url.IsHttp := by
  have hhost : r.url.hasHost = true ↔ ∃ a, r.url.authority = some a ∧ a.host ≠ .domain "" := by
    unfold Url.hasHost
    cases r.url.authority <;> simp
  rw [isAskable, Bool.and_eq_true, Bool.or_eq_true, decide_eq_true_eq, decide_eq_true_eq, hhost]
  exact ⟨fun h => ⟨h.1, h.2⟩, fun h => ⟨h.scheme, h.host⟩⟩

/-! The client refuses an address that it cannot ask or that does not fit, and no other one. -/

theorem refusal?_of_not_isHttp (h : ¬ r.url.IsHttp) :
    r.refusal? = some "URL scheme is not allowed" := by
  have hask : r.isAskable = false := Bool.eq_false_iff.mpr (mt isAskable_iff.mp h)
  simp [refusal?, hask]

theorem refusal?_of_not_fits (hhttp : r.url.IsHttp) (hfits : ¬ r.url.Fits) :
    r.refusal? = some "Parsed Url is not a valid Uri" := by
  have hwrite : r.isWritable = false := Bool.eq_false_iff.mpr (mt isWritable_iff.mp hfits)
  simp [refusal?, isAskable_iff.mpr hhttp, hwrite]

theorem refusal?_eq_none_iff : r.refusal? = none ↔ r.url.IsHttp ∧ r.url.Fits := by
  rw [← isAskable_iff, ← isWritable_iff, refusal?]
  cases r.isAskable <;> cases r.isWritable <;> simp

end Http.Request

namespace Backend

variable {b : Backend} {u : Url}

/-- The request for an address asks the same machine. -/
theorem isHttp_requestTo {pairs : List (String × String)} :
    (b.requestTo u pairs).url.IsHttp ↔ u.IsHttp := by
  unfold requestTo
  cases addressCredentials? u with
  | none => exact ⟨fun h => ⟨h.scheme, h.host⟩, fun h => ⟨h.scheme, h.host⟩⟩
  | some value =>
    constructor
    · rintro ⟨hscheme, _, hauthority, hhost⟩
      obtain ⟨a, ha, rfl⟩ := Option.map_eq_some_iff.mp hauthority
      exact ⟨hscheme, a, ha, hhost⟩
    · rintro ⟨hscheme, a, ha, hhost⟩
      exact ⟨hscheme, a.withoutUser, Option.map_eq_some_iff.mpr ⟨a, ha, rfl⟩, hhost⟩

end Backend

/-! ## Replies -/

/-- Whether a reply reports success and its body is a text of a document. -/
def Http.Reply.Holds (reply : Http.Reply) (document : Json) : Prop :=
  ∃ status charset body, reply = .received status charset body ∧ Http.isSuccess status = true ∧
    (Text.Utf8.decode? body).bind Json.read? = some document

theorem Backend.document_of_holds {reply : Http.Reply} {document : Json} (h : reply.Holds document)
    (b : Backend) (u : Url) : b.document u reply = .ok document := by
  obtain ⟨status, charset, body, rfl, hstatus, hbody⟩ := h
  simp [Backend.document, hstatus, hbody]

/-- Only a document is an answer. -/
theorem Backend.document_eq_ok_iff {b : Backend} {u : Url} {reply : Http.Reply} {document : Json} :
    b.document u reply = .ok document ↔ reply.Holds document := by
  refine ⟨fun h => ?_, fun h => document_of_holds h b u⟩
  cases reply with
  | refused reason => cases h
  | received status charset body =>
    simp only [Backend.document] at h
    split at h
    · next hstatus =>
      split at h
      · next hbody =>
        obtain rfl := Except.ok.inj h
        exact ⟨status, charset, body, rfl, hstatus, hbody⟩
      · cases h
    · cases h

theorem Http.holds_answered_iff {status : Nat} {body : List UInt8} {charset : Text.Charset}
    {document : Json} :
    (Reply.received status charset body).Holds document ↔
      (200 ≤ status ∧ status ≤ 299) ∧
        (Text.Utf8.decode? body).bind Json.read? = some document := by
  have hsuccess : isSuccess status = true ↔ 200 ≤ status ∧ status ≤ 299 := by
    simp [isSuccess]
  constructor
  · rintro ⟨_, _, _, heq, hstatus, hbody⟩
    obtain ⟨rfl, rfl, rfl⟩ := Reply.received.inj heq
    exact ⟨hsuccess.mp hstatus, hbody⟩
  · rintro ⟨hstatus, hbody⟩
    exact ⟨status, charset, body, rfl, hsuccess.mpr hstatus, hbody⟩

/-- Where a pointer leads in a document there is a list, or nothing. -/
def Json.HasRoomAt (document : Json) (pointer : String) : Prop :=
  document.pointer? pointer = none ∨ document.pointer? pointer = some .null ∨
    ∃ items, document.pointer? pointer = some (.array items)

theorem Endpoint.exists_listAt_iff {e : Endpoint} {pointer : String} {document : Json} :
    (∃ items, e.listAt pointer document = .ok items) ↔ document.HasRoomAt pointer := by
  unfold listAt Json.HasRoomAt
  cases document.pointer? pointer with
  | none => simp
  | some found => cases found <;> simp

/-- A document is an answer of an endpoint that lists nothing, and of one that lists something if
there is room for a list. -/
theorem Endpoint.exists_shape_iff {e : Endpoint} {document arguments : Json} {usual : Nat} :
    (∃ answer, e.shape document arguments usual = .ok answer) ↔
      ∀ pointer, e.list = some pointer → document.HasRoomAt pointer := by
  unfold shape
  cases hlist : e.list with
  | none => simp
  | some pointer =>
    simp only [Option.some.injEq, forall_eq']
    rw [← exists_listAt_iff (e := e)]
    cases e.listAt pointer document with
    | error failure => simp [Except.map]
    | ok items => simp [Except.map]

/-- A reply without success is an error that shows how the text of the body begins. -/
theorem Backend.document_of_not_isSuccess {status : Nat} (h : ¬ (200 ≤ status ∧ status ≤ 299))
    (b : Backend) (u : Url) (charset : Text.Charset) (body : List UInt8) :
    b.document u (.received status charset body) = .error (.of (b.service ++ " returned " ++
      Http.statusText status ++ ": " ++
        String.ofList ((Text.decodeMarked charset body).take maxErrorBody))) := by
  have hsuccess : ¬ Http.isSuccess status = true := by simpa [Http.isSuccess] using h
  rw [document, if_neg hsuccess]

namespace EndpointService

/-! ## Calls -/

/-- A call sends nothing, and this is why: its path cannot be made from the arguments or joined to
the address of the backend, or the address it leads to cannot be asked or does not fit into a
request. -/
inductive LeadsNowhere (c : Connection) (e : Endpoint) (arguments : Json) : Failure → Prop
  | unfilled {error : ArgumentError} (hpath : e.renderPath arguments = .error error) :
    LeadsNowhere c e arguments error.failure
  | unjoined {path : String} {failure : Failure} (hpath : e.renderPath arguments = .ok path)
      (hurl : c.backend.url path = .error failure) :
    LeadsNowhere c e arguments failure
  | foreign {path : String} {address : Url} (hpath : e.renderPath arguments = .ok path)
      (hurl : c.backend.url path = .ok address) (hhttp : ¬ address.IsHttp) :
    LeadsNowhere c e arguments ((Failure.of "URL scheme is not allowed").within
      (c.backend.service ++ " request to " ++ address.text ++ " failed"))
  | unfit {path : String} {address : Url} (hpath : e.renderPath arguments = .ok path)
      (hurl : c.backend.url path = .ok address) (hhttp : address.IsHttp)
      (hfits : ¬ (c.backend.requestTo address (e.renderQuery arguments)).url.Fits) :
    LeadsNowhere c e arguments ((Failure.of "Parsed Url is not a valid Uri").within
      (c.backend.service ++ " request to " ++ address.text ++ " failed"))

/-- A call leads to an address with a request that is sent. -/
structure LeadsTo (c : Connection) (e : Endpoint) (arguments : Json) (path : String)
    (address : Url) : Prop where
  render : e.renderPath arguments = .ok path
  join : c.backend.url path = .ok address
  http : address.IsHttp
  fits : (c.backend.requestTo address (e.renderQuery arguments)).url.Fits

section

variable {c : Connection} {e : Endpoint} {arguments : Json}

theorem leadsNowhere_or_leadsTo (c : Connection) (e : Endpoint) (arguments : Json) :
    (∃ failure, LeadsNowhere c e arguments failure) ∨
      ∃ path address, LeadsTo c e arguments path address := by
  cases hpath : e.renderPath arguments with
  | error error => exact .inl ⟨_, .unfilled hpath⟩
  | ok path =>
    cases hurl : c.backend.url path with
    | error failure => exact .inl ⟨_, .unjoined hpath hurl⟩
    | ok address =>
      by_cases hhttp : address.IsHttp
      · by_cases hfits : (c.backend.requestTo address (e.renderQuery arguments)).url.Fits
        · exact .inr ⟨path, address, hpath, hurl, hhttp, hfits⟩
        · exact .inl ⟨_, .unfit hpath hurl hhttp hfits⟩
      · exact .inl ⟨_, .foreign hpath hurl hhttp⟩

theorem leadsTo_iff {path : String} {address : Url} :
    LeadsTo c e arguments path address ↔
      e.renderPath arguments = .ok path ∧ c.backend.url path = .ok address ∧
        (c.backend.requestTo address (e.renderQuery arguments)).refusal? = none := by
  rw [Http.Request.refusal?_eq_none_iff, Backend.isHttp_requestTo]
  exact ⟨fun h => ⟨h.render, h.join, h.http, h.fits⟩,
    fun ⟨hrender, hjoin, hhttp, hfits⟩ => ⟨hrender, hjoin, hhttp, hfits⟩⟩

/-- A call whose request the client refuses. -/
theorem call_of_refusal {path : String} {address : Url} {reason : String}
    (hpath : e.renderPath arguments = .ok path) (hurl : c.backend.url path = .ok address)
    (hreason : (c.backend.requestTo address (e.renderQuery arguments)).refusal? = some reason)
    (reply : Http.Reply) :
    call c e arguments reply = (.error ((Failure.of reason).within
      (c.backend.service ++ " request to " ++ address.text ++ " failed")), []) := by
  simp only [call, handler, hpath, Backend.request, hurl, Except.map, Exchange.run, hreason]
  rfl

/-- Whatever the other side would reply, a call that leads nowhere fails with the reason, and nothing
is sent. -/
theorem call_of_leadsNowhere {failure : Failure} (h : LeadsNowhere c e arguments failure)
    (reply : Http.Reply) : call c e arguments reply = (.error failure, []) := by
  cases h with
  | unfilled hpath =>
    simp only [call, handler, hpath]
    rfl
  | unjoined hpath hurl =>
    simp only [call, handler, hpath, Backend.request, hurl, Except.map]
    rfl
  | foreign hpath hurl hhttp =>
    refine call_of_refusal hpath hurl (Http.Request.refusal?_of_not_isHttp ?_) reply
    rwa [Backend.isHttp_requestTo]
  | unfit hpath hurl hhttp hfits =>
    refine call_of_refusal hpath hurl (Http.Request.refusal?_of_not_fits ?_ hfits) reply
    rwa [Backend.isHttp_requestTo]

/-- A call that leads somewhere sends one request, and its outcome is what the endpoint makes of the
document in the reply. -/
theorem call_of_leadsTo {path : String} {address : Url} (h : LeadsTo c e arguments path address)
    (reply : Http.Reply) :
    call c e arguments reply = (do
      e.shape (← c.backend.document address reply) arguments c.pageSize,
      [c.backend.requestTo address (e.renderQuery arguments)]) := by
  obtain ⟨hrender, hjoin, hsent⟩ := leadsTo_iff.mp h
  simp only [call, handler, hrender, Backend.request, hjoin, Except.map, Exchange.run, hsent]
  rfl

theorem LeadsTo.not_leadsNowhere {path : String} {address : Url}
    (h : LeadsTo c e arguments path address) (failure : Failure) :
    ¬ LeadsNowhere c e arguments failure := fun hnowhere => by
  have hcall := call_of_leadsTo h (.refused "")
  rw [call_of_leadsNowhere hnowhere] at hcall
  cases congrArg Prod.snd hcall

end

/-- Whatever the other side replies, a call sends nothing exactly if it leads nowhere, and then it
fails with the reason; otherwise it sends the one request for the path with the pairs of the endpoint.
It is answered exactly if a request was sent, the reply reports success, the body is a document, and
there is room for a list in it where the endpoint lists something; the answer is then what the
endpoint makes of the document, and the document itself if it lists nothing. A reply that reports
anything else is an error with the name of the service and the status, and behind them as much of the
text of the body as there is up to 512 characters. -/
theorem call_answers_documents (c : Connection) (e : Endpoint) (arguments : Json) (status : Nat)
    (charset : Text.Charset) (body : List UInt8) :
    let result := call c e arguments (.received status charset body)
    let document? := (Text.Utf8.decode? body).bind Json.read?
    (result.2 = [] ↔ ∃ failure, LeadsNowhere c e arguments failure) ∧
    (∀ failure, LeadsNowhere c e arguments failure → result.1 = .error failure) ∧
    (result.2 ≠ [] → ∃ path address, LeadsTo c e arguments path address ∧
      result.2 = [c.backend.requestTo address (e.renderQuery arguments)]) ∧
    ((∃ answer, result.1 = .ok answer) ↔
      result.2 ≠ [] ∧ (200 ≤ status ∧ status ≤ 299) ∧
        ∃ document, document? = some document ∧
          ∀ pointer, e.list = some pointer → document.HasRoomAt pointer) ∧
    (∀ answer, result.1 = .ok answer → ∃ document, document? = some document ∧
      e.shape document arguments c.pageSize = .ok answer ∧ (e.list = none → answer = document)) ∧
    (result.2 ≠ [] → ¬ (200 ≤ status ∧ status ≤ 299) →
      ∃ (text : List Char) (shown : String), Text.IsTextOf charset body text ∧
        result.1 = .error (.of (c.backend.service ++ " returned " ++ Http.statusText status ++
          ": " ++ shown)) ∧
        shown.toList <+: text ∧ shown.length ≤ 512 ∧
        ∀ other, other <+: text → other.length ≤ 512 → other <+: shown.toList) := by
  intro result document?
  rcases leadsNowhere_or_leadsTo c e arguments with
    ⟨failure, hnowhere⟩ | ⟨path, address, hleads⟩
  · have hresult : result = (.error failure, []) := call_of_leadsNowhere hnowhere _
    have hunique : ∀ failure', LeadsNowhere c e arguments failure' → failure = failure' :=
      fun failure' h =>
        Except.error.inj (congrArg Prod.fst (hresult.symm.trans (call_of_leadsNowhere h _)))
    rw [hresult]
    refine ⟨iff_of_true rfl ⟨failure, hnowhere⟩, fun failure' h => by rw [hunique failure' h],
      fun hne => absurd rfl hne, ?_, nofun, fun hne => absurd rfl hne⟩
    constructor
    · rintro ⟨answer, h⟩
      cases h
    · rintro ⟨hne, -⟩
      exact absurd rfl hne
  · have hresult : result = _ := call_of_leadsTo hleads _
    have hsent : result.2 ≠ [] := by
      rw [hresult]
      exact List.cons_ne_nil _ _
    -- the answer is what the endpoint makes of a document that the reply holds
    have hanswer (answer : Json) : result.1 = .ok answer ↔
        ∃ document, (Http.Reply.received status charset body).Holds document ∧
          e.shape document arguments c.pageSize = .ok answer := by
      rw [hresult]
      constructor
      · intro h
        obtain ⟨document, hdocument, hshape⟩ := exists_of_bind_eq_ok h
        exact ⟨document, Backend.document_eq_ok_iff.mp hdocument, hshape⟩
      · rintro ⟨document, hdocument, hshape⟩
        rw [Backend.document_of_holds hdocument]
        exact hshape
    refine ⟨iff_of_false hsent (not_exists.mpr hleads.not_leadsNowhere),
      fun failure h => absurd h (hleads.not_leadsNowhere failure),
      fun _ => ⟨path, address, hleads, by rw [hresult]⟩, ?_, ?_, ?_⟩
    · constructor
      · rintro ⟨answer, h⟩
        obtain ⟨document, hholds, hshape⟩ := (hanswer answer).mp h
        obtain ⟨hstatus, hbody⟩ := Http.holds_answered_iff.mp hholds
        exact ⟨hsent, hstatus, document, hbody, Endpoint.exists_shape_iff.mp ⟨answer, hshape⟩⟩
      · rintro ⟨-, hstatus, document, hbody, hroom⟩
        obtain ⟨answer, hshape⟩ := Endpoint.exists_shape_iff.mpr hroom
        have hholds : (Http.Reply.received status charset body).Holds document :=
          Http.holds_answered_iff.mpr ⟨hstatus, hbody⟩
        exact ⟨answer, (hanswer answer).mpr ⟨document, hholds, hshape⟩⟩
    · intro answer h
      obtain ⟨document, hholds, hshape⟩ := (hanswer answer).mp h
      refine ⟨document, (Http.holds_answered_iff.mp hholds).2, hshape, fun hlist => ?_⟩
      rw [Endpoint.shape, hlist] at hshape
      exact (Except.ok.inj hshape).symm
    · intro _ hstatus
      have htext := Text.isTextOf_decodeMarked charset body
      refine ⟨_, String.ofList ((Text.decodeMarked charset body).take 512), htext, ?_, ?_, ?_, ?_⟩
      · rw [hresult, Backend.document_of_not_isSuccess hstatus]
        rfl
      · rw [String.toList_ofList]
        exact List.take_prefix _ _
      · rw [String.length_ofList]
        exact List.length_take_le _ _
      · intro other hother hlength
        rw [String.toList_ofList]
        exact List.prefix_take_iff.mpr ⟨hother, hlength⟩

end EndpointService

/-- A backend at an address without a path. -/
def rootBackend : Backend :=
  { service := "hosts"
    base := ⟨"http", some ⟨"", none, .domain "h", none⟩, .segments [""], none, none⟩
    headers := NameMap.empty.insert "accept" "application/json" }

/-- The load of a host. -/
def hostLoad : Endpoint :=
  { tool := "hosts_load", description := "Load of a host", path := "/\x7bhost\x7d/load" }

namespace EndpointService

/-- Of six hundred characters with two octets each the first 512 are shown. -/
theorem call_shows_beginning :
    let arguments := Json.object [("host", .string "a")]
    let body := Text.Utf8.encode (List.replicate 600 'é')
    let address := { rootBackend.base with path := .segments ["a", "load"] }
    call ⟨rootBackend, 50⟩ hostLoad arguments (.received 503 .utf8 body) =
      (.error (.of ("hosts returned 503 Service Unavailable: " ++
          String.ofList (List.replicate 512 'é'))), [⟨address, rootBackend.headers⟩]) := by
  intro arguments body address
  have hjoin : rootBackend.url "/a/load" = .ok address := by decide +kernel
  have hleads : LeadsTo ⟨rootBackend, 50⟩ hostLoad arguments "/a/load" address :=
    leadsTo_iff.mpr ⟨by decide +kernel, hjoin, by decide +kernel⟩
  have hrequest := congrArg Prod.snd (call_of_leadsTo hleads (.received 503 .utf8 body))
  obtain ⟨-, -, -, -, -, hshown⟩ :=
    call_answers_documents ⟨rootBackend, 50⟩ hostLoad arguments 503 .utf8 body
  obtain ⟨text, shown, htext, hresult, hprefix, hlength, hlongest⟩ :=
    hshown (by rw [hrequest]; exact List.cons_ne_nil _ _) (by decide)
  have hread : text = List.replicate 512 'é' ++ List.replicate 88 'é' := by
    rw [Text.isTextOf_iff.mp htext, Text.decodeMarked_encode (by rw [List.head?_replicate]; decide),
      List.replicate_append_replicate]
  have hbeginning : List.replicate 512 'é' <+: shown.toList :=
    hlongest _ (hread ▸ List.prefix_append _ _) (by rw [List.length_replicate])
  have hall : List.replicate 512 'é' = shown.toList :=
    hbeginning.eq_of_length_le (by rwa [List.length_replicate])
  refine Prod.ext (hresult.trans ?_) hrequest
  rw [hall, String.ofList_toList]
  rfl

/-- An endpoint on another kind of host. -/
def foreignLoad : Endpoint :=
  { tool := "hosts_load", description := "Load of a host", path := "ftp://h/load" }

/-- It takes an address of HTTP: a path with another scheme is joined, and nothing is sent. -/
theorem joined_not_sent :
    ¬ ∀ (service : String) (settings : Option BackendConfig) (b : Backend) (usual : Nat)
        (e : Endpoint) (arguments : Json) (reply : Http.Reply),
      Backend.connect service settings = .ok b →
      ((call ⟨b, usual⟩ e arguments reply).2 = [] ↔
        (∃ error, e.renderPath arguments = .error error) ∨
          ∃ path failure, e.renderPath arguments = .ok path ∧ b.url path = .error failure) := by
  intro hall
  have hrender : foreignLoad.renderPath .null = .ok "ftp://h/load" := by decide +kernel
  have hjoin : rootBackend.url "ftp://h/load" =
      .ok ⟨"ftp", some ⟨"", none, .domain "h", none⟩, .segments ["load"], none, none⟩ := by
    decide +kernel
  have hnowhere : LeadsNowhere ⟨rootBackend, 50⟩ foreignLoad .null _ :=
    .foreign hrender hjoin fun h => absurd h.scheme (by decide)
  have hnothing := congrArg Prod.snd (call_of_leadsNowhere hnowhere (.answered 200 []))
  rcases (hall "hosts" (some { url := some "http://h" }) rootBackend 50 foreignLoad .null
    (.answered 200 []) (by decide +kernel)).mp hnothing with
    ⟨error, herror⟩ | ⟨path, failure, hpath, herror⟩
  · cases hrender.symm.trans herror
  · obtain rfl := Except.ok.inj (hrender.symm.trans hpath)
    cases hjoin.symm.trans herror

end EndpointService

end Switchboard
