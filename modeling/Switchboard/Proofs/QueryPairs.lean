import Mathlib.Data.Bool.AllAny
import Switchboard.Proofs.Confinement
import Switchboard.Proofs.Filling
import Switchboard.Proofs.FormText

/-!
# Pairs in the query of a request

What the other side reads in the query of a request are the pairs that the endpoint gives
(`request_carries_pairs`): those of the endpoint itself, and one for each declared argument with a
text (`GivenPairs`). The address of a request has no query of its own, because a path of characters
that stand for themselves is read as a path and nothing else (`url_of_pathChars`), and what follows
the question mark is form data.

This takes a path in which every placeholder is filled. A placeholder that is also the end of a later
one is filled there as well; what is left of the later one is literal text, and with a question mark
in it a value becomes part of the query (`value_becomes_pair`).
-/

namespace Switchboard

/-! ## Declared arguments -/

/-- The pairs that arguments give for names, name by name: one for a text, and none where there is no
text. -/
inductive GivenPairs (arguments : Json) : List String → List (String × String) → Prop
  | nil : GivenPairs arguments [] []
  | holds {name text : String} {names : List String} {pairs : List (String × String)}
      (htext : HoldsText arguments name text) (hrest : GivenPairs arguments names pairs) :
    GivenPairs arguments (name :: names) ((name, text) :: pairs)
  | lacks {name : String} {names : List String} {pairs : List (String × String)}
      (hnone : LacksText arguments name) (hrest : GivenPairs arguments names pairs) :
    GivenPairs arguments (name :: names) pairs

theorem Endpoint.exists_givenPairs (e : Endpoint) (arguments : Json) :
    ∃ given, e.renderQuery arguments = e.fixed ++ given ∧ GivenPairs arguments e.query given := by
  refine ⟨_, rfl, ?_⟩
  generalize e.query = names
  induction names with
  | nil => exact .nil
  | cons name rest ih =>
    cases htext : argumentText? arguments name with
    | none =>
      rw [List.filterMap_cons_none (by rw [htext, Option.map_none])]
      exact .lacks (argumentText?_eq_none.mp htext) ih
    | some text =>
      rw [List.filterMap_cons_some (by rw [htext, Option.map_some])]
      exact .holds (argumentText?_eq_some.mp htext) ih

/-! ## Reading a request -/

/-- The pairs that the other side reads in a request: the form data behind the first question mark of
its target. -/
def Http.Request.pairs (r : Http.Request) : List (String × String) :=
  Form.decode ((r.target.toList.dropWhile (· ≠ '?')).drop 1)

theorem Url.not_mem_pathText {parts : List String} (h : ∀ part ∈ parts, '?' ∉ part.toList) :
    '?' ∉ (pathText (.segments parts)).toList := by
  simp only [pathText, String.toList_join, List.mem_flatMap, List.mem_map]
  rintro ⟨_, ⟨part, hpart, rfl⟩, hmark⟩
  rw [String.toList_append] at hmark
  rcases List.mem_append.mp hmark with hslash | hmark
  · exact absurd (List.mem_singleton.mp hslash) (by decide)
  · exact h part hpart hmark

theorem Http.Request.pairs_of_addPairs {u : Url} {r : Http.Request} (hquery : u.query = none)
    (hmark : '?' ∉ (Url.pathText u.path).toList) {pairs : List (String × String)}
    (hr : r.url = u.addPairs pairs) :
    r.pairs = pairs ∧ ('?' ∈ r.target.toList ↔ pairs ≠ []) := by
  have hpath : ∀ c ∈ (Url.pathText u.path).toList, decide (c ≠ '?') = true := fun c hc =>
    decide_eq_true fun heq => hmark (heq ▸ hc)
  have htarget : r.target.toList = (Url.pathText u.path).toList ++
      if pairs = [] then [] else '?' :: Form.encode pairs := by
    have hencode : Form.append ((u.query.getD "").toList) pairs = Form.encode pairs := by
      rw [hquery]
      rfl
    rw [target, hr, Url.addPairs, hencode, String.toList_append]
    congr 1
    by_cases hpairs : pairs = []
    · subst hpairs
      rfl
    · have hsome : (Form.encode pairs).isEmpty = false := by
        simp [Form.encode_eq_nil_iff, hpairs]
      simp [hsome, hpairs, Url.queryText]
  rw [Request.pairs, htarget, List.dropWhile_append_of_pos hpath]
  by_cases hpairs : pairs = []
  · subst hpairs
    simp [hmark]
    rfl
  · simp [hpairs, Form.decode_encode]

/-! ## The address of a path -/

/-- The request for an address differs from it in the query, and it may in the authority. -/
theorem Backend.url_requestTo (b : Backend) (u : Url) (pairs : List (String × String)) :
    ∃ authority, (b.requestTo u pairs).url = { u with authority := authority }.addPairs pairs := by
  unfold requestTo
  cases addressCredentials? u with
  | none => exact ⟨u.authority, rfl⟩
  | some value => exact ⟨u.authority.map (·.withoutUser), rfl⟩

/-- A path of characters that stand for themselves is read as a path and nothing else, so the query
of the base is not kept either. -/
theorem Backend.url_of_pathChars {b : Backend} {parts : List String}
    (hbase : b.base.path = .segments (parts ++ [""])) (hmark : ∀ part ∈ parts, '?' ∉ part.toList)
    {path : String} (hchars : ∀ c ∈ path.toList, Url.isPathChar c = true)
    (hslashes : ∃ c ∈ path.toList, c ≠ '/') :
    ∃ u, b.url path = .ok u ∧ u.query = none ∧ '?' ∉ (Url.pathText u.path).toList := by
  obtain ⟨c, hc, hslash⟩ := hslashes
  have hrest : ∀ c ∈ path.toList.dropWhile (· = '/'), Url.isPathChar c = true := fun c hc =>
    hchars c (List.dropWhile_subset _ hc)
  have hne : path.toList.dropWhile (· = '/') ≠ [] := fun hnil =>
    hslash (of_decide_eq_true (List.dropWhile_eq_nil_iff.mp hnil c hc))
  have hhead : (path.toList.dropWhile (· = '/')).head? ≠ some '/' := fun hsome => by
    have hstop := List.head?_dropWhile_not (fun c => decide (c = '/')) path.toList
    rw [hsome] at hstop
    cases hstop
  have hjoin := Url.join_path (by rwa [String.toList_ofList]) (by simpa using hne)
    (by rwa [String.toList_ofList]) b.base
  refine ⟨_, by rw [url, hjoin], rfl, Url.not_mem_pathText (Url.not_mem_follow ?_ _)⟩
  have hsegments : b.base.segments.dropLast = parts := by
    rw [Url.segments, hbase, List.dropLast_concat]
  rwa [hsegments]

/-! ## Paths of plain text -/

/-- The literal text of a template. -/
def Template.literal (template : String) : List Char :=
  (pieces template.toList).1.flatMap (·.1) ++ (pieces template.toList).2

theorem Template.char_mem_symbols {template : String} {c : Char} :
    .char c ∈ symbols template.toList ↔ c ∈ literal template := by
  simp [symbols, literal]

section

variable {e : Endpoint} {arguments : Json} {path : String}

theorem isPathChar_of_renderPath
    (hliteral : ∀ c ∈ Template.literal e.path, c.isAlphanum = true ∨ c ∈ ['/', '-', '_', '.'])
    (hapart : Template.Apart e.pathParams) (hpath : e.renderPath arguments = .ok path) :
    ∀ c ∈ path.toList, Url.isPathChar c = true := by
  obtain ⟨hvalues, htext⟩ := (Endpoint.renderPath_eq_ok hapart).mp hpath
  have hmarks : ∀ c ∈ ['/', '-', '_', '.'], Url.isPathChar c = true :=
    List.all_eq_true.mp (by decide)
  rw [htext]
  intro c hc
  obtain ⟨symbol, hsymbol, hc⟩ := List.mem_flatMap.mp hc
  cases symbol with
  | char d =>
    obtain rfl := List.mem_singleton.mp hc
    rcases hliteral c (Template.char_mem_symbols.mp hsymbol) with halnum | hmark
    · exact (isPathChar_of_isSegmentChar (by simp [isSegmentChar, halnum])).1
    · exact hmarks c hmark
  | hole name =>
    have hvalue := hvalues name (Template.hole_mem_symbols.mp hsymbol)
    exact (isPathChar_of_isSegmentChar (isSegmentChar_of_mem hvalue hc)).1

/-- A call whose path has letters, digits and a few marks for literal text, and leads further than
the base, sends a request, and in it the other side reads the pairs of the endpoint and those of the
arguments, in this order, and nothing else, whatever the texts are. Without a pair there is no
question mark. -/
theorem request_carries_pairs {service : String} {settings : Option BackendConfig} {b : Backend}
    (hconnect : Backend.connect service settings = .ok b) (usual : Nat)
    (hliteral : ∀ c ∈ Template.literal e.path, c.isAlphanum = true ∨ c ∈ ['/', '-', '_', '.'])
    (hapart : Template.Apart e.pathParams) (hpath : e.renderPath arguments = .ok path)
    (hslashes : ∃ c ∈ path.toList, c ≠ '/') :
    ∃ request finish, EndpointService.handler ⟨b, usual⟩ e arguments = .fetch request finish ∧
      request.pairs = e.renderQuery arguments ∧
      ('?' ∈ request.target.toList ↔ e.renderQuery arguments ≠ []) ∧
      ∃ given, e.renderQuery arguments = e.fixed ++ given ∧ GivenPairs arguments e.query given := by
  obtain ⟨-, parts, hbase, hmark⟩ := Backend.base_of_connect hconnect
  obtain ⟨u, hurl, hquery, hpathMark⟩ := Backend.url_of_pathChars hbase hmark
    (isPathChar_of_renderPath hliteral hapart hpath) hslashes
  obtain ⟨finish, hsend⟩ : ∃ finish, EndpointService.handler ⟨b, usual⟩ e arguments =
      .fetch (b.requestTo u (e.renderQuery arguments)) finish := by
    simp only [EndpointService.handler, hpath, Backend.request, hurl, Except.map]
    exact ⟨_, rfl⟩
  obtain ⟨a, hrequest⟩ := b.url_requestTo u (e.renderQuery arguments)
  obtain ⟨hpairs, hiff⟩ := Http.Request.pairs_of_addPairs
    (u := { u with authority := a }) hquery hpathMark hrequest
  exact ⟨_, _, hsend, hpairs, hiff, e.exists_givenPairs arguments⟩

end

/-- A backend whose address has a query. -/
def keyedBackend : Backend :=
  { service := "pods"
    base := ⟨"http", some ⟨"", none, .domain "h", none⟩, .segments ["p", ""], some "x=1", none⟩
    headers := NameMap.empty.insert "accept" "application/json" }

/-- A name with a question mark that ends with a placeholder, in front of that placeholder. -/
def markedName : Endpoint :=
  { tool := "pods_get", description := "Pods", path := "/\x7ba?\x7bns\x7d/../\x7bns\x7d"
    query := ["q", "none", "q"], fixed := [("a b", "é&=")] }

/-- Marks in values, a query of the base, and a name that is declared twice. -/
theorem markedName_carries_pairs :
    let arguments := Json.object [("a?\x7bns", .string "v"), ("none", .null), ("ns", .string "w"),
      ("q", .string "1&x=2+%26")]
    Backend.connect "pods" (some { url := some "http://h/p?x=1" }) = .ok keyedBackend ∧
    (∀ c ∈ Template.literal markedName.path, c.isAlphanum = true ∨ c ∈ ['/', '-', '_', '.']) ∧
    Template.Apart markedName.pathParams ∧
    markedName.renderPath arguments = .ok "/v/../w" ∧ (∃ c ∈ "/v/../w".toList, c ≠ '/') ∧
    ∃ request finish,
      EndpointService.handler ⟨keyedBackend, 50⟩ markedName arguments = .fetch request finish ∧
      request.pairs = [("a b", "é&="), ("q", "1&x=2+%26"), ("q", "1&x=2+%26")] := by
  intro arguments
  have hconnect : Backend.connect "pods" (some { url := some "http://h/p?x=1" }) =
      .ok keyedBackend := by
    decide +kernel
  have hliteral : ∀ c ∈ Template.literal markedName.path,
      c.isAlphanum = true ∨ c ∈ ['/', '-', '_', '.'] :=
    List.all_iff_forall_prop.mp (by decide +kernel)
  have hapart : Template.Apart markedName.pathParams := by decide +kernel
  have hpath : markedName.renderPath arguments = .ok "/v/../w" := by decide +kernel
  have hslashes : ∃ c ∈ "/v/../w".toList, c ≠ '/' := ⟨'v', by decide +kernel, by decide⟩
  have hquery : markedName.renderQuery arguments =
      [("a b", "é&="), ("q", "1&x=2+%26"), ("q", "1&x=2+%26")] := by
    decide +kernel
  obtain ⟨request, finish, hsend, hpairs, -⟩ :=
    request_carries_pairs hconnect 50 hliteral hapart hpath hslashes
  exact ⟨hconnect, hliteral, hapart, hpath, hslashes, request, finish, hsend,
    hpairs.trans hquery⟩

/-- The same name behind the placeholder it ends with. -/
def nestedName : Endpoint :=
  { tool := "pods_get", description := "Pods", path := "/\x7bns\x7d/\x7ba?\x7bns\x7d" }

/-- It takes placeholders that are all filled: where one is filled inside another one, the question
mark of the other one is literal text, and the value behind it is read as a pair. -/
theorem value_becomes_pair :
    ¬ ∀ (service : String) (settings : Option BackendConfig) (b : Backend) (usual : Nat)
        (e : Endpoint) (arguments : Json) (path : String),
      Backend.connect service settings = .ok b →
      (∀ c ∈ Template.literal e.path, c.isAlphanum = true ∨ c ∈ ['/', '-', '_', '.']) →
      e.renderPath arguments = .ok path → (∃ c ∈ path.toList, c ≠ '/') →
      ∃ request finish, EndpointService.handler ⟨b, usual⟩ e arguments = .fetch request finish ∧
        request.pairs = e.renderQuery arguments := by
  intro hall
  let arguments := Json.object [("a?\x7bns", .string "v"), ("ns", .string "y=2")]
  have hpath : nestedName.renderPath arguments = .ok "/y=2/\x7ba?y=2" := by decide +kernel
  have hurl : keyedBackend.url "/y=2/\x7ba?y=2" = .ok { keyedBackend.base with
      path := .segments ["p", "y=2", "%7Ba"], query := some "y=2" } := by
    decide +kernel
  obtain ⟨request, finish, hsend, hpairs⟩ := hall "pods" (some { url := some "http://h/p?x=1" })
    keyedBackend 50 nestedName arguments _ (by decide +kernel)
    (List.all_iff_forall_prop.mp (by decide +kernel)) hpath ⟨'y', by decide +kernel, by decide⟩
  simp only [EndpointService.handler, hpath, Backend.request, hurl, Except.map] at hsend
  obtain ⟨rfl, -⟩ := Exchange.fetch.inj hsend
  exact absurd hpairs (by decide +kernel)

end Switchboard
