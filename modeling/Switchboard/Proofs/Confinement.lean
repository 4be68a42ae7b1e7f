import Switchboard.Builtin
import Switchboard.Proofs.Joining
import Switchboard.Proofs.Rendering

/-!
# Requests stay with their backend

The path of a builtin endpoint is a slash and plain text with placeholders (`isRooted_of_builtin`).
Whatever fills the placeholders, what follows the slash is a text of plain segments
(`renderPath_plain`), so joined to the base of a backend it goes on where the base ends
(`url_of_builtin`).
-/

namespace Switchboard

/-! ## Templates -/

/-- Literal text without dots that may stand in a path as it is, and placeholders whose values are
not taken for placeholders. -/
def Template.Symbol.isTame : Template.Symbol → Bool
  | .char c => c = '/' || isSegmentChar c && c ≠ '.'
  | .hole name => !name.toList.contains '\x7b'

/-- Whether the path of an endpoint is one slash and tame text behind it. -/
def Endpoint.isRooted (e : Endpoint) : Bool :=
  match Template.symbols e.path.toList with
  | .char '/' :: rest => rest.all (·.isTame) && rest.head? ≠ some (.char '/')
  | _ => false

theorem isRooted_of_builtin : ∀ e ∈ Builtin.allEndpoints, e.isRooted = true := by
  decide +kernel

/-! ## Values -/

theorem isPathChar_of_isSegmentChar {c : Char} (h : isSegmentChar c = true) :
    Url.isPathChar c = true ∧ c ≠ '/' :=
  of_isSegmentChar (p := fun c => Url.isPathChar c = true ∧ c ≠ '/') (by decide +kernel) h

section

open Template

variable {values : String → String} {syms : List Symbol}

/-- Characters that stand for themselves and values come to a plain segment: a dot in it belongs to
a value, and nothing around a value is a dot segment. -/
theorem isPlain_filled (hchars : ∀ c, .char c ∈ syms → isSegmentChar c = true ∧ c ≠ '.')
    (hholes : ∀ name, .hole name ∈ syms → isSegment (values name) = true) :
    Url.IsPlain (filled values syms) := by
  have hdots (hdot : '.' ∈ filled values syms) :
      filled values syms ≠ ['.'] ∧ filled values syms ≠ ['.', '.'] := by
    obtain ⟨symbol, hsymbol, hdot⟩ := List.mem_flatMap.mp hdot
    cases symbol with
    | char c => exact absurd (List.mem_singleton.mp hdot).symm (hchars c hsymbol).2
    | hole name => exact (dots_ne_of_value (hholes name hsymbol) (infix_filled values hsymbol)).2
  refine ⟨fun c hc => ?_, fun heq => ?_, fun heq => ?_⟩
  · obtain ⟨symbol, hsymbol, hmem⟩ := List.mem_flatMap.mp hc
    refine (isPathChar_of_isSegmentChar ?_).1
    cases symbol with
    | char d =>
      obtain rfl := List.mem_singleton.mp hmem
      exact (hchars _ hsymbol).1
    | hole name => exact isSegmentChar_of_mem (hholes name hsymbol) hmem
  · exact (hdots (heq ▸ List.mem_cons_self)).1 heq
  · exact (hdots (heq ▸ List.mem_cons_self)).2 heq

/-- Tame symbols behind a slash come to plain segments, and to no second slash. -/
theorem isPlain_of_tame (htame : ∀ symbol ∈ syms, symbol.isTame = true)
    (hholes : ∀ name, .hole name ∈ syms → isSegment (values name) = true)
    (hhead : syms.head? ≠ some (.char '/')) :
    (filled values syms).head? ≠ some '/' ∧
      ∀ cs ∈ (filled values syms).splitOn '/', Url.IsPlain cs := by
  have hvalues : ∀ name, .hole name ∈ syms → '/' ∉ (values name).toList := fun name hname hmem =>
    (isPathChar_of_isSegmentChar (isSegmentChar_of_mem (hholes name hname) hmem)).2 rfl
  constructor
  · cases syms with
    | nil => exact nofun
    | cons symbol rest =>
      rw [filled, List.flatMap_cons]
      cases symbol with
      | char c => exact fun hslash => hhead (congrArg (some ∘ Symbol.char) (Option.some.inj hslash))
      | hole name =>
        have hne : (values name).toList ≠ [] :=
          (dots_ne_of_value (hholes name List.mem_cons_self) (List.infix_refl _)).1
        rw [Symbol.written, List.head?_append_of_ne_nil _ hne]
        exact fun hslash => hvalues name List.mem_cons_self (List.mem_of_mem_head? hslash)
  · intro cs hcs
    rw [splitOn_filled values hvalues] at hcs
    obtain ⟨part, hpart, rfl⟩ := List.mem_map.mp hcs
    refine isPlain_filled (fun c hc => ?_) fun name hname =>
      hholes name (mem_of_mem_splitOn hpart hname).1
    obtain ⟨hmem, hne⟩ := mem_of_mem_splitOn hpart hc
    have hslash : c ≠ '/' := fun heq => hne (congrArg Symbol.char heq)
    simpa [Symbol.isTame, hslash] using htame _ hmem

end

/-! ## Paths -/

theorem renderPath_plain {e : Endpoint} {arguments : Json} {path : String}
    (he : e.isRooted = true) (hpath : e.renderPath arguments = .ok path) :
    ∃ rest, path = "/" ++ rest ∧ rest.toList.head? ≠ some '/' ∧
      ∀ cs ∈ rest.toList.splitOn '/', Url.IsPlain cs := by
  unfold Endpoint.isRooted at he
  split at he
  · next syms hsyms =>
    rw [Bool.and_eq_true, List.all_eq_true, decide_eq_true_eq] at he
    have hmem : ∀ name ∈ e.pathParams, .hole name ∈ syms := fun name hname => by
      have hhole := Template.hole_mem_symbols.mpr hname
      rw [hsyms] at hhole
      exact (List.mem_cons.mp hhole).resolve_left nofun
    have hnames : ∀ name ∈ e.pathParams, '\x7b' ∉ name.toList := fun name hname => by
      simpa [Template.Symbol.isTame] using he.1 _ (hmem name hname)
    obtain ⟨hsegments, htext⟩ :=
      (Endpoint.renderPath_eq_ok (Template.apart_of_not_mem hnames)).mp hpath
    rw [hsyms] at htext
    have hholes : ∀ name, .hole name ∈ syms → isSegment (filler arguments name) = true :=
      fun name hname => hsegments name (Template.hole_mem_symbols.mp
        (hsyms ▸ List.mem_cons_of_mem _ hname))
    refine ⟨String.ofList (Template.filled (filler arguments) syms), ?_, ?_⟩
    · have hslash : ("/" : String).toList = ['/'] := rfl
      rw [← String.toList_inj, htext, String.toList_append, hslash, String.toList_ofList]
      exact List.flatMap_cons
    · rw [String.toList_ofList]
      exact isPlain_of_tame he.1 hholes he.2
  · cases he

/-- The path of a builtin endpoint, whatever the arguments are, leads to what is below the base of
its backend: scheme, credentials, host and port are those of the base, and so is the path up to its
last slash, which is where the rendered path goes on as it is. -/
theorem url_of_builtin {service : String} {settings : Option BackendConfig} {b : Backend}
    (hconnect : Backend.connect service settings = .ok b) {e : Endpoint}
    (he : e ∈ Builtin.allEndpoints) {arguments : Json} {path : String}
    (hpath : e.renderPath arguments = .ok path) :
    (∃ stem, Url.pathText b.base.path = stem ++ "/") ∧
    ∃ rest u, path = "/" ++ rest ∧ b.url path = .ok u ∧ u.scheme = b.base.scheme ∧
      u.authority = b.base.authority ∧ u.fragment = none ∧
      Url.pathText u.path = Url.pathText b.base.path ++ rest := by
  obtain ⟨hkind, parts, hparts, -⟩ := Backend.base_of_connect hconnect
  obtain ⟨rest, rfl, hhead, hplain⟩ := renderPath_plain (isRooted_of_builtin e he) hpath
  obtain ⟨u, hjoin, hsame⟩ := Url.join_of_plain hparts hkind hplain hhead
  refine ⟨⟨Url.pathText (.segments parts), ?_⟩, rest, u, rfl, Backend.url_eq_ok hhead hjoin, hsame⟩
  rw [hparts, Url.pathText_append]
  rfl

/-- A backend below a path of its host, with credentials in its address. -/
def searchBackend : Backend :=
  { service := "elasticsearch"
    base := ⟨"https", some ⟨"reader", some "pw", .domain "search", some 9200⟩,
      .segments ["logs", "eu", ""], none, none⟩
    headers := NameMap.empty.insert "accept" "application/json" }

/-- A pattern in the first segment. -/
theorem url_of_index_mapping :
    Backend.connect "elasticsearch"
      (some { url := some "https://reader:pw@search:9200/logs/eu" }) = .ok searchBackend ∧
    ∃ e ∈ Builtin.allEndpoints,
      e.renderPath (.object [("index", .string "app-*,-app-1")]) = .ok "/app-*,-app-1/_mapping" ∧
      ∃ u, searchBackend.url "/app-*,-app-1/_mapping" = .ok u ∧
        u.authority = searchBackend.base.authority ∧
        Url.pathText u.path = "/logs/eu/app-*,-app-1/_mapping" := by
  have hconnect : Backend.connect "elasticsearch"
      (some { url := some "https://reader:pw@search:9200/logs/eu" }) = .ok searchBackend := by
    decide +kernel
  obtain ⟨e, he, hpath⟩ : ∃ e ∈ Builtin.allEndpoints,
      e.renderPath (.object [("index", .string "app-*,-app-1")]) = .ok "/app-*,-app-1/_mapping" := by
    decide +kernel
  obtain ⟨-, rest, u, hrest, hurl, -, hauthority, -, hsame⟩ := url_of_builtin hconnect he hpath
  obtain rfl : "app-*,-app-1/_mapping" = rest := (String.append_right_inj "/").mp hrest
  exact ⟨hconnect, e, he, hpath, u, hurl, hauthority, hsame.trans rfl⟩

end Switchboard
