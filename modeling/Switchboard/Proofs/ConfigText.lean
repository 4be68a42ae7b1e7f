import Switchboard.Config.File
import Switchboard.Proofs.JsonText
import Switchboard.Proofs.NameMap

/-!
# Configuration survives its text

A configuration that is written as a JSON text and loaded again is the same configuration. The text
is read in two steps. `Json.read?_compact` takes it apart into what it consists of; the readers of
documents take that for the values it was written from, each reader by one lemma about the node of a
written value (`Json.placed`), and records by `record?_placed`: a record whose names differ gives
every field its own node, in the order of the fields.

Settings nest four deep, so every lemma names the room for nesting that its node needs.
-/

namespace Switchboard

/-! ## Written texts -/

namespace Json

theorem glyphText?_unit {u : Nat} (h : u < 0xD800) (rest : List Glyph) :
    glyphText? (.unit u :: rest) = (glyphText? rest).map (Char.ofNat u :: ·) := by
  have hhigh : (decide (0xD800 ≤ u) && decide (u < 0xDC00)) = false := by
    simp only [Bool.and_eq_false_iff, decide_eq_false_iff_not]
    omega
  have hlow : (decide (0xDC00 ≤ u) && decide (u < 0xE000)) = false := by
    simp only [Bool.and_eq_false_iff, decide_eq_false_iff_not]
    omega
  rw [glyphText?.eq_def]
  simp only [hhigh, hlow, Bool.false_eq_true, if_false]

theorem glyphText?_map_glyph (cs : List Char) : glyphText? (cs.map glyph) = some cs := by
  induction cs with
  | nil => rfl
  | cons c cs ih =>
    rw [List.map_cons, glyph]
    split
    · rw [glyphText?, ih]
      rfl
    · -- only control characters are written by number, and those are no surrogates
      rw [glyphText?_unit (by omega), ih, Char.ofNat_toNat]
      rfl

theorem quotedText?_map_glyph (s : String) : quotedText? (s.toList.map glyph) = some s := by
  rw [quotedText?, glyphText?_map_glyph, Option.map_some, String.ofList_toList]

theorem writtenItems_eq_map (vs : List Json) : writtenItems vs = vs.map written := by
  induction vs with
  | nil => rfl
  | cons v vs ih => rw [writtenItems, ih, List.map_cons]

theorem writtenMembers_eq_map (ms : List (String × Json)) :
    writtenMembers ms = ms.map fun e => (e.1.toList.map glyph, e.2.written) := by
  induction ms with
  | nil => rfl
  | cons m ms ih => rw [writtenMembers, ih, List.map_cons]

theorem word?_numeral {n : Nat} (h : n < Decimal.wordBound) :
    (JsonNumber.int n).numeral.word? = some n.toUInt64 := by
  have hdigits : Nat.ofDigitChars 10 (Decimal.write n) 0 = n :=
    Nat.ofDigitChars_toDigits (by decide) (by decide)
  have hvalue : (JsonNumber.int n).numeral.value? = some (.int n) := by
    simp [JsonNumber.numeral, Numeral.value?, hdigits, h]
  rw [Numeral.word?, hvalue]
  exact if_pos h

/-! ## Nodes of written values -/

/-- The node of a value that was written, with the room for nesting that is left at its place. -/
def placed (room : Nat) (v : Json) : Placed := ⟨room, v.written⟩

end Json

namespace Document

open Json

variable {α : Type} {room : Nat}

@[simp] theorem text?_placed (s : String) : text? (placed room (.string s)) = some s :=
  quotedText?_map_glyph s

@[simp] theorem flag?_placed (b : Bool) : flag? (placed room (.bool b)) = some b := rfl

@[simp] theorem word?_placed (n : UInt64) : word? (placed room (Json.ofNat n.toNat)) = some n := by
  have hword := word?_numeral (n := n.toNat) n.toNat_lt
  rw [Nat.toUInt64_eq, UInt64.ofNat_toNat] at hword
  exact hword

@[simp] theorem atom?_placed (s : String) :
    atom? (placed room (.string s)) = some (.text s) := by
  have hvalue : (Json.string s).written.value? room = some (.string s) := by
    rw [written, Written.value?, quotedText?_map_glyph, Option.map_some]
  simp only [atom?, placed, hvalue]

@[simp] theorem shape?_placed_array (vs : List Json) :
    shape? (placed (room + 1) (.array vs)) = some (.items (vs.map (placed room))) := by
  simp [shape?, placed, written, writtenItems_eq_map]

@[simp] theorem shape?_placed_object (ms : List (String × Json)) :
    shape? (placed (room + 1) (.object ms)) =
      some (.members (ms.map fun e => (placed room (.string e.1), placed room e.2))) := by
  simp [shape?, placed, written, writtenMembers_eq_map]

/-! ## Lists and maps -/

theorem each?_map {δ : Type} {read : δ → Option α} {place : α → δ} {xs : List α}
    (h : ∀ x ∈ xs, read (place x) = some x) : each? read (xs.map place) = some xs := by
  induction xs with
  | nil => rfl
  | cons x xs ih =>
    have hrest := ih fun y hy => h y (List.mem_cons_of_mem _ hy)
    simp [each?, h x List.mem_cons_self, hrest]

theorem list?_placed {read : Placed → Option α} {write : α → Json} {xs : List α}
    (h : ∀ x ∈ xs, read (placed room (write x)) = some x) :
    list? read (placed (room + 1) (.array (xs.map write))) = some xs := by
  simp only [list?, shape?_placed_array, List.map_map]
  exact each?_map h

theorem named?_placed (room : Nat) (ms : List (String × Json)) :
    named? (ms.map fun e => (placed room (.string e.1), placed room e.2)) =
      some (ms.map fun e => (e.1, placed room e.2)) := by
  induction ms with
  | nil => rfl
  | cons m ms ih => simp [named?, ih]

theorem map?_each?_eq {δ : Type} (read : String × δ → Option (String × α))
    (named : List (String × δ)) : map?.each? read named = each? read named := by
  induction named with
  | nil => rfl
  | cons e named ih => rw [map?.each?, each?, ih]

theorem map?_placed {read : Placed → Option α} {write : α → Json} {m : NameMap α}
    (h : ∀ e ∈ m.entries, read (placed room (write e.2)) = some e.2) :
    map? read (placed (room + 1) (Json.ofMap write m)) = some m := by
  have hnamed := named?_placed room (m.entries.map fun e => (e.1, write e.2))
  have hvalues : each? (fun e => (read e.2).map (e.1, ·))
      ((m.entries.map fun e => (e.1, write e.2)).map fun e => (e.1, placed room e.2)) =
        some m.entries := by
    rw [List.map_map]
    exact each?_map fun e he => by rw [Function.comp_apply, h e he, Option.map_some]
  simp only [map?, Json.ofMap, shape?_placed_object, hnamed, map?_each?_eq, Option.bind_eq_bind,
    Option.bind_some, hvalues, NameMap.ofList_entries]

theorem optional_of_ne_null {read : Placed → Option α} {v : Json} (hv : v ≠ .null) {x : α}
    (h : read (placed room v) = some x) : optional read (placed room v) = some (some x) := by
  have hthere : absent? (placed room v) = some false := by
    cases v with
    | null => exact absurd rfl hv
    | _ => rfl
  rw [optional, hthere, h]
  rfl

/-! ## Records -/

theorem field?_of_mem {named : List (String × α)} (hnodup : (named.map (·.1)).Nodup)
    {e : String × α} (he : e ∈ named) : field? named e.1 = some (some e.2) := by
  have hone : named.filter (fun d => d.1 == e.1) = [e] := by
    induction named with
    | nil => cases he
    | cons d rest ih =>
      obtain ⟨hfresh, hrest⟩ := List.nodup_cons.mp hnodup
      rcases List.mem_cons.mp he with rfl | hmem
      · have hnone : rest.filter (fun d => d.1 == e.1) = [] :=
          List.filter_eq_nil_iff.mpr fun d hd heq =>
            hfresh (List.mem_map.mpr ⟨d, hd, eq_of_beq heq⟩)
        rw [List.filter_cons_of_pos (by simp), hnone]
      · have hne : d.1 ≠ e.1 := fun heq => hfresh (List.mem_map.mpr ⟨e, hmem, heq.symm⟩)
        rw [List.filter_cons_of_neg (by simp [hne])]
        exact ih hrest hmem
  rw [field?, hone]

/-- Where names differ, every field has its own value. -/
theorem fields?_map (named : List (String × α)) (hnodup : (named.map (·.1)).Nodup) :
    fields? (named.map (·.1)) named = some (named.map fun e => some e.2) := by
  have hall : ∀ es : List (String × α), (∀ e ∈ es, e ∈ named) →
      fields? (es.map (·.1)) named = some (es.map fun e => some e.2) := by
    intro es hes
    induction es with
    | nil => rfl
    | cons e es ih =>
      have hfield := field?_of_mem hnodup (hes e List.mem_cons_self)
      have hrest := ih fun d hd => hes d (List.mem_cons_of_mem _ hd)
      simp [fields?, hfield, hrest]
  exact hall named fun _ he => he

/-- A record whose names differ is read in the order of its fields. -/
theorem record?_placed {ms : List (String × Json)} (hnodup : (ms.map (·.1)).Nodup) :
    record? (ms.map (·.1)) (placed (room + 1) (.object ms)) =
      some (ms.map fun e => some (placed room e.2)) := by
  have hnames : (ms.map fun e => (e.1, placed room e.2)).map (·.1) = ms.map (·.1) := by
    rw [List.map_map]
    rfl
  have hfields := fields?_map (ms.map fun e => (e.1, placed room e.2)) (hnames ▸ hnodup)
  rw [hnames, List.map_map] at hfields
  simp only [record?, shape?_placed_object, named?_placed, Option.bind_some]
  exact hfields

end Document

open Document Json

variable {room : Nat}

/-! ## Credentials -/

namespace Credentials

theorem Kind.nodup_fields (kind : Kind) : kind.fields.Nodup := by
  cases kind <;> decide

theorem Kind.type_not_mem_fields (kind : Kind) : "type" ∉ kind.fields := by
  cases kind <;> decide

/-- The mapping that credentials are written as: their kind and then every field of the kind. -/
def tagged (label : String) (fields : List (String × String)) : Json :=
  .object (("type", .string label) :: fields.map fun e => (e.1, .string e.2))

theorem splitKind?_fields {fields : List (String × String)} (h : ∀ e ∈ fields, e.1 ≠ "type") :
    splitKind? (fields.map fun e => (placed room (.string e.1), placed room (.string e.2))) =
      some (none, fields.map fun e => (Atom.text e.1, Atom.text e.2)) := by
  induction fields with
  | nil => rfl
  | cons e fields ih =>
    have hne : e.1 ≠ "type" := h e List.mem_cons_self
    have hrest := ih fun d hd => h d (List.mem_cons_of_mem _ hd)
    simp [splitKind?, hne, hrest]

/-- Credentials are read from their kind and the values of its fields. -/
theorem read?_tagged {label : String} {kind : Kind} (hkind : Kind.named? label = some kind)
    (fields : List (String × String)) (hnames : fields.map (·.1) = kind.fields) :
    Credentials.read? (placed (room + 1) (tagged label fields)) =
      ofFields? kind (fields.map fun e => some (.text e.2)) := by
  have htype : ∀ e ∈ fields, e.1 ≠ "type" := fun e he heq =>
    kind.type_not_mem_fields (hnames ▸ heq ▸ List.mem_map_of_mem he)
  have hshape : shape? (placed (room + 1) (tagged label fields)) =
      some (.members ((placed room (.string "type"), placed room (.string label)) ::
        fields.map fun e => (placed room (.string e.1), placed room (.string e.2)))) := by
    rw [tagged, shape?_placed_object, List.map_cons, List.map_map]
    rfl
  have hnamed : each? (fun e => (fieldName? kind e.1).map (·, e.2))
      (fields.map fun e => (Atom.text e.1, Atom.text e.2)) =
        some (fields.map fun e => (e.1, Atom.text e.2)) := by
    have hmap : (fields.map fun e => (Atom.text e.1, Atom.text e.2)) =
        (fields.map fun e => (e.1, Atom.text e.2)).map fun d => (Atom.text d.1, d.2) := by
      rw [List.map_map]
      rfl
    rw [hmap]
    exact each?_map fun d _ => rfl
  have hfields : fields? kind.fields (fields.map fun e => (e.1, Atom.text e.2)) =
      some (fields.map fun e => some (Atom.text e.2)) := by
    have hmap : (fields.map fun e => (e.1, Atom.text e.2)).map (·.1) = kind.fields := by
      rw [List.map_map, ← hnames]
      rfl
    have hall := fields?_map (fields.map fun e => (e.1, Atom.text e.2)) (hmap ▸ kind.nodup_fields)
    rwa [hmap, List.map_map] at hall
  simp [read?, hshape, splitKind?, splitKind?_fields htype, hkind, hnamed, hfields]

theorem read?_toJson (c : Credentials) : read? (placed (room + 1) c.toJson) = some c := by
  cases c with
  | bearer token =>
    have hkind : Kind.named? "bearer" = some .bearer := rfl
    exact read?_tagged hkind [("token", token)] rfl
  | basic username password =>
    have hkind : Kind.named? "basic" = some .basic := rfl
    exact read?_tagged hkind [("username", username), ("password", password)] rfl

end Credentials

/-! ## Configuration -/

/-- What the field of credentials is written as. -/
def BackendConfig.authJson (auth : Option Credentials) : Json :=
  match auth with
  | some credentials => credentials.toJson
  | none => .null

theorem BackendConfig.record?_toJson (b : BackendConfig) (room : Nat) :
    record? ["url", "timeout_secs", "auth", "headers", "insecure_skip_verify"]
        (placed (room + 1) b.toJson) =
      some ([Json.ofText? b.url, Json.ofNat b.timeoutSecs.toNat, authJson b.auth,
        Json.ofMap .string b.headers, .bool b.insecureSkipVerify].map
          fun v => some (placed room v)) :=
  record?_placed (by simp)

theorem Config.record?_toJson (c : Config) (room : Nat) :
    record? ["disabled_services", "enabled_services", "disabled_tools", "backends",
        "default_page_size"] (placed (room + 1) c.toJson) =
      some ([Json.ofTexts c.disabledServices, Json.ofTexts c.enabledServices,
        Json.ofTexts c.disabledTools, Json.ofMap BackendConfig.toJson c.backends,
        Json.ofNat c.defaultPageSize.toNat].map fun v => some (placed room v)) :=
  record?_placed (by simp)

theorem BackendConfig.read?_toJson (b : BackendConfig) :
    BackendConfig.read? (placed (room + 2) b.toJson) = some b := by
  obtain ⟨url, timeout, auth, headers, insecure⟩ := b
  have hrecord := record?_toJson ⟨url, timeout, auth, headers, insecure⟩ (room + 1)
  have hurl : Document.optional text? (placed (room + 1) (Json.ofText? url)) = some url := by
    cases url with
    | none => rfl
    | some u => exact optional_of_ne_null (by simp [Json.ofText?]) (text?_placed u)
  have hauth : Document.optional Credentials.read? (placed (room + 1) (authJson auth)) =
      some auth := by
    cases auth with
    | none => rfl
    | some c =>
      have hnull : c.toJson ≠ .null := by cases c <;> simp [Credentials.toJson]
      exact optional_of_ne_null hnull c.read?_toJson
  have hheaders : map? text? (placed (room + 1) (Json.ofMap .string headers)) = some headers :=
    map?_placed fun e _ => text?_placed e.2
  simp [BackendConfig.read?, hrecord, withDefault, hurl, hauth, hheaders]

theorem Config.read?_toJson (c : Config) : Config.read? (placed (room + 4) c.toJson) = some c := by
  have htexts : ∀ texts : List String,
      list? text? (placed (room + 3) (Json.ofTexts texts)) = some texts :=
    fun texts => list?_placed fun s _ => text?_placed s
  have hbackends : map? BackendConfig.read? (placed (room + 3)
      (Json.ofMap BackendConfig.toJson c.backends)) = some c.backends :=
    map?_placed fun e _ => e.2.read?_toJson
  simp [Config.read?, c.record?_toJson, withDefault, htexts, hbackends]

theorem Config.readJson?_toText (c : Config) : Config.readJson? c.toJson.toText = some c := by
  rw [Config.readJson?, toText, String.toList_ofList, read?_compact, Option.bind_some]
  exact Config.read?_toJson c

/-! ## Files -/

theorem FileState.text_toUTF8 (text : String) : (FileState.file text.toUTF8).text = .ok text := by
  have hvalid : text.toUTF8.IsValidUTF8 := text.isValidUTF8
  rw [FileState.text, String.fromUTF8?, dif_pos hvalid]
  rfl

theorem ConfigFormat.ofPath_eq_json {path : String} (hyaml : extension? path ≠ some "yaml".toList)
    (hyml : extension? path ≠ some "yml".toList) : ConfigFormat.ofPath path = .json := by
  rw [ConfigFormat.ofPath]
  split
  · next e he =>
    rw [he] at hyaml hyml
    have h : ¬ (e = "yaml".toList ∨ e = "yml".toList) := by
      rintro (rfl | rfl)
      exacts [hyaml rfl, hyml rfl]
    simpa using h
  · rfl

/-- A configuration that is written as a JSON text is loaded again as it was. -/
theorem Config.load_toText (c : Config) (files : Files) (path : String)
    (hyaml : extension? path ≠ some "yaml".toList) (hyml : extension? path ≠ some "yml".toList)
    (hfile : files path = .file c.toJson.toText.toUTF8) : Config.load files path = .ok c := by
  have hform := ConfigFormat.ofPath_eq_json hyaml hyml
  have hparse : Config.parse? .json c.toJson.toText = some c := Config.readJson?_toText c
  simp only [Config.load, hfile, FileState.text_toUTF8, hform, hparse]

/-- A backend with the longest timeout and a password that has to be escaped. -/
theorem Config.load_grafana_settings :
    let c : Config := {
      disabledTools := ["helm_list_releases"]
      backends := NameMap.empty.insert "grafana" {
        url := some "http://grafana:3000"
        timeoutSecs := 18446744073709551615
        auth := some (.basic "admin" "\"é\n\x01") } }
    let text := "\x7b\"disabled_services\":[],\"enabled_services\":[]," ++
      "\"disabled_tools\":[\"helm_list_releases\"],\"backends\":\x7b\"grafana\":\x7b" ++
      "\"url\":\"http://grafana:3000\",\"timeout_secs\":18446744073709551615," ++
      "\"auth\":\x7b\"type\":\"basic\",\"username\":\"admin\"," ++
      "\"password\":\"\\\"é\\n\\u0001\"\x7d," ++
      "\"headers\":\x7b\x7d,\"insecure_skip_verify\":false\x7d\x7d,\"default_page_size\":50\x7d"
    extension? "opsbridge.json" = some "json".toList ∧
      Config.load (fun _ => .file text.toUTF8) "opsbridge.json" = .ok c := by
  intro c text
  have htext : c.toJson.toText = text := by decide +kernel
  refine ⟨by decide, c.load_toText _ "opsbridge.json" (by decide) (by decide) ?_⟩
  rw [htext]

end Switchboard
