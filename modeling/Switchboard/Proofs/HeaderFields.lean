import Switchboard.Backend.Headers
import Switchboard.Proofs.Base64
import Switchboard.Proofs.NameMap

/-!
# Which header fields are sent

Three sources write into one map: the documents that are accepted, the configured fields and the
credentials. The configured names are different as texts and may still be spellings of one name, so
what is sent under a name is said by `Sends`, in three cases that exclude each other. What comes out
is a listing of pairs of which the last of a name counts (`requestHeaders_eq_ok`).

Credentials are sent as a token or as the base 64 form of a user name and a password
(`Credentials.GiveValue`). The latter can always stand in a field (`isValue_of_basic`), whatever the
user name and the password are.
-/

namespace Switchboard

/-! ## Texts of fields -/

namespace Http

/-- Whether a text can be the name of a field. -/
structure IsName (name : String) : Prop where
  ne_empty : name ≠ ""
  length_le : name.toList.length ≤ maxNameLength
  chars : ∀ c ∈ name.toList, isNameChar c = true

/-- Whether a text can be the value of a field. -/
def IsValue (value : String) : Prop :=
  ∀ c ∈ value.toList, c = '\t' ∨ (' ' ≤ c ∧ c ≠ '\x7f')

theorem headerName?_eq_some {name lower : String} :
    headerName? name = some lower ↔ IsName name ∧ lower = name.toLower := by
  have hlower : String.ofList (name.toList.map Char.toLower) = name.toLower := by
    refine String.toList_inj.mp ?_
    rw [String.toList_ofList]
    exact String.toList_map.symm
  have hname : (name.toList.isEmpty || !name.toList.all isNameChar ||
      decide (maxNameLength < name.toList.length)) = false ↔ IsName name := by
    simp only [Bool.or_eq_false_iff, Bool.not_eq_false', decide_eq_false_iff_not, Nat.not_lt,
      List.all_eq_true, List.isEmpty_eq_false_iff, ne_eq, String.toList_eq_nil_iff]
    constructor
    · rintro ⟨⟨hempty, hchars⟩, hlength⟩
      exact ⟨hempty, hlength, hchars⟩
    · intro h
      exact ⟨⟨h.ne_empty, h.chars⟩, h.length_le⟩
  rw [headerName?, hlower, ← hname]
  split
  · next h => simp [h]
  · next h => simp [h, eq_comm]

theorem isHeaderValue_iff {value : String} : isHeaderValue value = true ↔ IsValue value := by
  have hdelete (c : Char) : c.toNat = 0x7F ↔ c = '\x7f' := @Char.toNat_inj c '\x7f'
  have hspace (c : Char) : 0x20 ≤ c.toNat ↔ ' ' ≤ c := Iff.rfl
  simp [isHeaderValue, isValueChar, IsValue, hdelete, hspace]

end Http

/-! ## Values of credentials -/

namespace Credentials

/-- The value that credentials are sent as: the token, or user name and password with a colon between
them, their octets spelled in base 64. -/
inductive GiveValue : Credentials → String → Prop
  | bearer (token : String) : GiveValue (.bearer token) ("Bearer " ++ token)
  | basic {username password : String} {digits : List Char}
      (hdigits : Base64.SpellsFilled digits
        (Text.Utf8.encode (username ++ ":" ++ password).toList)) :
    GiveValue (.basic username password) ("Basic " ++ String.ofList digits)

theorem giveValue_iff {credentials : Credentials} {value : String} :
    credentials.GiveValue value ↔ value = credentials.headerValue := by
  constructor
  · rintro (token | hdigits)
    · rfl
    · rw [Base64.spellsFilled_iff.mp hdigits]
      rfl
  · rintro rfl
    cases credentials with
    | bearer token => exact .bearer token
    | basic username password => exact .basic (Base64.spellsFilled_iff.mpr rfl)

/-- A user name and a password can stand in a field in their base 64 form. -/
theorem isValue_of_basic {username password value : String}
    (h : (basic username password).GiveValue value) : Http.IsValue value := by
  have hscheme : Http.isHeaderValue "Basic " = true := by decide
  have hdigit : ∀ n < 64, Http.isValueChar (Base64.standard.digit n) = true := by decide
  cases h with
  | @basic _ _ digits hdigits =>
    refine Http.isHeaderValue_iff.mp (List.all_eq_true.mpr fun c hc => ?_)
    rw [String.toList_append] at hc
    rcases List.mem_append.mp hc with hc | hc
    · exact List.all_eq_true.mp hscheme c hc
    · rw [String.toList_ofList] at hc
      rcases hdigits.mem hc with rfl | ⟨n, hn, rfl⟩
      · decide
      · exact hdigit n hn

end Credentials

namespace BackendConfig

/-! ## What is sent -/

/-- What is sent under a name. -/
inductive Sends (c : BackendConfig) : String → String → Prop
  /-- Credentials go before any spelling of their field. -/
  | credentials {credentials : Credentials} {value : String} (h : c.auth = some credentials)
      (hvalue : credentials.GiveValue value) : Sends c "authorization" value
  /-- Of several spellings of a name the last counts. -/
  | configured {name value : String} (h : c.headers.find? name = some value)
      (hlast : ∀ other, c.headers.contains other = true → other.toLower = name.toLower →
        other ≤ name)
      (hfree : name.toLower = "authorization" → c.auth = none) : Sends c name.toLower value
  | accepted (h : ∀ name, c.headers.contains name = true → name.toLower ≠ "accept") :
      Sends c "accept" "application/json"

/-- All fields in the order in which they are written. -/
def fields (c : BackendConfig) : List (String × String) :=
  ("accept", "application/json") :: c.headers.entries.map (fun f => (f.1.toLower, f.2)) ++
    c.auth.toList.map fun credentials => ("authorization", credentials.headerValue)

/-- Whether all texts can stand in fields. -/
structure IsSendable (c : BackendConfig) : Prop where
  headers : ∀ f ∈ c.headers.entries, Http.IsName f.1 ∧ Http.IsValue f.2
  auth : ∀ credentials, c.auth = some credentials → Http.IsValue credentials.headerValue

theorem not_isSendable_iff {c : BackendConfig} :
    ¬ c.IsSendable ↔
      (∃ name value, c.headers.find? name = some value ∧
        (¬ Http.IsName name ∨ ¬ Http.IsValue value)) ∨
      ∃ credentials value, c.auth = some credentials ∧ credentials.GiveValue value ∧
        ¬ Http.IsValue value := by
  constructor
  · intro h
    by_contra hnone
    obtain ⟨hheaders, hauth⟩ := not_or.mp hnone
    refine h ⟨fun f hf => ?_, fun credentials hsome => ?_⟩
    · by_contra hunfit
      exact hheaders ⟨f.1, f.2, NameMap.mem_entries.mp hf, not_and_or.mp hunfit⟩
    · by_contra hunfit
      exact hauth ⟨credentials, _, hsome, Credentials.giveValue_iff.mpr rfl, hunfit⟩
  · rintro (⟨name, value, hfind, hunfit⟩ | ⟨credentials, value, hauth, hvalue, hunfit⟩) h
    · obtain ⟨hname, hvalue⟩ := h.headers _ (NameMap.mem_entries.mpr hfind)
      exact hunfit.elim (· hname) (· hvalue)
    · obtain rfl := Credentials.giveValue_iff.mp hvalue
      exact hunfit (h.auth credentials hauth)

theorem addHeader_eq_ok {headers headers' : Http.Headers} {field : String × String} :
    addHeader headers field = .ok headers' ↔
      (Http.IsName field.1 ∧ Http.IsValue field.2) ∧
        headers' = headers.insert field.1.toLower field.2 := by
  unfold addHeader
  split
  · next hnone =>
    have hname : ¬ Http.IsName field.1 := fun h => by
      cases hnone.symm.trans (Http.headerName?_eq_some.mpr ⟨h, rfl⟩)
    simp [hname]
  · next name hsome =>
    obtain ⟨hname, rfl⟩ := Http.headerName?_eq_some.mp hsome
    split
    · next hvalue => simp [hname, Http.isHeaderValue_iff.mp hvalue, eq_comm]
    · next hvalue => simp [mt Http.isHeaderValue_iff.mpr hvalue]

theorem foldlM_addHeader_eq_ok {headers headers' : Http.Headers}
    {fields : List (String × String)} :
    fields.foldlM addHeader headers = .ok headers' ↔
      (∀ f ∈ fields, Http.IsName f.1 ∧ Http.IsValue f.2) ∧
        headers' = fields.foldl (fun m f => m.insert f.1.toLower f.2) headers := by
  induction fields generalizing headers with
  | nil => simp [pure, Except.pure, eq_comm]
  | cons field rest ih =>
    rw [List.foldlM_cons, List.forall_mem_cons, List.foldl_cons]
    cases hfirst : addHeader headers field with
    | error error =>
      have hunfit : ¬ (Http.IsName field.1 ∧ Http.IsValue field.2) := fun h => by
        cases hfirst.symm.trans (addHeader_eq_ok.mpr ⟨h, rfl⟩)
      simp [bind, Except.bind, hunfit]
    | ok next =>
      obtain ⟨hfit, rfl⟩ := addHeader_eq_ok.mp hfirst
      refine Iff.trans ih ?_
      simp [hfit]

theorem addCredentials_eq_ok {headers headers' : Http.Headers} {auth : Option Credentials} :
    addCredentials headers auth = .ok headers' ↔
      (∀ credentials, auth = some credentials → Http.IsValue credentials.headerValue) ∧
        headers' = (auth.toList.map fun credentials =>
          ("authorization", credentials.headerValue)).foldl (fun m f => m.insert f.1 f.2)
            headers := by
  cases auth with
  | none => simp [addCredentials, eq_comm]
  | some credentials =>
    rw [addCredentials]
    split
    · next hvalue => simp [Http.isHeaderValue_iff.mp hvalue, eq_comm]
    · next hvalue => simp [mt Http.isHeaderValue_iff.mpr hvalue]

/-- Nothing but a text that cannot stand in a field keeps the fields from being written, one after
the other. -/
theorem requestHeaders_eq_ok {c : BackendConfig} {headers : Http.Headers} :
    c.requestHeaders = .ok headers ↔ c.IsSendable ∧ headers = .ofList c.fields := by
  have hfields : NameMap.ofList c.fields =
      (c.auth.toList.map fun credentials => ("authorization", credentials.headerValue)).foldl
        (fun m f => m.insert f.1 f.2)
        (c.headers.entries.foldl (fun m f => m.insert f.1.toLower f.2)
          (NameMap.empty.insert "accept" "application/json")) := by
    rw [NameMap.ofList, fields, List.foldl_append, List.foldl_cons]
    exact congrArg (List.foldl _ · _) List.foldl_map
  rw [requestHeaders]
  cases hconfigured : c.headers.entries.foldlM addHeader
      (NameMap.empty.insert "accept" "application/json") with
  | error error =>
    have hunfit : ¬ c.IsSendable := fun h => by
      cases hconfigured.symm.trans (foldlM_addHeader_eq_ok.mpr ⟨h.headers, rfl⟩)
    simp [bind, Except.bind, hunfit]
  | ok configured =>
    obtain ⟨hfit, rfl⟩ := foldlM_addHeader_eq_ok.mp hconfigured
    rw [hfields]
    exact addCredentials_eq_ok.trans (and_congr_left fun _ => ⟨fun h => ⟨hfit, h⟩, fun h => h.auth⟩)

theorem requestHeaders_eq_error {c : BackendConfig} :
    (∃ error, c.requestHeaders = .error error) ↔ ¬ c.IsSendable := by
  cases hheaders : c.requestHeaders with
  | error error =>
    refine iff_of_true ⟨error, rfl⟩ fun h => ?_
    cases hheaders.symm.trans (requestHeaders_eq_ok.mpr ⟨h, rfl⟩)
  | ok headers => simpa using (requestHeaders_eq_ok.mp hheaders).1

/-! ## What counts -/

/-- The value of the last configured field of a name. -/
def configured? (c : BackendConfig) (h : String) : Option String :=
  (c.headers.entries.filter fun f => f.1.toLower = h).getLast?.map (·.2)

theorem configured?_eq_some {c : BackendConfig} {h value : String} :
    c.configured? h = some value ↔ ∃ name, c.headers.find? name = some value ∧
      name.toLower = h ∧
      ∀ other, c.headers.contains other = true → other.toLower = h → other ≤ name := by
  have hlast (name : String) :=
    @NameMap.getLast?_filter_entries _ c.headers (·.toLower = h) name value
  simp only [decide_eq_true_eq] at hlast
  rw [configured?, Option.map_eq_some_iff]
  constructor
  · rintro ⟨⟨name, _⟩, hfound, rfl⟩
    exact ⟨name, (hlast name).mp hfound⟩
  · rintro ⟨name, hname⟩
    exact ⟨(name, value), (hlast name).mpr hname, rfl⟩

theorem configured?_eq_none {c : BackendConfig} {h : String} :
    c.configured? h = none ↔ ∀ name, c.headers.contains name = true → name.toLower ≠ h := by
  rw [configured?, Option.map_eq_none_iff, List.getLast?_eq_none_iff, List.filter_eq_nil_iff]
  constructor
  · intro hnone name hname
    obtain ⟨value, hvalue⟩ := NameMap.contains_iff_mem_entries.mp hname
    simpa using hnone (name, value) hvalue
  · intro hnone e he
    simpa using hnone e.1 (NameMap.contains_iff_mem_entries.mpr ⟨e.2, he⟩)

/-- Of the three sources, the one that is written last has the say. -/
theorem find?_fields (c : BackendConfig) (h : String) :
    (NameMap.ofList c.fields).find? h =
      (if h = "authorization" then c.auth.map (·.headerValue) else none).or
        ((c.configured? h).or (if h = "accept" then some "application/json" else none)) := by
  have hauth : ((c.auth.toList.map fun credentials =>
        ("authorization", credentials.headerValue)).filter (·.1 = h)).getLast?.map (·.2) =
      if h = "authorization" then c.auth.map (·.headerValue) else none := by
    cases c.auth <;> by_cases hname : h = "authorization" <;> simp [hname, eq_comm]
  have hconfigured : ((c.headers.entries.map fun f => (f.1.toLower, f.2)).filter
      (·.1 = h)).getLast?.map (·.2) = c.configured? h := by
    rw [List.filter_map, List.getLast?_map, Option.map_map]
    rfl
  have haccept : ([("accept", "application/json")].filter (·.1 = h)).getLast?.map (·.2) =
      if h = "accept" then some "application/json" else none := by
    by_cases hname : h = "accept" <;> simp [hname, eq_comm]
  rw [NameMap.find?_ofList, fields, ← List.singleton_append, List.filter_append, List.filter_append,
    List.getLast?_append, List.getLast?_append, Option.map_or, Option.map_or, hauth, hconfigured,
    haccept]

theorem find?_fields_eq_some {c : BackendConfig} {h value : String} :
    (NameMap.ofList c.fields).find? h = some value ↔ c.Sends h value := by
  rw [find?_fields]
  constructor
  · intro hfind
    by_cases hcredentials : h = "authorization" ∧ c.auth ≠ none
    · obtain ⟨rfl, hauth⟩ := hcredentials
      obtain ⟨credentials, hauth⟩ := Option.ne_none_iff_exists'.mp hauth
      rw [if_pos rfl, hauth, Option.map_some, Option.some_or] at hfind
      exact .credentials hauth (Credentials.giveValue_iff.mpr (Option.some.inj hfind).symm)
    · have hfirst : (if h = "authorization" then c.auth.map (·.headerValue) else none) = none := by
        simpa using hcredentials
      rw [hfirst, Option.none_or] at hfind
      cases hconfigured : c.configured? h with
      | some configured =>
        obtain ⟨name, hname, rfl, hlast⟩ := configured?_eq_some.mp hconfigured
        rw [hconfigured, Option.some_or] at hfind
        refine Option.some.inj hfind ▸ .configured hname hlast fun hspelled => ?_
        by_contra hauth
        exact hcredentials ⟨hspelled, hauth⟩
      | none =>
        rw [hconfigured, Option.none_or] at hfind
        split at hfind
        · next haccept =>
          subst haccept
          exact Option.some.inj hfind ▸ .accepted (configured?_eq_none.mp hconfigured)
        · cases hfind
  · rintro (⟨hauth, hvalue⟩ | ⟨hname, hlast, hfree⟩ | hnone)
    · rw [if_pos rfl, hauth, Option.map_some, Option.some_or, Credentials.giveValue_iff.mp hvalue]
    · have hconfigured := configured?_eq_some.mpr ⟨_, hname, rfl, hlast⟩
      rw [hconfigured, Option.some_or]
      split
      · next hspelled => rw [hfree hspelled, Option.map_none, Option.none_or]
      · rfl
    · rw [if_neg (by decide), configured?_eq_none.mpr hnone]
      rfl

theorem mem_fields {c : BackendConfig} {h : String} :
    h ∈ c.fields.map (·.1) ↔ h = "accept" ∨ (h = "authorization" ∧ c.auth ≠ none) ∨
      ∃ name, c.headers.contains name = true ∧ name.toLower = h := by
  have hconfigured : h ∈ (c.headers.entries.map fun f => (f.1.toLower, f.2)).map (·.1) ↔
      ∃ name, c.headers.contains name = true ∧ name.toLower = h := by
    rw [List.map_map, List.mem_map]
    constructor
    · rintro ⟨e, he, rfl⟩
      exact ⟨e.1, NameMap.contains_iff_mem_entries.mpr ⟨e.2, he⟩, rfl⟩
    · rintro ⟨name, hname, rfl⟩
      obtain ⟨value, hvalue⟩ := NameMap.contains_iff_mem_entries.mp hname
      exact ⟨(name, value), hvalue, rfl⟩
  have hauth : h ∈ (c.auth.toList.map fun credentials =>
      ("authorization", credentials.headerValue)).map (·.1) ↔
        h = "authorization" ∧ c.auth ≠ none := by
    cases c.auth <;> simp
  rw [fields, List.map_append, List.map_cons, List.mem_append, List.mem_cons, hconfigured, hauth,
    or_assoc]
  exact or_congr_right or_comm

/-- Fields are refused exactly if a configured name or value, or the value that the credentials give,
cannot stand in one. Otherwise there is one value for each name: the one that the credentials give
where there are any, however the configured fields spell their name; else the value of the last
spelling of the name; and the usual documents are accepted if no configured field says which. The
names are those of the configured fields and these two. -/
theorem requestHeaders_exact (c : BackendConfig) :
    ((∃ error, c.requestHeaders = .error error) ↔
      (∃ name value, c.headers.find? name = some value ∧
        (¬ Http.IsName name ∨ ¬ Http.IsValue value)) ∨
      ∃ credentials value, c.auth = some credentials ∧ credentials.GiveValue value ∧
        ¬ Http.IsValue value) ∧
    ∀ headers, c.requestHeaders = .ok headers →
      headers.keys.Nodup ∧
      (∀ h value, (h, value) ∈ headers.entries ↔ c.Sends h value) ∧
      ∀ h, h ∈ headers.keys ↔ h = "accept" ∨ (h = "authorization" ∧ c.auth ≠ none) ∨
        ∃ name, c.headers.contains name = true ∧ name.toLower = h := by
  refine ⟨requestHeaders_eq_error.trans not_isSendable_iff, fun headers hheaders => ?_⟩
  obtain ⟨-, rfl⟩ := requestHeaders_eq_ok.mp hheaders
  refine ⟨?_, fun h value => NameMap.mem_entries.trans find?_fields_eq_some, fun h => ?_⟩
  · exact (NameMap.pairwise_keys _).imp fun hlt => String.ne_of_lt hlt
  · rw [NameMap.mem_keys, ← NameMap.contains, NameMap.contains_ofList, mem_fields]

/-- Two spellings each of two names, and one of the name that the credentials go under: a user name
with a password. -/
theorem requestHeaders_of_spellings :
    let c : BackendConfig := {
      auth := some (.basic "admin" "admin")
      headers := .ofList [("accept", "text/html"), ("Accept", "text/plain"),
        ("AUTHORIZATION", "Basic eA=="), ("X-Org", "1"), ("x-oRG", "2")] }
    let headers : Http.Headers := .ofList
      [("accept", "text/html"), ("authorization", "Basic YWRtaW46YWRtaW4="), ("x-org", "2")]
    c.requestHeaders = .ok headers ∧ c.Sends "authorization" "Basic YWRtaW46YWRtaW4=" ∧
      c.Sends "accept" "text/html" ∧ c.Sends "x-org" "2" := by
  intro c headers
  have hheaders : c.requestHeaders = .ok headers := by decide +kernel
  obtain ⟨-, hsends, -⟩ := c.requestHeaders_exact.2 headers hheaders
  exact ⟨hheaders, (hsends _ _).mp (by decide +kernel), (hsends _ _).mp (by decide +kernel),
    (hsends _ _).mp (by decide +kernel)⟩

end BackendConfig

end Switchboard
