import Switchboard.Config.Override
import Switchboard.Proofs.NameMap

/-!
# What the environment overrides

An override has a closed form. Of the lists, the page size and the settings of each backend, each is
what the environment has for it, or what it was (`backend?_override`, `override_eq`). What the
environment has depends on the name of a service alone, and putting it in a second time changes
nothing; so neither the order nor the repetition of names matters, nor does a second override
(`override_exact`).
-/

namespace Switchboard

/-! ## Values -/

theorem Text.splitAt_eq_splitOn (c : Char) (cs : List Char) : splitAt c cs = cs.splitOn c := by
  induction cs with
  | nil => rfl
  | cons d rest ih =>
    rw [List.splitOn] at ih ⊢
    rw [splitAt, List.splitOnP_cons_eq_if_modifyHead, ih]
    by_cases h : d = c
    · simp [h]
    · obtain ⟨piece, pieces, hsplit⟩ :=
        List.exists_cons_of_ne_nil (List.splitOnP_ne_nil (· == c) rest)
      simp [h, hsplit]

theorem Text.trim_of_blank {value : String} (h : blank value = true) : trim value.toList = [] := by
  have hdrop := dropWhile_isBlank_append (List.all_eq_true.mp h) []
  rw [List.append_nil] at hdrop
  rw [trim, hdrop]
  rfl

theorem splitNames_eq (value : String) :
    splitNames value =
      ((value.toList.splitOn ',').map fun piece => String.ofList (Text.trim piece)).filter
        (· ≠ "") := by
  rw [splitNames, Text.splitAt_eq_splitOn]
  refine List.filter_congr fun name _ => ?_
  by_cases h : name = "" <;> simp [h]

/-- A timeout is the number that is read: it is never too large to be kept. -/
theorem Config.toNat_timeout? (value : String) :
    (timeout? value).map UInt64.toNat = Decimal.readWord? (Text.trim value.toList) := by
  unfold timeout?
  cases hread : Decimal.readWord? (Text.trim value.toList) with
  | none => rfl
  | some n =>
    have hlt : n < UInt64.size := Decimal.lt_wordBound_of_readWord? hread
    rw [Option.map_some, Option.map_some, Nat.toUInt64_eq, UInt64.toNat_ofNat_of_lt' hlt]

/-! ## Backends -/

/-- What the environment has for the settings of one backend. -/
structure Override where
  url : Option String
  token : Option String
  timeout : Option UInt64

namespace Override

/-- What a lookup has for the backend of a service. -/
def ofLookup (lookup : String → Option String) (service : String) : Override where
  url := given? lookup (serviceLabel service ++ "_URL")
  token := given? lookup (serviceLabel service ++ "_TOKEN")
  timeout := (given? lookup (serviceLabel service ++ "_TIMEOUT_SECS")).bind Config.timeout?

/-- Settings with what there is in place of what they had. -/
def settings (o : Override) (old : BackendConfig) : BackendConfig :=
  { old with
    url := o.url.or old.url
    auth := (o.token.map .bearer).or old.auth
    timeoutSecs := o.timeout.getD old.timeoutSecs }

/-- The settings of a backend that may have had none: they are made as soon as there is anything. -/
def entry (o : Override) (old : Option BackendConfig) : Option BackendConfig :=
  if o.url.isSome || o.token.isSome || o.timeout.isSome then some (o.settings (old.getD {}))
  else old

/-- A blank value is no number anyway. -/
theorem toNat_timeout_ofLookup (lookup : String → Option String) (service : String) :
    (ofLookup lookup service).timeout.map UInt64.toNat =
      (lookup (serviceLabel service ++ "_TIMEOUT_SECS")).bind fun value =>
        Decimal.readWord? (Text.trim value.toList) := by
  unfold ofLookup given?
  cases lookup (serviceLabel service ++ "_TIMEOUT_SECS") with
  | none => rfl
  | some value =>
    cases hblank : Text.blank value with
    | true =>
      have hread : Decimal.readWord? (Text.trim value.toList) = none := by
        rw [Text.trim_of_blank hblank]
        rfl
      simp [Option.filter, hblank, hread]
    | false => simp [Option.filter, hblank, Config.toNat_timeout?]

variable (o : Override)

theorem settings_settings (old : BackendConfig) : o.settings (o.settings old) = o.settings old := by
  obtain ⟨url, token, timeout⟩ := o
  cases url <;> cases token <;> cases timeout <;> rfl

theorem entry_entry (old : Option BackendConfig) : o.entry (o.entry old) = o.entry old := by
  unfold entry
  split
  · rw [Option.getD_some, settings_settings]
  · rfl

theorem isSome_entry {old : Option BackendConfig} :
    (o.entry old).isSome ↔
      old.isSome ∨ o.url.isSome ∨ o.token.isSome ∨ o.timeout.isSome := by
  unfold entry
  split
  · next h =>
    simp only [Bool.or_eq_true] at h
    simp only [Option.isSome_some, true_iff]
    tauto
  · next h =>
    simp only [Bool.or_eq_true, not_or] at h
    tauto

theorem eq_settings_of_entry_eq_some {old : Option BackendConfig} {new : BackendConfig}
    (h : o.entry old = some new) : new = o.settings (old.getD {}) := by
  obtain ⟨url, token, timeout⟩ := o
  unfold entry at h
  split at h
  · exact (Option.some.inj h).symm
  · next hnone =>
    subst h
    cases url <;> cases token <;> cases timeout <;> first | rfl | exact absurd rfl hnone

end Override

namespace Config

variable {c c' : Config} {lookup : String → Option String}

/-! ## One service -/

theorem backend?_updateBackend (c : Config) (service : String) (f : BackendConfig → BackendConfig)
    (b : String) :
    (c.updateBackend service f).backend? b =
      if service = b then some (f ((c.backend? service).getD {})) else c.backend? b :=
  NameMap.find?_insert _ _ _ _

theorem backend?_overrideService (lookup : String → Option String) (c : Config)
    (service b : String) :
    (overrideService lookup c service).backend? b =
      if service = b then (Override.ofLookup lookup b).entry (c.backend? b) else c.backend? b := by
  unfold overrideService overrideTimeout overrideToken overrideUrl
  by_cases hb : service = b
  · subst hb
    unfold Override.entry Override.settings Override.ofLookup
    cases given? lookup (serviceLabel service ++ "_URL") <;>
      cases given? lookup (serviceLabel service ++ "_TOKEN") <;>
      cases (given? lookup (serviceLabel service ++ "_TIMEOUT_SECS")).bind timeout? <;>
      simp [backend?_updateBackend]
  · cases given? lookup (serviceLabel service ++ "_URL") <;>
      cases given? lookup (serviceLabel service ++ "_TOKEN") <;>
      cases (given? lookup (serviceLabel service ++ "_TIMEOUT_SECS")).bind timeout? <;>
      simp [backend?_updateBackend, hb]

theorem overrideService_eq (lookup : String → Option String) (c : Config) (service : String) :
    overrideService lookup c service =
      { c with backends := (overrideService lookup c service).backends } := by
  unfold overrideService overrideTimeout overrideToken overrideUrl
  cases given? lookup (serviceLabel service ++ "_URL") <;>
    cases given? lookup (serviceLabel service ++ "_TOKEN") <;>
    cases (given? lookup (serviceLabel service ++ "_TIMEOUT_SECS")).bind timeout? <;> rfl

/-! ## Lists -/

/-- A list of names, replaced if the environment has one in its place. -/
def namesOr (lookup : String → Option String) (key : String) (old : List String) : List String :=
  match given? lookup (environmentLabel ++ key) with
  | some value => splitNames value
  | none => old

theorem namesOr_eq (lookup : String → Option String) (key : String) (old : List String) :
    namesOr lookup key old =
      ((given? lookup (environmentLabel ++ key)).map splitNames).getD old := by
  unfold namesOr
  cases given? lookup (environmentLabel ++ key) <;> rfl

theorem namesOr_namesOr (lookup : String → Option String) (key : String) (old : List String) :
    namesOr lookup key (namesOr lookup key old) = namesOr lookup key old := by
  unfold namesOr
  cases given? lookup (environmentLabel ++ key) <;> rfl

theorem overrideLists_eq (c : Config) (lookup : String → Option String) :
    c.overrideLists lookup =
      { c with
        disabledServices := namesOr lookup "DISABLED_SERVICES" c.disabledServices
        enabledServices := namesOr lookup "ENABLED_SERVICES" c.enabledServices
        disabledTools := namesOr lookup "DISABLED_TOOLS" c.disabledTools } := rfl

/-! ## All services -/

theorem foldl_overrideService_eq (lookup : String → Option String) (c : Config)
    (services : List String) :
    services.foldl (overrideService lookup) c =
      { c with backends := (services.foldl (overrideService lookup) c).backends } := by
  induction services generalizing c with
  | nil => rfl
  | cons service rest ih =>
    rw [List.foldl_cons, ih, overrideService_eq]

/-- By induction on the names: a name that comes again finds its backend overridden already. -/
theorem backend?_foldl_overrideService (lookup : String → Option String) (c : Config)
    (services : List String) (b : String) :
    (services.foldl (overrideService lookup) c).backend? b =
      if b ∈ services then (Override.ofLookup lookup b).entry (c.backend? b) else c.backend? b := by
  induction services generalizing c with
  | nil => rfl
  | cons service rest ih =>
    rw [List.foldl_cons, ih, backend?_overrideService]
    by_cases hb : service = b
    · subst hb
      simp [Override.entry_entry]
    · simp [hb, Ne.symm hb]

theorem backend?_override (c : Config) (services : List String)
    (lookup : String → Option String) (b : String) :
    (c.override services lookup).backend? b =
      if b ∈ services then (Override.ofLookup lookup b).entry (c.backend? b) else c.backend? b :=
  backend?_foldl_overrideService lookup (c.overrideLists lookup) services b

theorem override_eq (c : Config) (services : List String) (lookup : String → Option String) :
    c.override services lookup =
      { c.overrideLists lookup with backends := (c.override services lookup).backends } :=
  foldl_overrideService_eq lookup (c.overrideLists lookup) services

theorem override_congr {services services' : List String} (h : ∀ b, b ∈ services' ↔ b ∈ services)
    (c : Config) (lookup : String → Option String) :
    c.override services' lookup = c.override services lookup := by
  have hbackends : (c.override services' lookup).backends =
      (c.override services lookup).backends := by
    refine NameMap.ext_find? fun b => ?_
    have hentry := backend?_override c services' lookup b
    simp only [h] at hentry
    exact hentry.trans (backend?_override c services lookup b).symm
  rw [override_eq c services', hbackends, ← override_eq]

theorem override_override (c : Config) (services : List String)
    (lookup : String → Option String) :
    (c.override services lookup).override services lookup = c.override services lookup := by
  have hbackends : ((c.override services lookup).override services lookup).backends =
      (c.override services lookup).backends := by
    refine NameMap.ext_find? fun b => ?_
    refine (backend?_override _ services lookup b).trans ?_
    refine Eq.trans ?_ (backend?_override c services lookup b).symm
    rw [backend?_override]
    split
    · exact Override.entry_entry _ _
    · rfl
  have hlists : (c.override services lookup).overrideLists lookup =
      { c.overrideLists lookup with backends := (c.override services lookup).backends } := by
    rw [override_eq c]
    simp only [overrideLists_eq, namesOr_namesOr]
  rw [override_eq _ services, hbackends, hlists, ← override_eq]

/-- What an override changes, and nothing else: a list whose key has a value that is not blank
becomes the pieces of that value between commas, trimmed, without the empty ones. The settings of a
backend that is not named stay. Those of a named one are there afterwards if they were, or if there
is an address or a token that is not blank or a timeout that is a number; each of the three is then
the one of the environment, or what it was, or what it is by default. So neither the order nor the
repetition of names counts, and a second override changes nothing. -/
theorem override_exact (c : Config) (services : List String) (lookup : String → Option String) :
    let given (key : String) := (lookup key).filter fun value => !Text.blank value
    let names (value : String) :=
      ((value.toList.splitOn ',').map fun piece => String.ofList (Text.trim piece)).filter (· ≠ "")
    let new := c.override services lookup
    new.disabledServices =
        ((given "OPSBRIDGE_DISABLED_SERVICES").map names).getD c.disabledServices ∧
    new.enabledServices =
        ((given "OPSBRIDGE_ENABLED_SERVICES").map names).getD c.enabledServices ∧
    new.disabledTools = ((given "OPSBRIDGE_DISABLED_TOOLS").map names).getD c.disabledTools ∧
    new.defaultPageSize = c.defaultPageSize ∧
    (∀ b, b ∉ services → new.backend? b = c.backend? b) ∧
    (∀ b ∈ services,
      let label := "OPSBRIDGE_" ++ Text.upper b
      let url? := given (label ++ "_URL")
      let token? := given (label ++ "_TOKEN")
      let seconds? := (lookup (label ++ "_TIMEOUT_SECS")).bind fun value =>
        Decimal.readWord? (Text.trim value.toList)
      let old := (c.backend? b).getD {}
      ((new.backend? b).isSome ↔
        (c.backend? b).isSome ∨ url?.isSome ∨ token?.isSome ∨ seconds?.isSome) ∧
      ∀ settings, new.backend? b = some settings →
        settings.url = url?.or old.url ∧
        settings.auth = (token?.map .bearer).or old.auth ∧
        settings.timeoutSecs.toNat = seconds?.getD old.timeoutSecs.toNat ∧
        settings.headers = old.headers ∧
        settings.insecureSkipVerify = old.insecureSkipVerify) ∧
    (∀ services', (∀ b, b ∈ services' ↔ b ∈ services) → c.override services' lookup = new) ∧
    new.override services lookup = new := by
  intro given names new
  have hnames : splitNames = names := funext splitNames_eq
  have hlists : new = { c.overrideLists lookup with backends := new.backends } :=
    override_eq c services lookup
  refine ⟨?_, ?_, ?_, ?_, ?_, ?_, fun services' h => override_congr h c lookup,
    override_override c services lookup⟩
  · rw [hlists, ← hnames]
    exact namesOr_eq lookup "DISABLED_SERVICES" c.disabledServices
  · rw [hlists, ← hnames]
    exact namesOr_eq lookup "ENABLED_SERVICES" c.enabledServices
  · rw [hlists, ← hnames]
    exact namesOr_eq lookup "DISABLED_TOOLS" c.disabledTools
  · rw [hlists]
    rfl
  · intro b hb
    exact (backend?_override c services lookup b).trans (if_neg hb)
  · intro b hb label url? token? seconds? old
    have hentry : new.backend? b = (Override.ofLookup lookup b).entry (c.backend? b) :=
      (backend?_override c services lookup b).trans (if_pos hb)
    have hseconds : (Override.ofLookup lookup b).timeout.map UInt64.toNat = seconds? :=
      Override.toNat_timeout_ofLookup lookup b
    refine ⟨?_, fun settings hsettings => ?_⟩
    · rw [hentry, Override.isSome_entry, ← hseconds, Option.isSome_map]
      rfl
    · rw [hentry] at hsettings
      obtain rfl := Override.eq_settings_of_entry_eq_some _ hsettings
      refine ⟨rfl, rfl, ?_, rfl, rfl⟩
      rw [← hseconds, Override.settings]
      cases (Override.ofLookup lookup b).timeout <;> rfl

end Config

end Switchboard
