import Switchboard.Builtin
import Switchboard.Proofs.Connection
import Switchboard.Proofs.Override

/-!
# Timeouts from the environment

An environment that has nothing but timeouts leaves every backend that has settings as it is, up to
the timeout, and no service looks at a timeout when it connects. What is left is a backend without
settings: a timeout makes settings for it, and these lack an address (`GivesTimeouts.entry`). Of the
builtin services only `helm` starts without settings of its own, so it is the only one that a
timeout can take down (`Builtin.timeouts_spare_all_but_helm`).
-/

namespace Switchboard

/-- A lookup that has nothing but timeouts of backends, all of them numbers. -/
def GivesTimeouts (lookup : String → Option String) : Prop :=
  ∀ key value, lookup key = some value →
    (∃ service, key = serviceLabel service ++ "_TIMEOUT_SECS") ∧
      (Decimal.readWord? (Text.trim value.toList)).isSome

/-! ## Settings -/

namespace GivesTimeouts

variable {lookup : String → Option String}

/-- The last letter tells the keys of timeouts from those of addresses and of tokens. -/
theorem given?_eq_none (h : GivesTimeouts lookup) (label : String) {ending : String} {letter : Char}
    (hending : ending.toList.getLast? = some letter) (hletter : letter ≠ 'S') :
    given? lookup (label ++ ending) = none := by
  unfold given?
  cases hvalue : lookup (label ++ ending) with
  | none => rfl
  | some value =>
    obtain ⟨⟨service, hkey⟩, -⟩ := h _ value hvalue
    have hlast := congrArg (fun key : String => key.toList.getLast?) hkey
    simp only [String.toList_append, List.getLast?_append, hending] at hlast
    exact absurd (Option.some.inj hlast) hletter

theorem isSome_timeout (h : GivesTimeouts lookup) (service : String) :
    (Override.ofLookup lookup service).timeout.isSome =
      (lookup (serviceLabel service ++ "_TIMEOUT_SECS")).isSome := by
  rw [← Option.isSome_map (f := UInt64.toNat), Override.toNat_timeout_ofLookup]
  cases hvalue : lookup (serviceLabel service ++ "_TIMEOUT_SECS") with
  | none => rfl
  | some value => exact (h _ value hvalue).2

theorem entry (h : GivesTimeouts lookup) (service : String) (old : Option BackendConfig) :
    (Override.ofLookup lookup service).entry old =
      match (Override.ofLookup lookup service).timeout with
      | some secs => some { old.getD {} with timeoutSecs := secs }
      | none => old := by
  have hurl : (Override.ofLookup lookup service).url = none :=
    h.given?_eq_none _ rfl (by decide)
  have htoken : (Override.ofLookup lookup service).token = none :=
    h.given?_eq_none _ rfl (by decide)
  unfold Override.entry Override.settings
  rw [hurl, htoken]
  cases (Override.ofLookup lookup service).timeout <;> rfl

variable {c : Config} {b : String} {services : List String}

/-- Settings that are there change at most their timeout. -/
theorem backend?_of_some (h : GivesTimeouts lookup) (services : List String) {old : BackendConfig}
    (hold : c.backend? b = some old) :
    ∃ secs, (c.override services lookup).backend? b = some { old with timeoutSecs := secs } := by
  rw [Config.backend?_override, hold, h.entry]
  split
  · split
    · next secs _ => exact ⟨secs, rfl⟩
    · exact ⟨old.timeoutSecs, rfl⟩
  · exact ⟨old.timeoutSecs, rfl⟩

/-- Settings that are not there are made if there is a timeout for them; they have no address. -/
theorem backend?_of_none (h : GivesTimeouts lookup) (hold : c.backend? b = none)
    (hb : b ∈ services) (htimeout : (lookup (serviceLabel b ++ "_TIMEOUT_SECS")).isSome) :
    ∃ secs, (c.override services lookup).backend? b = some { timeoutSecs := secs } := by
  rw [← h.isSome_timeout, Option.isSome_iff_exists] at htimeout
  obtain ⟨secs, hsecs⟩ := htimeout
  refine ⟨secs, ?_⟩
  rw [Config.backend?_override, if_pos hb, hold, h.entry, hsecs]
  rfl

theorem backend?_eq_none (h : GivesTimeouts lookup) (hold : c.backend? b = none)
    (hnot : ¬ (b ∈ services ∧ (lookup (serviceLabel b ++ "_TIMEOUT_SECS")).isSome)) :
    (c.override services lookup).backend? b = none := by
  rw [Config.backend?_override, hold, h.entry]
  split
  · next hb =>
    have hnone : (Override.ofLookup lookup b).timeout = none := by
      rw [← Option.not_isSome_iff_eq_none, h.isSome_timeout]
      exact fun htimeout => hnot ⟨hb, htimeout⟩
    rw [hnone]
  · rfl

end GivesTimeouts

/-- A lookup that has the timeout of one backend. -/
def oneTimeout (service value key : String) : Option String :=
  if key = serviceLabel service ++ "_TIMEOUT_SECS" then some value else none

theorem givesTimeouts_oneTimeout (service : String) {value : String}
    (hvalue : (Decimal.readWord? (Text.trim value.toList)).isSome) :
    GivesTimeouts (oneTimeout service value) := by
  intro key value' h
  unfold oneTimeout at h
  split at h
  · next hkey =>
    obtain rfl := Option.some.inj h
    exact ⟨⟨service, hkey⟩, hvalue⟩
  · cases h

/-! ## Starting -/

/-- Connecting does not depend on the time that a backend is given to answer. -/
theorem Backend.connect_timeoutSecs (service : String) (settings : BackendConfig) (secs : UInt64) :
    connect service (some { settings with timeoutSecs := secs }) =
      connect service (some settings) := rfl

namespace EndpointService

variable {e : EndpointService} {c : Config} {services : List String}
  {lookup : String → Option String}

/-- Settings that a timeout makes stand in front of those of the other service. -/
theorem settings?_override_made (h : GivesTimeouts lookup) (hown : c.backend? e.name = none)
    (hname : e.name ∈ services)
    (htimeout : (lookup (serviceLabel e.name ++ "_TIMEOUT_SECS")).isSome) :
    ∃ secs, e.settings? (c.override services lookup) = some { timeoutSecs := secs } := by
  obtain ⟨secs, hsecs⟩ := h.backend?_of_none hown hname htimeout
  refine ⟨secs, ?_⟩
  rw [settings?, hsecs]

/-- Otherwise the settings are the same ones as before, up to their timeout. -/
theorem settings?_override (h : GivesTimeouts lookup) {old : BackendConfig}
    (hold : e.settings? c = some old)
    (hnot : ¬ (c.backend? e.name = none ∧ e.name ∈ services ∧
      (lookup (serviceLabel e.name ++ "_TIMEOUT_SECS")).isSome)) :
    ∃ secs, e.settings? (c.override services lookup) = some { old with timeoutSecs := secs } := by
  unfold settings? at hold ⊢
  cases hsettings : c.backend? e.name with
  | some settings =>
    rw [hsettings] at hold
    obtain rfl := Option.some.inj hold
    obtain ⟨secs, hsecs⟩ := h.backend?_of_some services hsettings
    exact ⟨secs, by rw [hsecs]⟩
  | none =>
    rw [hsettings] at hold
    obtain ⟨other, hother, hfallback⟩ := Option.bind_eq_some_iff.mp hold
    obtain ⟨secs, hsecs⟩ := h.backend?_of_some services hfallback
    have hnone := h.backend?_eq_none hsettings fun hmade => hnot ⟨hsettings, hmade⟩
    exact ⟨secs, by rw [hnone, hother, Option.bind_some, hsecs]⟩

end EndpointService

namespace Service

variable {lookup : String → Option String}

/-- What timeouts do to the start of any service over endpoints that starts without them. -/
theorem start_override (h : GivesTimeouts lookup) (services : List String) {e : EndpointService}
    {c : Config} (hstarted : ((endpoints e).start c).1 = .started) :
    (endpoints e).start (c.override services lookup) =
      if c.backend? e.name = none ∧ e.name ∈ services ∧
          (lookup (serviceLabel e.name ++ "_TIMEOUT_SECS")).isSome then
        (.failed (ConnectError.noUrl.failure e.name), .endpoints e)
      else (endpoints e).start c := by
  obtain ⟨hnew, hsome⟩ := start_endpoints_eq_started_iff.mp hstarted
  split
  · next hmade =>
    obtain ⟨hown, hname, htimeout⟩ := hmade
    obtain ⟨secs, hsecs⟩ := EndpointService.settings?_override_made h hown hname htimeout
    simp only [start, EndpointService.start, hnew, hsecs]
    rfl
  · next hnot =>
    cases hold : e.settings? c with
    | none =>
      rw [EndpointService.connectionFor?, hold] at hsome
      cases hsome
    | some old =>
      obtain ⟨secs, hsecs⟩ := EndpointService.settings?_override h hold hnot
      have hpage : (c.override services lookup).defaultPageSize = c.defaultPageSize := by
        rw [Config.override_eq]
        rfl
      simp only [start, EndpointService.start, hsecs, hold, Backend.connect_timeoutSecs, hpage]

/-- A service without another one behind it starts with settings of its own only. -/
theorem backend?_ne_none_of_started {e : EndpointService} {c : Config}
    (hfallback : e.fallback = none) (hstarted : ((endpoints e).start c).1 = .started) :
    c.backend? e.name ≠ none := by
  intro hnone
  have hsome := (start_endpoints_eq_started_iff.mp hstarted).2
  rw [EndpointService.connectionFor?, EndpointService.settings?, hnone, hfallback] at hsome
  cases hsome

end Service

/-! ## Builtin services -/

namespace Builtin

/-- What stands in the catalog, apart from the tables. -/
theorem catalog_entries_cases {e : CatalogEntry Service} (he : e ∈ catalog.entries) :
    e = ⟨"utilities", .utilities false⟩ ∨
      ∃ s, e.service = .endpoints s ∧ s.name = e.name ∧ e.name ∈ serviceNames ∧
        (s.fallback = none ∨ e.name = "helm") := by
  revert e
  simp only [catalog, Catalog.entries, List.forall_mem_cons]
  refine ⟨?_, ?_, ?_, ?_, ?_, ?_, ?_, ?_, ?_, ?_, fun _ h => absurd h List.not_mem_nil⟩
  iterate 8 exact .inr ⟨_, rfl, rfl, by decide, .inl rfl⟩
  · exact .inr ⟨_, rfl, rfl, by decide, .inr rfl⟩
  · exact .inl trivial

/-- The entry that uses the settings of another service. -/
def helmEntry : CatalogEntry Service :=
  ⟨"helm", .endpoints { name := "helm", endpoints := helm, fallback := some criticalName }⟩

theorem helmEntry_mem : helmEntry ∈ catalog.entries := List.mem_of_getElem? (i := 8) rfl

/-- Timeouts do nothing to the start of a builtin service that starts without them: the outcome is
the same, and so is the service afterwards, with the address and the header fields of its backend.
The one exception is `helm` where it has no settings of its own: it connects as `kubernetes` does
until it is given a timeout, and from then on it fails. -/
theorem timeouts_spare_all_but_helm (c : Config) {lookup : String → Option String}
    (h : GivesTimeouts lookup) {e : CatalogEntry Service} (he : e ∈ catalog.entries)
    (hstarted : (e.service.start c).1 = .started) :
    e.service.start (c.override serviceNames lookup) =
      if e.name = "helm" ∧ c.backend? "helm" = none ∧
          (lookup "OPSBRIDGE_HELM_TIMEOUT_SECS").isSome then
        (.failed (.of "no url configured for 'helm'"), e.service)
      else e.service.start c := by
  obtain ⟨name, service⟩ := e
  rcases catalog_entries_cases he with heq | ⟨s, rfl, rfl, hname, hfallback⟩
  · cases heq
    rfl
  · rw [Service.start_override h serviceNames hstarted]
    by_cases hhelm : s.name = "helm"
    · have hlabel : serviceLabel "helm" ++ "_TIMEOUT_SECS" = "OPSBRIDGE_HELM_TIMEOUT_SECS" := by
        decide +kernel
      have hmem : "helm" ∈ serviceNames := by decide
      simp only [hhelm, hlabel, hmem, true_and]
      rfl
    · have hown : c.backend? s.name ≠ none :=
        Service.backend?_ne_none_of_started (hfallback.resolve_right hhelm) hstarted
      rw [if_neg (fun hmade => hown hmade.1), if_neg (fun hmade => hhelm hmade.1)]

/-- Releases are looked up at an address of their own, and the timeout is all that changes. -/
theorem timeout_spares_helm_with_address :
    let c := ({} : Config).withBackend "helm" (.ofUrl "http://h")
    let lookup := oneTimeout "helm" " 10 "
    GivesTimeouts lookup ∧ helmEntry ∈ catalog.entries ∧
      (helmEntry.service.start c).1 = .started ∧
      (lookup "OPSBRIDGE_HELM_TIMEOUT_SECS").isSome ∧
      helmEntry.service.start (c.override serviceNames lookup) = helmEntry.service.start c := by
  intro c lookup
  have htimeouts : GivesTimeouts lookup := givesTimeouts_oneTimeout "helm" (by decide +kernel)
  have hstarted : (helmEntry.service.start c).1 = .started := by decide +kernel
  have hsome : (lookup "OPSBRIDGE_HELM_TIMEOUT_SECS").isSome := by decide +kernel
  have hown : c.backend? "helm" ≠ none := by decide +kernel
  refine ⟨htimeouts, helmEntry_mem, hstarted, hsome, ?_⟩
  rw [timeouts_spare_all_but_helm c htimeouts helmEntry_mem hstarted,
    if_neg (fun hmade => hown hmade.2.1)]

/-- With settings of the cluster alone, a timeout for `helm` makes settings without an address, and
these are used instead of those of the cluster. -/
theorem timeout_takes_helm_down :
    ¬ ∀ (c : Config) (lookup : String → Option String), GivesTimeouts lookup →
      ∀ e ∈ catalog.entries, (e.service.start c).1 = .started →
        (e.service.start (c.override serviceNames lookup)).1 = .started := by
  intro hall
  have hstarted := hall (({} : Config).withBackend "kubernetes" (.ofUrl "http://h"))
    (oneTimeout "helm" "10") (givesTimeouts_oneTimeout "helm" (by decide +kernel)) helmEntry
    helmEntry_mem (by decide +kernel)
  exact absurd hstarted (by decide +kernel)

end Builtin

end Switchboard
