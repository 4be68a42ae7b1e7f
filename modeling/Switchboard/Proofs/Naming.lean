import Switchboard.Manager.Basic
import Switchboard.Proofs.NameMap

/-!
# Under which name a service is found

The registry goes by the names that services give themselves, everything else by the names of the
slots. The two agree, because a slot keeps a service only under its own name (`Slot.IsNamed`) and
nothing that is done with slots changes that (`Slot.Keeps`). So an enabled service is found under
the name of its slot, and only there (`mem_enabledNames`).
-/

namespace Switchboard

variable {σ : Type}

/-- Of the enabled services of a name the last counts. -/
theorem Registry.find?_enabled [Provider σ] (r : Registry σ) (name : String) :
    r.enabled.find? name =
      (r.services.filter fun s =>
        decide (Provider.name s = name) && Provider.isEnabled s).getLast? := by
  rw [enabled, NameMap.find?_ofList, List.filter_map, List.getLast?_map, List.filter_filter,
    Option.map_map]
  exact Option.map_id'

/-! ## Slots -/

namespace Slot

section Provider

variable [Provider σ]

/-- The service that a slot holds goes by the name of the slot. -/
def IsNamed (s : Slot σ) : Prop :=
  ∀ service, s.service = some service → Provider.name service = s.name

theorem isNamed_of_service_eq_none {s : Slot σ} (h : s.service = none) : s.IsNamed := by
  intro service hservice
  rw [h] at hservice
  cases hservice

/-- A change of a slot that leaves its name and does not bring in a service of another name. -/
structure Keeps (f : Slot σ → Slot σ) : Prop where
  name_eq : ∀ s, (f s).name = s.name
  isNamed : ∀ s, s.IsNamed → (f s).IsNamed

theorem keeps_exclude (p : Slot σ → Bool) :
    Keeps fun s : Slot σ => if p s then s.exclude else s where
  name_eq s := by split <;> rfl
  isNamed s h := by split <;> exact h

theorem keeps_construct : Keeps fun s : Slot σ => s.construct.1 where
  name_eq s := by
    unfold construct
    split
    · rfl
    · dsimp only
      split <;> rfl
  isNamed s h := by
    unfold construct
    split
    · exact h
    · dsimp only
      split
      · next hname =>
        intro service' h'
        obtain rfl := Option.some.inj h'
        exact hname
      · exact h

end Provider

variable [Lifecycle σ]

theorem keeps_start (config : Config) : Keeps fun s : Slot σ => (s.start config).1 where
  name_eq s := name_start config s
  isNamed s h := by
    unfold start
    split
    · exact h
    · next service hs =>
      intro service' h'
      obtain rfl := Option.some.inj h'
      exact (Lifecycle.name_start service config).trans (h service hs)

theorem keeps_close : Keeps fun s : Slot σ => s.close.1 where
  name_eq s := name_close s
  isNamed s h := by
    unfold close
    split
    · exact h
    · next service hs =>
      split
      · intro service' h'
        obtain rfl := Option.some.inj h'
        exact (Lifecycle.name_close service).trans (h service hs)
      · exact h

end Slot

/-! ## Enabled services -/

namespace Manager

variable [Provider σ] {m : Manager σ}

theorem exists_slot_of_find?_enabled (hnamed : ∀ s ∈ m.slots, s.IsNamed) {name : String}
    {service : σ} (h : m.registry.enabled.find? name = some service) :
    Provider.isEnabled service = true ∧
      ∃ s ∈ m.slots, s.name = name ∧ s.service = some service := by
  rw [Registry.find?_enabled] at h
  obtain ⟨hmem, hcounts⟩ := List.mem_filter.mp (List.mem_of_getLast? h)
  obtain ⟨s, hs, hservice⟩ := List.mem_filterMap.mp hmem
  rw [Bool.and_eq_true, decide_eq_true_eq, hnamed s hs service hservice] at hcounts
  exact ⟨hcounts.2, s, hs, hcounts.1, hservice⟩

theorem mem_enabledNames (hnamed : ∀ s ∈ m.slots, s.IsNamed) {name : String} :
    name ∈ m.enabledNames ↔ ∃ s ∈ m.slots, s.name = name ∧ s.isEnabled = true := by
  rw [enabledNames, NameMap.mem_keys]
  constructor
  · intro hsome
    obtain ⟨service, hfind⟩ := Option.isSome_iff_exists.mp hsome
    obtain ⟨henabled, s, hs, hname, hservice⟩ := exists_slot_of_find?_enabled hnamed hfind
    exact ⟨s, hs, hname, by rw [Slot.isEnabled, hservice]; exact henabled⟩
  · rintro ⟨s, hs, rfl, henabled⟩
    unfold Slot.isEnabled at henabled
    split at henabled
    · next service hservice =>
      have hmem : service ∈ m.registry.services.filter fun other =>
          decide (Provider.name other = s.name) && Provider.isEnabled other := by
        refine List.mem_filter.mpr ⟨List.mem_filterMap.mpr ⟨s, hs, hservice⟩, ?_⟩
        rw [hnamed s hs service hservice, henabled]
        simp
      rw [Registry.find?_enabled, List.getLast?_isSome]
      exact List.ne_nil_of_mem hmem
    · cases henabled

theorem pairwise_enabledNames (m : Manager σ) : m.enabledNames.Pairwise (· < ·) :=
  m.registry.enabled.pairwise_keys

end Manager

end Switchboard
