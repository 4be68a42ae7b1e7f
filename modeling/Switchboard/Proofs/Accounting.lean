import Mathlib.Algebra.GroupWithZero.Nat
import Switchboard.Proofs.Registration
import Switchboard.Proofs.Run

/-!
# A merge adds up

What a merge counts, lists as defects and enters is written in separate places. `Plan.Balanced` says
that the three agree; every definition and every report of a left-over handler keeps it
(`balanced_take`), so it holds of every merge. Since a definition is counted exactly once as seen,
all definitions on offer are (`seen_registration`).
-/

namespace Switchboard

variable {η : Type}

namespace Defect

def isOrphaned : Defect → Bool
  | .orphaned _ _ => true
  | _ => false

def isDuplicate : Defect → Bool
  | .duplicate _ _ _ => true
  | _ => false

def isUnadvertised : Defect → Bool
  | .unadvertised _ _ => true
  | _ => false

theorem length_eq_countP (defects : List Defect) :
    defects.length = defects.countP (·.isOrphaned) + defects.countP (·.isDuplicate) +
      defects.countP (·.isUnadvertised) := by
  induction defects with
  | nil => rfl
  | cons defect rest ih =>
    rw [List.length_cons, ih, List.countP_cons, List.countP_cons, List.countP_cons]
    cases defect <;> simp only [isOrphaned, isDuplicate, isUnadvertised] <;> simp <;> omega

end Defect

namespace Plan

/-- Every definition seen is counted as one thing or the other, and every defect by its kind. -/
structure Balanced (p : Plan η) : Prop where
  seen : p.summary.seen = p.summary.registered + p.summary.skippedDisabled + p.summary.orphaned +
    p.summary.duplicates
  orphaned : p.defects.countP (·.isOrphaned) = p.summary.orphaned
  duplicates : p.defects.countP (·.isDuplicate) = p.summary.duplicates
  unadvertised : p.defects.countP (·.isUnadvertised) = p.summary.unadvertised

variable {p : Plan η}

theorem balanced_empty : Balanced (empty : Plan η) := ⟨rfl, rfl, rfl, rfl⟩

theorem balanced_take (h : p.Balanced) (disabled : DisabledTools) (service : String)
    (left : NameMap η) (d : ToolDefinition) :
    (take disabled service (p, left) d).1.Balanced := by
  obtain ⟨hseen, horphaned, hduplicates, hunadvertised⟩ := h
  rcases take_cases disabled service p left d with
    ⟨-, heq⟩ | ⟨-, -, heq⟩ | ⟨_, owner, -, -, -, heq⟩ | ⟨handler, -, -, -, heq⟩
  · rw [heq]
    refine ⟨?_, horphaned, hduplicates, hunadvertised⟩
    simp only [skip]
    omega
  · rw [heq]
    refine ⟨?_, ?_, ?_, ?_⟩
    · simp only [refuseOrphan]
      omega
    · simpa [refuseOrphan, Defect.isOrphaned] using horphaned
    · simpa [refuseOrphan, Defect.isDuplicate] using hduplicates
    · simpa [refuseOrphan, Defect.isUnadvertised] using hunadvertised
  · rw [heq]
    refine ⟨?_, ?_, ?_, ?_⟩
    · simp only [refuseDuplicate]
      omega
    · simpa [refuseDuplicate, Defect.isOrphaned] using horphaned
    · simpa [refuseDuplicate, Defect.isDuplicate] using hduplicates
    · simpa [refuseDuplicate, Defect.isUnadvertised] using hunadvertised
  · rw [heq]
    refine ⟨?_, horphaned, hduplicates, hunadvertised⟩
    simp only [enter]
    omega

theorem balanced_reportUnadvertised (h : p.Balanced) (service tool : String) :
    (p.reportUnadvertised service tool).Balanced := by
  refine ⟨h.seen, ?_, ?_, ?_⟩
  · simpa [reportUnadvertised, Defect.isOrphaned] using h.orphaned
  · simpa [reportUnadvertised, Defect.isDuplicate] using h.duplicates
  · simpa [reportUnadvertised, Defect.isUnadvertised] using h.unadvertised

theorem seen_take (disabled : DisabledTools) (service : String) (p : Plan η) (left : NameMap η)
    (d : ToolDefinition) :
    (take disabled service (p, left) d).1.summary.seen = p.summary.seen + 1 := by
  rcases take_cases disabled service p left d with
    ⟨-, heq⟩ | ⟨-, -, heq⟩ | ⟨_, owner, -, -, -, heq⟩ | ⟨handler, -, -, -, heq⟩ <;>
    rw [heq] <;> rfl

theorem seen_turn (disabled : DisabledTools) (p : Plan η) (service : String × Offer η) :
    (turn disabled p service).summary.seen =
      p.summary.seen + service.2.definitions.length := by
  have hfold : ∀ (definitions : List ToolDefinition) (p : Plan η) (left : NameMap η),
      (definitions.foldl (take disabled service.1) (p, left)).1.summary.seen =
        p.summary.seen + definitions.length := by
    intro definitions
    induction definitions with
    | nil => exact fun _ _ => rfl
    | cons d rest ih =>
      intro p left
      rw [List.foldl_cons, ← Prod.eta (take disabled service.1 (p, left) d), ih, seen_take,
        List.length_cons]
      omega
  simp only [turn, foldl_reportUnadvertised]
  exact hfold service.2.definitions p service.2.handlers

end Plan

theorem balanced_registration (disabled : DisabledTools) (offers : NameMap (Offer η)) :
    (registration disabled offers).Balanced :=
  registration_induction Plan.balanced_empty
    (fun _ service left d hp => Plan.balanced_take hp disabled service left d)
    (fun _ service tool hp => Plan.balanced_reportUnadvertised hp service tool) offers

/-- Every definition on offer is looked at once. -/
theorem seen_registration (disabled : DisabledTools) (offers : NameMap (Offer η)) :
    (registration disabled offers).summary.seen =
      (offers.values.map (·.definitions.length)).sum := by
  have hfold : ∀ (services : List (String × Offer η)) (p : Plan η),
      (services.foldl (Plan.turn disabled) p).summary.seen =
        p.summary.seen + (services.map fun s => s.2.definitions.length).sum := by
    intro services
    induction services with
    | nil => exact fun _ => rfl
    | cons service rest ih =>
      intro p
      rw [List.foldl_cons, ih, Plan.seen_turn, List.map_cons, List.sum_cons]
      omega
  rw [registration, hfold, NameMap.values, List.map_map]
  exact Nat.zero_add _

namespace Manager

variable {σ : Type}

section Provider

variable [Provider σ]

theorem seen_plan (m : Manager σ) :
    m.plan.summary.seen =
      (m.registry.enabled.values.map fun s => (Provider.definitions s).length).sum := by
  rw [plan, seen_registration]
  simp only [NameMap.values, NameMap.map, List.map_map]
  rfl

/-- Nothing is reported exactly if nothing is counted as a defect. -/
theorem verify_eq_true_iff (m : Manager σ) :
    m.verify = (true, []) ↔ m.plan.summary.orphaned = 0 ∧ m.plan.summary.duplicates = 0 ∧
      m.plan.summary.unadvertised = 0 := by
  have hbalanced := balanced_registration m.disabled (m.registry.enabled.map Offer.of)
  have hlength := Defect.length_eq_countP m.defects
  rw [show m.defects.countP _ = _ from hbalanced.orphaned,
    show m.defects.countP _ = _ from hbalanced.duplicates,
    show m.defects.countP _ = _ from hbalanced.unadvertised] at hlength
  have hempty : m.verify = (true, []) ↔ m.defects.length = 0 := by
    simp [verify, List.isEmpty_iff]
  rw [hempty, hlength, plan]
  omega

end Provider

variable [Lifecycle σ]

/-- All definitions that the enabled services offer are looked at, and each is entered, passed over,
orphaned or a duplicate; the defects are as many of each kind as are counted, and the table holds as
many tools as are counted as registered, none of the entries being dropped. Verifying afterwards
reports the defects in words, and none exactly if none is counted; it changes nothing. -/
theorem registration_adds_up (m : Manager σ) (t : Table Handler) :
    let summary := (m.registerTools t).1
    let table := (m.registerTools t).2
    let m' := m.perform .register
    summary.seen =
        (m.registry.enabled.values.map fun s => (Provider.definitions s).length).sum ∧
      summary.seen = summary.registered + summary.skippedDisabled + summary.orphaned +
        summary.duplicates ∧
      m.defects.countP (·.isOrphaned) = summary.orphaned ∧
      m.defects.countP (·.isDuplicate) = summary.duplicates ∧
      m.defects.countP (·.isUnadvertised) = summary.unadvertised ∧
      table.size = summary.registered ∧
      (t.replaceAll m.plan.entries).1 = m.plan.entries.length ∧
      m'.verify.2 = m'.defects.map Defect.text ∧
      (m'.verify = (true, []) ↔
        summary.orphaned = 0 ∧ summary.duplicates = 0 ∧ summary.unadvertised = 0) ∧
      m'.perform .verify = m' ∧
      ((m'.perform .verify).registerTools table).2.tools = table.tools := by
  intro summary table m'
  have hbalanced := balanced_registration m.disabled (m.registry.enabled.map Offer.of)
  have hcounted := counted_registration m.disabled (m.registry.enabled.map Offer.of)
  refine ⟨m.seen_plan, hbalanced.seen, hbalanced.orphaned, hbalanced.duplicates,
    hbalanced.unadvertised, m.size_registerTools t, ?_, rfl, m.verify_eq_true_iff, rfl, rfl⟩
  exact (m.size_registerTools t).trans hcounted.registered

end Manager

end Switchboard
