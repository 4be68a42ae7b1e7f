import Mathlib.Data.List.Count
import Switchboard.Proofs.Accounting
import Switchboard.Proofs.Lists
import Switchboard.Service.Basic

/-!
# What is reported of a merge

The defects of a merge in closed form: every service has its own (`Offer.faults`), one for each
definition at most and then the handlers that are left over, and those of all services follow one
another (`Manager.defects_eq`). What a definition comes to depends on the definitions before it in
two ways, and both are made explicit: which handlers are left, and which service owns its tool. The
owner is the supplier of the tool if that comes before the service in question.

How often a defect is reported is then counted service by service (`Manager.count_defects`).
-/

namespace Switchboard

variable {η : Type}

namespace Defect

def tool : Defect → String
  | .orphaned tool _ => tool
  | .unadvertised tool _ => tool
  | .duplicate tool _ _ => tool

/-- The service that a defect is reported of. -/
def service : Defect → String
  | .orphaned _ service => service
  | .unadvertised _ service => service
  | .duplicate _ service _ => service

end Defect

/-! ## The defects of one service -/

/-- The defect that a definition comes to, if any, where `left` are the handlers that are left and
`supplier?` tells which service a tool is entered for. -/
def ToolDefinition.fault? (disabled : DisabledTools) (supplier? : String → Option String)
    (service : String) (left : NameMap η) (d : ToolDefinition) : Option Defect :=
  if disabled.contains d.name then none
  else if left.contains d.name then
    ((supplier? d.name).filter (decide <| · < service)).map (.duplicate d.name service)
  else some (.orphaned d.name service)

/-- The defects that definitions come to, each of which takes its handler. -/
def ToolDefinition.faults (disabled : DisabledTools) (supplier? : String → Option String)
    (service : String) (left : NameMap η) : List ToolDefinition → List Defect
  | [] => []
  | d :: rest =>
    (d.fault? disabled supplier? service left).toList ++
      faults disabled supplier? service (left.erase d.name) rest

namespace Offer

/-- The handlers that no definition takes. -/
def leftOver (o : Offer η) : NameMap η :=
  o.definitions.foldl (fun left d => left.erase d.name) o.handlers

/-- All defects of a service. -/
def faults (o : Offer η) (disabled : DisabledTools) (supplier? : String → Option String)
    (service : String) : List Defect :=
  ToolDefinition.faults disabled supplier? service o.handlers o.definitions ++
    o.leftOver.keys.map (.unadvertised · service)

end Offer

/-! ## A merge reports these defects -/

namespace Plan

variable {disabled : DisabledTools} {service : String} {supplier? : String → Option String}

theorem foldl_take_snd (disabled : DisabledTools) (service : String)
    (definitions : List ToolDefinition) (p : Plan η) (left : NameMap η) :
    (definitions.foldl (take disabled service) (p, left)).2 =
      definitions.foldl (fun left d => left.erase d.name) left := by
  induction definitions generalizing p left with
  | nil => rfl
  | cons d rest ih =>
    rw [List.foldl_cons, List.foldl_cons, ← Prod.eta (take disabled service (p, left) d), take_snd]
    exact ih _ _

/-- Before the turn of a service, or during it, the owner of a tool whose handler is left is its
supplier, if that comes before the service. -/
def Owned (p : Plan η) (disabled : DisabledTools) (supplier? : String → Option String)
    (service : String) (left : NameMap η) : Prop :=
  ∀ tool, disabled.contains tool = false → left.contains tool = true →
    p.owners.find? tool = (supplier? tool).filter (decide <| · < service)

theorem owned_take {p : Plan η} {left : NameMap η} (h : p.Owned disabled supplier? service left)
    (d : ToolDefinition) :
    (take disabled service (p, left) d).1.Owned disabled supplier? service (left.erase d.name) := by
  intro tool hdisabled hleft
  have hname : d.name ≠ tool := by
    rintro rfl
    simp [NameMap.contains] at hleft
  have hbefore : left.contains tool = true := by
    simpa [NameMap.contains, hname] using hleft
  rw [← h tool hdisabled hbefore]
  rcases take_cases disabled service p left d with
    ⟨-, heq⟩ | ⟨-, -, heq⟩ | ⟨_, _, -, -, -, heq⟩ | ⟨_, -, -, -, heq⟩
  · rw [heq]; rfl
  · rw [heq]; rfl
  · rw [heq]; rfl
  · rw [heq, enter, NameMap.find?_insert, if_neg hname]

theorem defects_take {p : Plan η} {left : NameMap η} (h : p.Owned disabled supplier? service left)
    (d : ToolDefinition) :
    (take disabled service (p, left) d).1.defects =
      p.defects ++ (d.fault? disabled supplier? service left).toList := by
  rcases take_cases disabled service p left d with
    ⟨hd, heq⟩ | ⟨hd, hl, heq⟩ | ⟨handler, owner, hd, hl, ho, heq⟩ | ⟨handler, hd, hl, ho, heq⟩
  · rw [heq, ToolDefinition.fault?, if_pos hd]
    exact (List.append_nil _).symm
  · have hleft : left.contains d.name = false := by rw [NameMap.contains, hl]; rfl
    rw [heq, ToolDefinition.fault?, hd, hleft]
    rfl
  · have hleft : left.contains d.name = true := by rw [NameMap.contains, hl]; rfl
    rw [heq, ToolDefinition.fault?, hd, hleft, ← h d.name hd hleft, ho]
    rfl
  · have hleft : left.contains d.name = true := by rw [NameMap.contains, hl]; rfl
    rw [heq, ToolDefinition.fault?, hd, hleft, ← h d.name hd hleft, ho]
    exact (List.append_nil _).symm

theorem defects_foldl_take {p : Plan η} {left : NameMap η}
    (h : p.Owned disabled supplier? service left) (definitions : List ToolDefinition) :
    (definitions.foldl (take disabled service) (p, left)).1.defects =
      p.defects ++ ToolDefinition.faults disabled supplier? service left definitions := by
  induction definitions generalizing p left with
  | nil => exact (List.append_nil _).symm
  | cons d rest ih =>
    rw [List.foldl_cons, ← Prod.eta (take disabled service (p, left) d), take_snd,
      ih (owned_take h d), defects_take h d, List.append_assoc]
    rfl

theorem defects_turn {p : Plan η} {o : Offer η}
    (h : p.Owned disabled supplier? service o.handlers) :
    (turn disabled p (service, o)).defects = p.defects ++ o.faults disabled supplier? service := by
  simp only [turn, foldl_reportUnadvertised, foldl_take_snd, defects_foldl_take h]
  rw [List.append_assoc]
  rfl

end Plan

/-- The first of some services that brings a tool, with the tool. -/
def supplierIn? (services : List (String × Offer η)) (tool : String) : Option (String × Tool η) :=
  services.findSome? fun s => (s.2.tool? tool).map (s.1, ·)

theorem exists_mem_of_supplierIn? {services : List (String × Offer η)} {tool : String}
    {found : String × Tool η} (h : supplierIn? services tool = some found) :
    ∃ s ∈ services, s.1 = found.1 := by
  obtain ⟨s, hs, hbrings⟩ := List.exists_of_findSome?_eq_some h
  obtain ⟨_, -, rfl⟩ := Option.map_eq_some_iff.mp hbrings
  exact ⟨s, hs, rfl⟩

/-- The supplier of a tool among the services before one is the supplier among all, if that comes
before it. -/
theorem supplierIn?_before {before after : List (String × Offer η)} {service : String × Offer η}
    (hasc : Assoc.Ascending (before ++ service :: after)) (tool : String) :
    (supplierIn? before tool).map (·.1) =
      ((supplierIn? (before ++ service :: after) tool).map (·.1)).filter
        (decide <| · < service.1) := by
  obtain ⟨-, hafter, hbefore⟩ := List.pairwise_append.mp hasc
  have happend : supplierIn? (before ++ service :: after) tool =
      (supplierIn? before tool).or (supplierIn? (service :: after) tool) := List.findSome?_append
  rw [happend]
  cases hfound : supplierIn? before tool with
  | some found =>
    obtain ⟨s, hs, hname⟩ := exists_mem_of_supplierIn? hfound
    have hlt : found.1 < service.1 := hname ▸ hbefore s hs service List.mem_cons_self
    simp [Option.filter, hlt]
  | none =>
    cases hlater : supplierIn? (service :: after) tool with
    | none => rfl
    | some found =>
      obtain ⟨s, hs, hname⟩ := exists_mem_of_supplierIn? hlater
      have hnot : ¬ found.1 < service.1 := by
        rcases List.mem_cons.mp hs with rfl | hs
        · exact hname ▸ String.lt_irrefl _
        · have hlt : service.1 < found.1 := hname ▸ List.rel_of_pairwise_cons hafter hs
          exact fun hgt => String.lt_irrefl _ (String.lt_trans hlt hgt)
      simp [Option.filter, hnot]

/-- By induction on the services that are still to come; a plan holds what those before bring. -/
theorem Plan.defects_foldl_turn (disabled : DisabledTools) {before after : List (String × Offer η)}
    (hasc : Assoc.Ascending (before ++ after)) {p : Plan η}
    (hp : ∀ tool, p.Holds tool
      (if disabled.contains tool then none else supplierIn? before tool)) :
    (after.foldl (turn disabled) p).defects = p.defects ++ after.flatMap fun s =>
      s.2.faults disabled (fun tool => (supplierIn? (before ++ after) tool).map (·.1)) s.1 := by
  induction after generalizing before p with
  | nil => exact (List.append_nil _).symm
  | cons service rest ih =>
    have hsplit : before ++ service :: rest = (before ++ [service]) ++ rest := by simp
    have howned : p.Owned disabled
        (fun tool => (supplierIn? (before ++ service :: rest) tool).map (·.1)) service.1
        service.2.handlers := by
      intro tool hdisabled _
      rw [(hp tool).1, hdisabled]
      exact supplierIn?_before hasc tool
    have hheld : ∀ tool, (turn disabled p service).Holds tool
        (if disabled.contains tool then none else supplierIn? (before ++ [service]) tool) := by
      intro tool
      have hturn := holds_turn (hp tool) disabled service
      cases hdisabled : disabled.contains tool with
      | true => simpa [hdisabled] using hturn
      | false => simpa [hdisabled, supplierIn?, List.findSome?_append] using hturn
    rw [List.foldl_cons, List.flatMap_cons, ih (hsplit ▸ hasc) hheld, ← hsplit,
      defects_turn howned, List.append_assoc]

theorem defects_registration (disabled : DisabledTools) (offers : NameMap (Offer η)) :
    (registration disabled offers).defects = offers.entries.flatMap fun s =>
      s.2.faults disabled (fun tool => (supplierIn? offers.entries tool).map (·.1)) s.1 := by
  have hempty : ∀ tool, (Plan.empty : Plan η).Holds tool
      (if disabled.contains tool then none else supplierIn? [] tool) := by
    intro tool
    cases disabled.contains tool <;> exact Plan.holds_empty tool
  exact Plan.defects_foldl_turn disabled (show Assoc.Ascending ([] ++ offers.entries) from
    offers.ascending) hempty

/-! ## How often a defect is reported -/

namespace ToolDefinition

variable {disabled : DisabledTools} {supplier? : String → Option String} {service tool : String}
  {left : NameMap η}

theorem fault?_eq_orphaned {d : ToolDefinition} :
    d.fault? disabled supplier? service left = some (.orphaned tool service) ↔
      d.name = tool ∧ disabled.contains tool = false ∧ left.contains tool = false := by
  unfold fault?
  split
  · next hdisabled =>
    refine iff_of_false (by simp) ?_
    rintro ⟨rfl, hallowed, -⟩
    exact Bool.false_ne_true (hallowed.symm.trans hdisabled)
  · next hallowed =>
    split
    · next hleft =>
      refine iff_of_false (by simp) ?_
      rintro ⟨rfl, -, hnone⟩
      exact Bool.false_ne_true (hnone.symm.trans hleft)
    · next hnone =>
      constructor
      · intro h
        obtain rfl := (Defect.orphaned.inj (Option.some.inj h)).1
        exact ⟨rfl, by simpa using hallowed, by simpa using hnone⟩
      · rintro ⟨rfl, -, -⟩
        rfl

theorem fault?_eq_duplicate {d : ToolDefinition} {owner : String} :
    d.fault? disabled supplier? service left = some (.duplicate tool service owner) ↔
      d.name = tool ∧ disabled.contains tool = false ∧ left.contains tool = true ∧
        supplier? tool = some owner ∧ owner < service := by
  unfold fault?
  split
  · next hdisabled =>
    refine iff_of_false (by simp) ?_
    rintro ⟨rfl, hallowed, -⟩
    exact Bool.false_ne_true (hallowed.symm.trans hdisabled)
  · next hallowed =>
    split
    · next hleft =>
      constructor
      · intro h
        obtain ⟨_, hfirst, hdefect⟩ := Option.map_eq_some_iff.mp h
        obtain ⟨rfl, -, rfl⟩ := Defect.duplicate.inj hdefect
        obtain ⟨hsupplier, hlt⟩ := Option.filter_eq_some_iff.mp hfirst
        exact ⟨rfl, by simpa using hallowed, hleft, hsupplier, of_decide_eq_true hlt⟩
      · rintro ⟨rfl, -, -, hsupplier, hlt⟩
        simp [hsupplier, Option.filter, hlt]
    · next hnone =>
      refine iff_of_false (by simp) ?_
      rintro ⟨rfl, -, hleft, -⟩
      exact hnone hleft

theorem of_fault?_eq_some {d : ToolDefinition} {defect : Defect}
    (h : d.fault? disabled supplier? service left = some defect) :
    defect.service = service ∧ defect.isUnadvertised = false := by
  unfold fault? at h
  split at h
  · cases h
  · split at h
    · obtain ⟨_, -, rfl⟩ := Option.map_eq_some_iff.mp h
      exact ⟨rfl, rfl⟩
    · obtain rfl := Option.some.inj h
      exact ⟨rfl, rfl⟩

theorem of_mem_faults {definitions : List ToolDefinition} {defect : Defect}
    (h : defect ∈ faults disabled supplier? service left definitions) :
    defect.service = service ∧ defect.isUnadvertised = false := by
  induction definitions generalizing left with
  | nil => cases h
  | cons d rest ih =>
    rcases List.mem_append.mp h with h | h
    · exact of_fault?_eq_some (Option.mem_toList.mp h)
    · exact ih h

/-- Of the definitions of a tool only the first one finds a handler. -/
theorem count_orphaned (definitions : List ToolDefinition) :
    (faults disabled supplier? service left definitions).count (.orphaned tool service) =
      if disabled.contains tool then 0
      else (definitions.map (·.name)).count tool - if left.contains tool then 1 else 0 := by
  induction definitions generalizing left with
  | nil => simp [faults]
  | cons d rest ih =>
    rw [faults, List.count_append, ih, count_toList, List.map_cons, List.count_cons]
    simp only [fault?_eq_orphaned, NameMap.contains_erase]
    by_cases hname : d.name = tool
    · cases disabled.contains tool <;> cases left.contains tool <;> simp [hname, Nat.add_comm]
    · simp [hname]

/-- Only the first definition of a tool is refused because the tool is entered for another
service. -/
theorem count_duplicate (definitions : List ToolDefinition) (owner : String) :
    (faults disabled supplier? service left definitions).count (.duplicate tool service owner) =
      if disabled.contains tool = false ∧ (∃ d ∈ definitions, d.name = tool) ∧
        left.contains tool = true ∧ supplier? tool = some owner ∧ owner < service then 1
      else 0 := by
  induction definitions generalizing left with
  | nil => simp [faults]
  | cons d rest ih =>
    rw [faults, List.count_append, ih, count_toList]
    simp only [fault?_eq_duplicate, NameMap.contains_erase]
    by_cases hname : d.name = tool
    · simp [hname]
    · simp [hname]

end ToolDefinition

namespace Offer

variable {disabled : DisabledTools} {supplier? : String → Option String} {service tool : String}

theorem contains_leftOver {o : Offer η} :
    o.leftOver.contains tool = true ↔
      o.handlers.contains tool = true ∧ ∀ d ∈ o.definitions, d.name ≠ tool := by
  have hfold : ∀ (definitions : List ToolDefinition) (left : NameMap η),
      (definitions.foldl (fun left d => left.erase d.name) left).contains tool = true ↔
        left.contains tool = true ∧ ∀ d ∈ definitions, d.name ≠ tool := by
    intro definitions
    induction definitions with
    | nil => simp
    | cons d rest ih =>
      intro left
      rw [List.foldl_cons, ih, NameMap.contains_erase]
      by_cases hname : d.name = tool
      · simp [hname]
      · simp [hname]
  exact hfold o.definitions o.handlers

theorem service_of_mem_faults {o : Offer η} {defect : Defect}
    (h : defect ∈ o.faults disabled supplier? service) : defect.service = service := by
  rcases List.mem_append.mp h with h | h
  · exact (ToolDefinition.of_mem_faults h).1
  · obtain ⟨_, -, rfl⟩ := List.mem_map.mp h
    rfl

theorem count_orphaned (o : Offer η) :
    (o.faults disabled supplier? service).count (.orphaned tool service) =
      if disabled.contains tool then 0
      else (o.definitions.map (·.name)).count tool - if o.handlers.contains tool then 1 else 0 := by
  have hrest : (o.leftOver.keys.map (Defect.unadvertised · service)).count
      (.orphaned tool service) = 0 := List.count_eq_zero.mpr (by simp)
  rw [faults, List.count_append, ToolDefinition.count_orphaned, hrest, Nat.add_zero]

theorem count_duplicate (o : Offer η) (owner : String) :
    (o.faults disabled supplier? service).count (.duplicate tool service owner) =
      if disabled.contains tool = false ∧ (∃ d ∈ o.definitions, d.name = tool) ∧
        o.handlers.contains tool = true ∧ supplier? tool = some owner ∧ owner < service then 1
      else 0 := by
  have hrest : (o.leftOver.keys.map (Defect.unadvertised · service)).count
      (.duplicate tool service owner) = 0 := List.count_eq_zero.mpr (by simp)
  rw [faults, List.count_append, ToolDefinition.count_duplicate, hrest, Nat.add_zero]

theorem count_unadvertised (o : Offer η) :
    (o.faults disabled supplier? service).count (.unadvertised tool service) =
      if o.handlers.contains tool = true ∧ ∀ d ∈ o.definitions, d.name ≠ tool then 1 else 0 := by
  have htaken : (ToolDefinition.faults disabled supplier? service o.handlers
      o.definitions).count (.unadvertised tool service) = 0 := by
    refine List.count_eq_zero.mpr fun hmem => ?_
    cases (ToolDefinition.of_mem_faults hmem).2
  have hinjective : Function.Injective (Defect.unadvertised · service) := fun _ _ heq =>
    (Defect.unadvertised.inj heq).1
  rw [faults, List.count_append, htaken, Nat.zero_add, List.count_map_of_injective _ _ hinjective,
    List.Nodup.count (o.leftOver.pairwise_keys.imp String.ne_of_lt)]
  simp only [NameMap.mem_keys, ← contains_leftOver]
  rfl

/-- A service has its left-over handlers last, by ascending name. -/
theorem pairwise_faults (o : Offer η) :
    (o.faults disabled supplier? service).Pairwise fun a b =>
      a.isUnadvertised = true → b.isUnadvertised = true ∧ a.tool < b.tool := by
  refine List.pairwise_append.mpr ⟨?_, ?_, ?_⟩
  · refine List.pairwise_of_forall_mem_list fun a ha b _ hmark => ?_
    rw [(ToolDefinition.of_mem_faults ha).2] at hmark
    cases hmark
  · exact List.pairwise_map.mpr (o.leftOver.pairwise_keys.imp fun hlt _ => ⟨rfl, hlt⟩)
  · intro a ha b _ hmark
    rw [(ToolDefinition.of_mem_faults ha).2] at hmark
    cases hmark

end Offer

/-! ## The defects of a manager -/

namespace Manager

variable {σ : Type} [Provider σ]

/-- An enabled service of a name both offers a tool and has a handler for it. -/
def Brings (m : Manager σ) (name tool : String) : Prop :=
  ∃ s, m.registry.enabled.find? name = some s ∧
    (∃ d ∈ Provider.definitions s, d.name = tool) ∧ (Provider.handlers s).contains tool = true

/-- The supplier of a tool is the least of the services that bring it. -/
theorem name_supplier?_eq_some {m : Manager σ} {tool name : String} :
    (m.supplier? tool).map (·.1) = some name ↔
      m.Brings name tool ∧ ∀ other, m.Brings other tool → name ≤ other := by
  have hbrings : ∀ other, m.Brings other tool ↔ ∃ s, m.registry.enabled.find? other = some s ∧
      ((Offer.of s).tool? tool).isSome := fun other => by
    simp only [Brings, Offer.isSome_tool?]
    rfl
  simp only [hbrings]
  constructor
  · intro h
    obtain ⟨⟨_, t⟩, hsupplier, rfl⟩ := Option.map_eq_some_iff.mp h
    obtain ⟨⟨s, hs, ht⟩, hleast⟩ := supplier?_eq_some.mp hsupplier
    exact ⟨⟨s, hs, by rw [ht]; rfl⟩, fun other ⟨s', hs', ht'⟩ => hleast other s' hs' ht'⟩
  · rintro ⟨⟨s, hs, hsome⟩, hleast⟩
    obtain ⟨t, ht⟩ := Option.isSome_iff_exists.mp hsome
    have hsupplier : m.supplier? tool = some (name, t) := supplier?_eq_some.mpr
      ⟨⟨s, hs, ht⟩, fun other s' hs' ht' => hleast other ⟨s', hs', ht'⟩⟩
    rw [hsupplier]
    rfl

theorem defects_eq (m : Manager σ) :
    m.defects = (m.registry.enabled.map Offer.of).entries.flatMap fun s =>
      s.2.faults m.disabled (fun tool => (m.supplier? tool).map (·.1)) s.1 :=
  defects_registration m.disabled (m.registry.enabled.map Offer.of)

/-- A defect is reported as often as it is among the defects of the service it is reported of. -/
theorem count_defects (m : Manager σ) (defect : Defect) :
    m.defects.count defect = (m.registry.enabled.find? defect.service).elim 0 fun s =>
      ((Offer.of s).faults m.disabled (fun tool => (m.supplier? tool).map (·.1))
        defect.service).count defect := by
  rw [defects_eq, NameMap.count_flatMap fun e _ hmem => (Offer.service_of_mem_faults hmem).symm,
    NameMap.find?_map]
  cases m.registry.enabled.find? defect.service <;> rfl

theorem count_orphaned (m : Manager σ) (tool name : String) :
    m.defects.count (.orphaned tool name) = (m.registry.enabled.find? name).elim 0 fun s =>
      if m.disabled.contains tool then 0
      else ((Provider.definitions s).map (·.name)).count tool -
        if (Provider.handlers s).contains tool then 1 else 0 := by
  rw [count_defects]
  cases hfind : m.registry.enabled.find? name with
  | none => simp only [Defect.service, hfind, Option.elim_none]
  | some s =>
    simp only [Defect.service, hfind, Option.elim_some]
    exact (Offer.of s).count_orphaned

theorem mem_defects {m : Manager σ} {defect : Defect} :
    defect ∈ m.defects ↔ ∃ s, m.registry.enabled.find? defect.service = some s ∧
      0 < ((Offer.of s).faults m.disabled (fun tool => (m.supplier? tool).map (·.1))
        defect.service).count defect := by
  rw [← List.count_pos_iff, count_defects]
  cases m.registry.enabled.find? defect.service <;> simp

theorem mem_defects_orphaned {m : Manager σ} {tool name : String} :
    .orphaned tool name ∈ m.defects ↔ m.disabled.contains tool = false ∧
      ∃ s, m.registry.enabled.find? name = some s ∧
        (∃ d ∈ Provider.definitions s, d.name = tool) ∧
        ((Provider.handlers s).contains tool = false ∨
          2 ≤ ((Provider.definitions s).map (·.name)).count tool) := by
  have hpos : ∀ s : σ, (∃ d ∈ Provider.definitions s, d.name = tool) ↔
      0 < ((Provider.definitions s).map (·.name)).count tool := fun s => by
    rw [List.count_pos_iff, List.mem_map]
  rw [mem_defects]
  simp only [Defect.service, Offer.count_orphaned, hpos]
  cases m.disabled.contains tool with
  | true => simp
  | false =>
    simp only [Bool.false_eq_true, if_false, true_and]
    refine exists_congr fun s => and_congr_right fun _ => ?_
    change 0 < ((Provider.definitions s).map (·.name)).count tool -
      (if (Provider.handlers s).contains tool = true then 1 else 0) ↔ _
    cases (Provider.handlers s).contains tool with
    | true =>
      simp only [reduceIte, Bool.true_eq_false, false_or]
      omega
    | false => simp

theorem mem_defects_duplicate {m : Manager σ} {tool name owner : String} :
    .duplicate tool name owner ∈ m.defects ↔ m.disabled.contains tool = false ∧
      m.Brings name tool ∧ (m.supplier? tool).map (·.1) = some owner ∧ owner < name := by
  rw [mem_defects]
  simp only [Defect.service, Offer.count_duplicate, Brings]
  constructor
  · rintro ⟨s, hs, hcount⟩
    split at hcount
    · next h => exact ⟨h.1, ⟨s, hs, h.2.1, h.2.2.1⟩, h.2.2.2⟩
    · cases hcount
  · rintro ⟨hdisabled, ⟨s, hs, hoffers, hcarries⟩, howner⟩
    refine ⟨s, hs, ?_⟩
    rw [if_pos ⟨hdisabled, hoffers, hcarries, howner⟩]
    exact Nat.one_pos

theorem mem_defects_unadvertised {m : Manager σ} {tool name : String} :
    .unadvertised tool name ∈ m.defects ↔ ∃ s, m.registry.enabled.find? name = some s ∧
      (Provider.handlers s).contains tool = true ∧
      ∀ d ∈ Provider.definitions s, d.name ≠ tool := by
  rw [mem_defects]
  simp only [Defect.service, Offer.count_unadvertised]
  refine exists_congr fun s => and_congr_right fun _ => ?_
  split
  · next h => exact iff_of_true Nat.one_pos h
  · next h => exact iff_of_false (Nat.lt_irrefl 0) h

/-- A duplicate or a handler that is left over is reported once. -/
theorem count_eq_one {m : Manager σ} {defect : Defect} (h : defect ∈ m.defects)
    (hkind : defect.isOrphaned = false) : m.defects.count defect = 1 := by
  have hpos := List.count_pos_iff.mpr h
  have hle : m.defects.count defect ≤ 1 := by
    rw [count_defects]
    cases m.registry.enabled.find? defect.service with
    | none => exact Nat.zero_le 1
    | some s =>
      rw [Option.elim_some]
      cases defect with
      | orphaned _ _ => cases hkind
      | unadvertised _ _ =>
        simp only [Defect.service, Offer.count_unadvertised]
        split <;> omega
      | duplicate _ _ _ =>
        simp only [Defect.service, Offer.count_duplicate]
        split <;> omega
  omega

/-- Defects are grouped by service, by ascending name, and within a group the left-over handlers
come last, by ascending name. -/
theorem pairwise_defects (m : Manager σ) :
    m.defects.Pairwise fun a b => a.service ≤ b.service ∧
      (a.service = b.service → a.isUnadvertised = true →
        b.isUnadvertised = true ∧ a.tool < b.tool) := by
  rw [defects_eq, List.pairwise_flatMap]
  constructor
  · intro s _
    refine (s.2.pairwise_faults).imp_of_mem fun ha hb h => ?_
    rw [Offer.service_of_mem_faults ha, Offer.service_of_mem_faults hb]
    exact ⟨String.le_refl _, fun _ => h⟩
  · refine (m.registry.enabled.map Offer.of).ascending.imp fun hlt a ha b hb => ?_
    rw [Offer.service_of_mem_faults ha, Offer.service_of_mem_faults hb]
    exact ⟨Std.le_of_lt hlt, fun heq => absurd heq (String.ne_of_lt hlt)⟩

/-! ## Definitions without handler -/

/-- A tool is reported as orphaned of a service exactly if it is not disabled and the service is
enabled and offers it, without a handler or more than once: only the first definition of a tool
finds its handler, and every other one is reported. So of a service that offers no tool twice it is
reported exactly if the service has no handler for it. -/
theorem orphaned_iff_without_handler_or_repeated (m : Manager σ) (tool name : String) :
    (.orphaned tool name ∈ m.defects ↔ m.disabled.contains tool = false ∧
      ∃ s, m.registry.enabled.find? name = some s ∧
        (∃ d ∈ Provider.definitions s, d.name = tool) ∧
        ((Provider.handlers s).contains tool = false ∨
          2 ≤ ((Provider.definitions s).map (·.name)).count tool)) ∧
    ∀ s, m.registry.enabled.find? name = some s →
      m.defects.count (.orphaned tool name) = (if m.disabled.contains tool then 0
        else ((Provider.definitions s).map (·.name)).count tool -
          if (Provider.handlers s).contains tool then 1 else 0) ∧
      (((Provider.definitions s).map (·.name)).Nodup →
        (.orphaned tool name ∈ m.defects ↔ m.disabled.contains tool = false ∧
          (∃ d ∈ Provider.definitions s, d.name = tool) ∧
          (Provider.handlers s).contains tool = false)) := by
  refine ⟨mem_defects_orphaned, fun s hs => ⟨?_, fun hnodup => ?_⟩⟩
  · rw [count_orphaned, hs, Option.elim_some]
  · have honce : ¬ 2 ≤ ((Provider.definitions s).map (·.name)).count tool := by
      have hle := List.nodup_iff_count_le_one.mp hnodup tool
      omega
    simp [mem_defects_orphaned, hs, honce]

/-- A tool that a service offers twice is reported as orphaned although the service has a handler
for it. -/
theorem orphaned_despite_handler :
    ¬ ∀ (m : Manager Service) (tool name : String),
      .orphaned tool name ∈ m.defects ↔ m.disabled.contains tool = false ∧
        ∃ s, m.registry.enabled.find? name = some s ∧
          (∃ d ∈ Provider.definitions s, d.name = tool) ∧
          (Provider.handlers s).contains tool = false := by
  intro h
  let service : Service := .scripted { name := "core", tools := ["x", "x"] } false
  let m := ((ofCatalog ⟨⟨"core", service⟩, []⟩).start {}).2
  have hreported : Defect.orphaned "x" "core" ∈ m.defects := by decide
  obtain ⟨-, s, hs, -, hnone⟩ := (h m "x" "core").mp hreported
  have hhandler : ((m.registry.enabled.find? "core").all fun s =>
      (Provider.handlers s).contains "x") = true := by decide
  rw [hs, Option.all_some, hnone] at hhandler
  cases hhandler

/-! ## The other defects -/

/-- A tool is reported as a duplicate of a service exactly if it is not disabled, the service brings
it, and so does another one before it, the first of which is named as the owner. A handler is
reported as left over exactly if the service never offers its tool, be it disabled or not. Each of
these defects is reported once; the defects are grouped by service, by ascending name, and the
left-over handlers of a service come last, by ascending name. -/
theorem duplicate_iff_unadvertised_iff (m : Manager σ) :
    (∀ tool name owner, .duplicate tool name owner ∈ m.defects ↔
      m.disabled.contains tool = false ∧ m.Brings name tool ∧ m.Brings owner tool ∧
        (∀ other, m.Brings other tool → owner ≤ other) ∧ owner < name) ∧
    (∀ tool name, .unadvertised tool name ∈ m.defects ↔
      ∃ s, m.registry.enabled.find? name = some s ∧
        (Provider.handlers s).contains tool = true ∧
        ∀ d ∈ Provider.definitions s, d.name ≠ tool) ∧
    (∀ defect ∈ m.defects, defect.isDuplicate = true ∨ defect.isUnadvertised = true →
      m.defects.count defect = 1) ∧
    m.defects.Pairwise (fun a b => a.service ≤ b.service ∧
      (a.service = b.service → a.isUnadvertised = true →
        b.isUnadvertised = true ∧ a.tool < b.tool)) := by
  refine ⟨fun tool name owner => ?_, fun _ _ => mem_defects_unadvertised, ?_, m.pairwise_defects⟩
  · rw [mem_defects_duplicate, name_supplier?_eq_some, and_assoc]
  · intro defect hmem hkind
    refine count_eq_one hmem ?_
    cases defect with
    | orphaned _ _ => rcases hkind with hkind | hkind <;> cases hkind
    | unadvertised _ _ => rfl
    | duplicate _ _ _ => rfl

end Manager

end Switchboard
