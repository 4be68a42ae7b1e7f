import Mathlib.Data.List.Basic
import Switchboard.Manager.Start
import Switchboard.Proofs.Registration
import Switchboard.Service.Basic

/-!
# Disabling is filtering

Two merges of the same offers, one with a set of disabled tools and one with none, go through the
same definitions and take the same handlers; they differ in what they make of a definition. The
relation `Plan.FilteredBy` is kept at every definition (`FilteredBy.take`), so it holds at the end
(`filteredBy_registration`): with the set there is what there is without, less what is about a
disabled tool.

Enabling a tool that was just disabled gives back the same set (`enable_disable`), so it also gives
back the table and the defects, unless the tool was disabled all along: then disabling it did
nothing (`disable_of_contains`) and enabling it takes it out of the set.
-/

namespace Switchboard

/-- Whether a defect is still reported when tools are disabled. A handler that is not offered is
reported in any case. -/
def Defect.remains (disabled : DisabledTools) : Defect → Bool
  | .orphaned tool _ => !disabled.contains tool
  | .duplicate tool _ _ => !disabled.contains tool
  | .unadvertised _ _ => true

/-! ## Sets of disabled tools -/

namespace DisabledTools

@[simp] theorem contains_empty (tool : String) : empty.contains tool = false := rfl

@[simp] theorem contains_ofNames_nil (tool : String) : (ofNames []).contains tool = false := rfl

theorem contains_disable (d : DisabledTools) (tool other : String) :
    (d.disable tool).2.contains other = (decide (tool = other) || d.contains other) := by
  by_cases h : tool = other <;> simp [disable, contains, NameMap.contains, h]

theorem contains_enable (d : DisabledTools) (tool other : String) :
    (d.enable tool).2.contains other = (!decide (tool = other) && d.contains other) := by
  by_cases h : tool = other <;> simp [enable, contains, NameMap.contains, h]

/-- Sets that contain the same tools are the same. -/
theorem ext_contains {d d' : DisabledTools} (h : ∀ tool, d.contains tool = d'.contains tool) :
    d = d' := by
  have hnames : d.names = d'.names := NameMap.ext_find? fun tool => by
    have htool : (d.names.find? tool).isSome = (d'.names.find? tool).isSome := h tool
    cases hd : d.names.find? tool <;> cases hd' : d'.names.find? tool
    · rfl
    · rw [hd, hd'] at htool; cases htool
    · rw [hd, hd'] at htool; cases htool
    · rfl
  cases d
  cases d'
  cases hnames
  rfl

/-- Disabling a tool that is disabled changes nothing. -/
theorem disable_of_contains {d : DisabledTools} {tool : String} (h : d.contains tool = true) :
    (d.disable tool).2 = d := by
  refine ext_contains fun other => ?_
  rw [contains_disable]
  by_cases heq : tool = other
  · subst heq; simp [h]
  · simp [heq]

/-- Enabling a tool that was not disabled before it was disabled gives back the set. -/
theorem enable_disable {d : DisabledTools} {tool : String} (h : d.contains tool = false) :
    ((d.disable tool).2.enable tool).2 = d := by
  refine ext_contains fun other => ?_
  rw [contains_enable, contains_disable]
  by_cases heq : tool = other
  · subst heq; simp [h]
  · simp [heq]

end DisabledTools

/-! ## Two merges side by side -/

namespace Plan

variable {η : Type} {disabled : DisabledTools} {p bare : Plan η}

/-- A plan is another one less what is about disabled tools. -/
structure FilteredBy (disabled : DisabledTools) (p bare : Plan η) : Prop where
  entries : p.entries = bare.entries.filter fun e => !disabled.contains e.1.name
  defects : p.defects = bare.defects.filter (·.remains disabled)
  owners : ∀ tool, p.owners.find? tool =
    if disabled.contains tool then none else bare.owners.find? tool
  seen : p.summary.seen = bare.summary.seen
  unadvertised : p.summary.unadvertised = bare.summary.unadvertised

namespace FilteredBy

theorem empty (disabled : DisabledTools) : FilteredBy disabled (Plan.empty : Plan η) Plan.empty where
  entries := rfl
  defects := rfl
  owners tool := by simp [Plan.empty]
  seen := rfl
  unadvertised := rfl

/-- At a definition of a disabled tool the one merge passes over what the other one makes an entry
or a defect of. -/
theorem take_of_disabled (h : FilteredBy disabled p bare) {d : ToolDefinition}
    (hd : disabled.contains d.name = true) (service : String) (left : NameMap η) :
    FilteredBy disabled (take disabled service (p, left) d).1
      (take .empty service (bare, left) d).1 := by
  have hskip : (take disabled service (p, left) d).1 = p.skip := by simp [take, hd]
  rw [hskip]
  rcases take_cases .empty service bare left d with
    ⟨hempty, -⟩ | ⟨-, -, heq⟩ | ⟨handler, owner, -, -, -, heq⟩ | ⟨handler, -, -, ho, heq⟩
  · cases hempty
  · rw [heq]
    constructor <;> simp [skip, refuseOrphan, Defect.remains, hd, h.entries, h.defects, h.owners,
      h.seen, h.unadvertised]
  · rw [heq]
    constructor <;> simp [skip, refuseDuplicate, Defect.remains, hd, h.entries, h.defects,
      h.owners, h.seen, h.unadvertised]
  · rw [heq]
    refine ⟨?_, h.defects, ?_, ?_, h.unadvertised⟩
    · simp [skip, enter, hd, h.entries]
    · intro tool
      by_cases hname : d.name = tool
      · subst hname; simp [skip, h.owners, hd]
      · simp [skip, enter, h.owners, hname]
    · simp [skip, enter, h.seen]

/-- At any other definition both merges do the same: an owner of its name is an owner in both. -/
theorem take_of_enabled (h : FilteredBy disabled p bare) {d : ToolDefinition}
    (hd : disabled.contains d.name = false) (service : String) (left : NameMap η) :
    FilteredBy disabled (take disabled service (p, left) d).1
      (take .empty service (bare, left) d).1 := by
  have howner : p.owners.find? d.name = bare.owners.find? d.name := by simp [h.owners, hd]
  rcases take_cases .empty service bare left d with
    ⟨hempty, -⟩ | ⟨-, hl, heq⟩ | ⟨handler, owner, -, hl, ho, heq⟩ | ⟨handler, -, hl, ho, heq⟩
  · cases hempty
  · have hp : (take disabled service (p, left) d).1 = p.refuseOrphan d.name service := by
      simp [take, hd, hl]
    rw [heq, hp]
    constructor <;> simp [refuseOrphan, Defect.remains, hd, h.entries, h.defects, h.owners,
      h.seen, h.unadvertised]
  · have hp : (take disabled service (p, left) d).1 = p.refuseDuplicate d.name service owner := by
      simp [take, hd, hl, howner, ho]
    rw [heq, hp]
    constructor <;> simp [refuseDuplicate, Defect.remains, hd, h.entries, h.defects, h.owners,
      h.seen, h.unadvertised]
  · have hp : (take disabled service (p, left) d).1 = p.enter service d handler := by
      simp [take, hd, hl, howner, ho]
    rw [heq, hp]
    refine ⟨?_, h.defects, ?_, ?_, h.unadvertised⟩
    · simp [enter, hd, h.entries]
    · intro tool
      by_cases hname : d.name = tool
      · subst hname; simp [enter, hd]
      · simp [enter, h.owners, hname]
    · simp [enter, h.seen]

theorem take (h : FilteredBy disabled p bare) (service : String) (left : NameMap η)
    (d : ToolDefinition) :
    FilteredBy disabled (take disabled service (p, left) d).1
      (take .empty service (bare, left) d).1 := by
  cases hd : disabled.contains d.name with
  | true => exact h.take_of_disabled hd service left
  | false => exact h.take_of_enabled hd service left

/-- Both merges take the same handlers, so both have the same handlers left. -/
theorem foldl_take (h : FilteredBy disabled p bare) (service : String)
    (definitions : List ToolDefinition) (left : NameMap η) :
    FilteredBy disabled (definitions.foldl (Plan.take disabled service) (p, left)).1
        (definitions.foldl (Plan.take .empty service) (bare, left)).1 ∧
      (definitions.foldl (Plan.take disabled service) (p, left)).2 =
        (definitions.foldl (Plan.take .empty service) (bare, left)).2 := by
  induction definitions generalizing p bare left with
  | nil => exact ⟨h, rfl⟩
  | cons d rest ih =>
    rw [List.foldl_cons, List.foldl_cons, ← Prod.eta (Plan.take disabled service (p, left) d),
      ← Prod.eta (Plan.take .empty service (bare, left) d), take_snd, take_snd]
    exact ih (h.take service left d) (left.erase d.name)

theorem turn (h : FilteredBy disabled p bare) (service : String × Offer η) :
    FilteredBy disabled (Plan.turn disabled p service) (Plan.turn .empty bare service) := by
  obtain ⟨htaken, hleft⟩ := h.foldl_take service.1 service.2.definitions service.2.handlers
  simp only [Plan.turn, foldl_reportUnadvertised, hleft]
  refine ⟨htaken.entries, ?_, htaken.owners, htaken.seen, ?_⟩
  · have hkept : ∀ tools : List String,
        (tools.map (Defect.unadvertised · service.1)).filter (·.remains disabled) =
          tools.map (Defect.unadvertised · service.1) := fun tools =>
      List.filter_eq_self.mpr fun defect hdefect => by
        obtain ⟨tool, -, rfl⟩ := List.mem_map.mp hdefect
        rfl
    rw [List.filter_append, hkept, htaken.defects]
  · rw [htaken.unadvertised]

end FilteredBy

end Plan

theorem filteredBy_registration {η : Type} (disabled : DisabledTools) (offers : NameMap (Offer η)) :
    (registration disabled offers).FilteredBy disabled (registration .empty offers) := by
  have hfold : ∀ (services : List (String × Offer η)) {p bare : Plan η},
      p.FilteredBy disabled bare →
      (services.foldl (Plan.turn disabled) p).FilteredBy disabled
        (services.foldl (Plan.turn .empty) bare) := by
    intro services
    induction services with
    | nil => exact fun h => h
    | cons service rest ih => exact fun h => ih (h.turn service)
  exact hfold offers.entries (.empty disabled)

/-! ## Disabling at a manager -/

namespace Manager

variable {σ : Type}

theorem contains_disableTool (m : Manager σ) (tool other : String) :
    (m.disableTool tool).2.disabled.contains other =
      (decide (tool = other) || m.disabled.contains other) :=
  m.disabled.contains_disable tool other

theorem disableTool_of_contains {m : Manager σ} {tool : String}
    (h : m.disabled.contains tool = true) : (m.disableTool tool).2 = m := by
  have hset : (m.disabled.disable tool).2 = m.disabled := DisabledTools.disable_of_contains h
  simp only [disableTool, hset]

theorem contains_enableTool (m : Manager σ) (tool other : String) :
    (m.enableTool tool).2.disabled.contains other =
      (!decide (tool = other) && m.disabled.contains other) :=
  m.disabled.contains_enable tool other

/-- Enabling a tool that was not disabled before it was disabled gives back the manager. -/
theorem enableTool_disableTool {m : Manager σ} {tool : String}
    (h : m.disabled.contains tool = false) : ((m.disableTool tool).2.enableTool tool).2 = m := by
  have hset : ((m.disabled.disable tool).2.enable tool).2 = m.disabled :=
    DisabledTools.enable_disable h
  simp only [disableTool, enableTool, hset]

variable [Provider σ]

theorem filteredBy_plan (m : Manager σ) :
    m.plan.FilteredBy m.disabled (m.replaceDisabled []).plan :=
  filteredBy_registration m.disabled (m.registry.enabled.map Offer.of)

/-- One more disabled tool takes defects away and adds none. -/
theorem defects_disableTool (m : Manager σ) (tool : String) :
    (m.disableTool tool).2.defects.Sublist m.defects := by
  have hmore := (filteredBy_plan (m.disableTool tool).2).defects
  have hless := (filteredBy_plan m).defects
  rw [defects, defects, hmore, hless]
  refine List.monotone_filter_right _ fun defect hremains => ?_
  cases defect with
  | orphaned _ _ =>
    simp only [Defect.remains, contains_disableTool] at hremains ⊢
    simp_all
  | unadvertised _ _ => rfl
  | duplicate _ _ _ =>
    simp only [Defect.remains, contains_disableTool] at hremains ⊢
    simp_all

/-- One more disabled tool leaves every other tool with the service that provides it. -/
theorem owners_disableTool (m : Manager σ) {tool other : String} (h : other ≠ tool) :
    (m.disableTool tool).2.plan.owners.find? other = m.plan.owners.find? other := by
  rw [(filteredBy_plan (m.disableTool tool).2).owners, (filteredBy_plan m).owners,
    contains_disableTool, decide_eq_false (Ne.symm h)]
  rfl

/-- With disabled tools there are the entries, owners and defects that there are without, less those
of disabled tools, and the same definitions and left-over handlers are counted. So disabling a tool
adds no defect and moves no other tool to another service; and enabling it again gives back the
table and the defects, if it was not disabled before. If it was, disabling it changes nothing, and
enabling it takes it, and no other tool, out of the set; registered again it is in the table
exactly if an enabled service both offers it and has a handler for it. -/
theorem disabling_filters (m : Manager σ) :
    m.plan.entries = (m.replaceDisabled []).plan.entries.filter
      (fun e => !m.disabled.contains e.1.name) ∧
    (∀ tool, m.plan.owners.find? tool =
      if m.disabled.contains tool then none
      else (m.replaceDisabled []).plan.owners.find? tool) ∧
    m.defects = (m.replaceDisabled []).defects.filter (·.remains m.disabled) ∧
    m.plan.summary.seen = (m.replaceDisabled []).plan.summary.seen ∧
    m.plan.summary.unadvertised = (m.replaceDisabled []).plan.summary.unadvertised ∧
    (∀ tool, (m.disableTool tool).2.defects.Sublist m.defects) ∧
    (∀ tool other, other ≠ tool →
      (m.disableTool tool).2.plan.owners.find? other = m.plan.owners.find? other) ∧
    (∀ tool (t : Table Handler), m.disabled.contains tool = false →
      let without := (m.disableTool tool).2
      let again := (without.enableTool tool).2
      (again.registerTools (without.registerTools t).2).2.tools = (m.registerTools t).2.tools ∧
        again.defects = m.defects) ∧
    ∀ tool (t : Table Handler), m.disabled.contains tool = true →
      let without := (m.disableTool tool).2
      let again := (without.enableTool tool).2
      without = m ∧
        (∀ other, again.disabled.contains other =
          (!decide (tool = other) && m.disabled.contains other)) ∧
        ((again.registerTools (without.registerTools t).2).2.contains tool = true ↔
          ∃ service s, m.registry.enabled.find? service = some s ∧
            (∃ d ∈ Provider.definitions s, d.name = tool) ∧
            (Provider.handlers s).contains tool = true) := by
  have h := filteredBy_plan m
  refine ⟨h.entries, h.owners, h.defects, h.seen, h.unadvertised, m.defects_disableTool,
    fun _ _ => m.owners_disableTool, fun tool t hfree => ?_, fun tool t hdisabled => ?_⟩
  · intro without again
    have hagain : again = m := enableTool_disableTool hfree
    rw [hagain]
    exact ⟨rfl, rfl⟩
  · intro without again
    have hwithout : without = m := disableTool_of_contains hdisabled
    have hagain : again = (m.enableTool tool).2 := by simp only [again, hwithout]
    have hset (other : String) : again.disabled.contains other =
        (!decide (tool = other) && m.disabled.contains other) := by
      rw [hagain, contains_enableTool]
    have hfree : again.disabled.contains tool = false := by simp [hset]
    have henabled : again.registry = m.registry := by rw [hagain]; rfl
    refine ⟨hwithout, hset, ?_⟩
    rw [contains_registerTools_iff, henabled, and_iff_right hfree]

/-- A tool that was disabled all along is in the table once it is disabled and enabled, so this does
not always give back the table. -/
theorem not_restored_if_disabled_before :
    ¬ ∀ (m : Manager Service) (tool : String) (t : Table Handler),
      let without := (m.disableTool tool).2
      let again := (without.enableTool tool).2
      (again.registerTools (without.registerTools t).2).2.tools = (m.registerTools t).2.tools ∧
        again.defects = m.defects := by
  intro h
  let service : Service := .scripted { name := "a", tools := ["x"] } false
  let m := ((ofCatalog ⟨⟨"a", service⟩, []⟩).start { disabledTools := ["x"] }).2
  have hbefore : (m.registerTools .empty).2.contains "x" = false := by decide
  have hafter : ((((m.disableTool "x").2.enableTool "x").2.registerTools
      ((m.disableTool "x").2.registerTools .empty).2).2).contains "x" = true := by decide
  rw [Table.contains, (h m "x" .empty).1, ← Table.contains, hbefore] at hafter
  cases hafter

end Manager

end Switchboard
