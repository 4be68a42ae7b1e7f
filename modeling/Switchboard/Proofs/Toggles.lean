import Mathlib.Logic.Function.Basic
import Switchboard.Proofs.Disabling
import Switchboard.Proofs.Dispatch
import Switchboard.Proofs.Serving

/-!
# Toggles in a session

The set of disabled tools belongs to the manager of a session, the tools that can be called to its
table. A request to disable or enable a tool changes the one and fills the other afresh
(`respond_toggle`), and every other request leaves both alone (`respond_of_toggle?_eq_none`). So the
two agree after any requests (`agrees_after`), whatever the calls in between did.
-/

namespace Switchboard

/-! ## Toggles -/

/-- A change of whether a tool is offered. -/
structure Toggle where
  tool : String
  /-- Whether the tool is disabled from now on. -/
  off : Bool
  deriving Repr, DecidableEq

/-- What is disabled after a toggle. -/
def Toggle.apply (disabled : String → Bool) (t : Toggle) : String → Bool :=
  Function.update disabled t.tool t.off

/-- The toggle that a request asks for, if it says which tool. -/
def Request.toggle? (r : Request) : Option Toggle := do
  let tool ← (r.arguments.get? "name").bind Json.asString?
  if r.tool = "tools/disable" then some ⟨tool, true⟩
  else if r.tool = "tools/enable" then some ⟨tool, false⟩
  else none

namespace Manager

variable {σ : Type}

/-- Disables or enables a tool; says whether that is a change. -/
def carryOut (m : Manager σ) (t : Toggle) : Bool × Manager σ :=
  if t.off then m.disableTool t.tool else m.enableTool t.tool

theorem carryOut_snd (m : Manager σ) (t : Toggle) :
    (m.carryOut t).2 = { m with disabled := (m.carryOut t).2.disabled } := by
  rw [carryOut]
  split <;> rfl

theorem contains_carryOut (m : Manager σ) (t : Toggle) :
    (m.carryOut t).2.disabled.contains = t.apply m.disabled.contains := by
  obtain ⟨tool, off⟩ := t
  funext other
  rw [Toggle.apply, Function.update_apply]
  cases off with
  | true =>
    have hdisable := DisabledTools.contains_disable m.disabled tool other
    by_cases h : other = tool
    · simpa [carryOut, disableTool, h] using hdisable
    · simpa [carryOut, disableTool, h, Ne.symm h] using hdisable
  | false =>
    have henable := DisabledTools.contains_enable m.disabled tool other
    by_cases h : other = tool
    · simpa [carryOut, enableTool, h] using henable
    · simpa [carryOut, enableTool, h, Ne.symm h] using henable

/-- What is answered is whether the tool changes sides. -/
theorem carryOut_fst (m : Manager σ) (t : Toggle) :
    (m.carryOut t).1 =
      decide (m.disabled.contains t.tool ≠ (m.carryOut t).2.disabled.contains t.tool) := by
  rw [contains_carryOut, Toggle.apply, Function.update_self]
  obtain ⟨tool, off⟩ := t
  cases off <;> cases h : m.disabled.contains tool <;>
    simp [carryOut, disableTool, enableTool, DisabledTools.disable, DisabledTools.enable, h]

end Manager

namespace Session

/-! ## One request -/

theorem Reserved.named?_eq_disable {name : String} :
    Reserved.named? name = some .disable ↔ name = "tools/disable" := by
  refine ⟨fun h => ?_, fun h => h ▸ rfl⟩
  rw [Reserved.named?.eq_def] at h
  split at h <;> simp_all

theorem Reserved.named?_eq_enable {name : String} :
    Reserved.named? name = some .enable ↔ name = "tools/enable" := by
  refine ⟨fun h => ?_, fun h => h ▸ rfl⟩
  rw [Reserved.named?.eq_def] at h
  split at h <;> simp_all

variable {σ ω : Type} [Provider σ]

/-- A toggle is carried out and the tools are entered afresh. -/
theorem respond_toggle {r : Request} {t : Toggle} (h : r.toggle? = some t)
    (w : World (StateM ω)) (state : Session σ × ω) :
    respond w state r =
      let m := (state.1.manager.carryOut t).2
      (⟨r.id, .ok (.object [("changed", .bool (state.1.manager.carryOut t).1),
          ("registered", Json.ofNat (m.registerTools state.1.table).1.registered)])⟩,
        { state.1 with manager := m, table := (m.registerTools state.1.table).2 }, state.2) := by
  obtain ⟨tool, htool, hoff⟩ := Option.bind_eq_some_iff.mp h
  by_cases hdisable : r.tool = "tools/disable"
  · rw [if_pos hdisable] at hoff
    obtain rfl := Option.some.inj hoff
    simp only [respond, handle, Reserved.named?_eq_disable.mpr hdisable, handleReserved, toggle,
      htool]
    rfl
  · rw [if_neg hdisable] at hoff
    split at hoff
    · next henable =>
      obtain rfl := Option.some.inj hoff
      simp only [respond, handle, Reserved.named?_eq_enable.mpr henable, handleReserved, toggle,
        htool]
      rfl
    · cases hoff

/-- Any other request leaves the manager and the tools. -/
theorem respond_of_toggle?_eq_none {r : Request} (h : r.toggle? = none) (w : World (StateM ω))
    (state : Session σ × ω) :
    (respond w state r).2.1.manager = state.1.manager ∧
      (respond w state r).2.1.table.tools = state.1.table.tools := by
  cases hnamed : Reserved.named? r.tool with
  | none =>
    simp only [respond, handle, hnamed, StateT.run_bind, Id.run_bind]
    exact ⟨rfl, Table.tools_run_call w r.arguments state.2 state.1.table r.tool⟩
  | some reserved =>
    -- a request to disable or enable a tool that is no toggle does not say which tool
    have hunsaid : r.tool = "tools/disable" ∨ r.tool = "tools/enable" →
        (r.arguments.get? "name").bind Json.asString? = none := by
      rintro htool
      cases hname : (r.arguments.get? "name").bind Json.asString? with
      | none => rfl
      | some tool => rcases htool with htool | htool <;> simp [Request.toggle?, hname, htool] at h
    simp only [respond, handle, hnamed]
    cases reserved with
    | list => exact ⟨rfl, rfl⟩
    | listDisabled => exact ⟨rfl, rfl⟩
    | stats => exact ⟨rfl, rfl⟩
    | services => exact ⟨rfl, rfl⟩
    | disable =>
      rw [handleReserved, toggle, hunsaid (.inl (Reserved.named?_eq_disable.mp hnamed))]
      exact ⟨rfl, rfl⟩
    | enable =>
      rw [handleReserved, toggle, hunsaid (.inr (Reserved.named?_eq_enable.mp hnamed))]
      exact ⟨rfl, rfl⟩

/-! ## Any requests -/

/-- A session whose manager is another one up to the disabled tools, and whose table holds the tools
that this manager enters. -/
structure Agrees (m : Manager σ) (disabled : String → Bool) (s : Session σ) : Prop where
  manager : s.manager = { m with disabled := s.manager.disabled }
  disabled : s.manager.disabled.contains = disabled
  tools : s.table.tools = (s.manager.registerTools s.table).2.tools

theorem Agrees.respond {m : Manager σ} {disabled : String → Bool} {state : Session σ × ω}
    (h : Agrees m disabled state.1) (w : World (StateM ω)) (r : Request) :
    Agrees m (r.toggle?.toList.foldl Toggle.apply disabled) (respond w state r).2.1 := by
  cases htoggle : r.toggle? with
  | none =>
    obtain ⟨hmanager, htools⟩ := respond_of_toggle?_eq_none htoggle w state
    refine ⟨?_, ?_, ?_⟩
    · rw [hmanager]
      exact h.manager
    · rw [hmanager]
      exact h.disabled
    · rw [htools, h.tools, hmanager]
      rfl
  | some t =>
    rw [respond_toggle htoggle]
    refine ⟨?_, ?_, rfl⟩
    · refine (Manager.carryOut_snd state.1.manager t).trans ?_
      rw [h.manager]
    · simp only [Manager.contains_carryOut, h.disabled]
      rfl

theorem agrees_after {m : Manager σ} {disabled : String → Bool} {state : Session σ × ω}
    (h : Agrees m disabled state.1) (w : World (StateM ω)) (requests : List Request) :
    Agrees m ((requests.filterMap Request.toggle?).foldl Toggle.apply disabled)
      (after w state requests).1 := by
  -- the disabled tools that the rest starts from are those after the first request
  induction requests generalizing disabled state with
  | nil => exact h
  | cons r rest ih =>
    have hrest := ih (h.respond w r)
    rw [← List.foldl_append] at hrest
    rw [after_cons, List.filterMap_cons]
    cases htoggle : r.toggle? with
    | none => simpa [htoggle] using hrest
    | some t => simpa [htoggle] using hrest

/-- After any requests the disabled tools are those of the start with the toggles so far applied in
order, the manager is otherwise the one of the start, and the table holds exactly what the manager
would enter now. And of the next request: a toggle answers whether its tool changed sides and how
many tools the table then has; an error, and every request under another name, leaves both the
disabled tools and the table's tools as they are. -/
theorem toggles_applied (w : World (StateM ω)) (m : Manager σ) (t : Table Handler)
    (pageSize : Nat) (outside : ω) (requests : List Request) :
    let state := after w (⟨m, (m.registerTools t).2, pageSize⟩, outside) requests
    state.1.manager = { m with disabled := state.1.manager.disabled } ∧
      state.1.manager.disabled.contains =
        (requests.filterMap Request.toggle?).foldl Toggle.apply m.disabled.contains ∧
      state.1.table.tools.entries.Perm
        (state.1.manager.plan.entries.map fun e => (e.1.name, ⟨e.1, e.2⟩)) ∧
      ∀ r : Request,
        let answer := (respond w state r).1
        let next := (respond w state r).2.1
        (∀ toggle, r.toggle? = some toggle → answer.result = .ok (.object [
          ("changed", .bool (decide (state.1.manager.disabled.contains toggle.tool ≠
            next.manager.disabled.contains toggle.tool))),
          ("registered", Json.ofNat next.table.size)])) ∧
        ((∃ message, answer.result = .error message) ∨
            r.tool ≠ "tools/disable" ∧ r.tool ≠ "tools/enable" →
          next.manager.disabled = state.1.manager.disabled ∧
            next.table.tools = state.1.table.tools) := by
  intro state
  let start : Session σ × ω := (⟨m, (m.registerTools t).2, pageSize⟩, outside)
  have hstart : Agrees m m.disabled.contains start.1 := ⟨rfl, rfl, rfl⟩
  have hagrees : Agrees m _ state.1 := agrees_after hstart w requests
  refine ⟨hagrees.manager, hagrees.disabled, ?_, fun r => ⟨fun toggle htoggle => ?_, fun hr => ?_⟩⟩
  · rw [hagrees.tools]
    exact Manager.perm_tools_registerTools _ _
  · rw [respond_toggle htoggle]
    simp only [Manager.size_registerTools, Manager.carryOut_fst]
  · have hnone : r.toggle? = none := by
      cases htoggle : r.toggle? with
      | none => rfl
      | some toggle =>
        rcases hr with ⟨message, herror⟩ | ⟨hdisable, henable⟩
        · rw [respond_toggle htoggle] at herror
          cases herror
        · obtain ⟨tool, -, hoff⟩ := Option.bind_eq_some_iff.mp htoggle
          rw [if_neg hdisable, if_neg henable] at hoff
          cases hoff
    obtain ⟨hmanager, htools⟩ := respond_of_toggle?_eq_none hnone w state
    exact ⟨by rw [hmanager], htools⟩

/-- One tool, called, disabled and enabled again, and a call of a tool that there is not. -/
theorem toggles_applied_to_one_tool :
    let w : World (StateM Unit) := ⟨fun _ => pure (.refused ""), pure 0, fun _ => pure ()⟩
    let core : Service := .scripted { name := "core", tools := ["t"] } false
    let m := ((Manager.ofCatalog ⟨⟨"core", core⟩, []⟩).start {}).2
    let named : Json := .object [("name", .string "t")]
    let state := after w (⟨m, (m.registerTools .empty).2, 50⟩, ())
      [⟨.null, "t", .null⟩, ⟨.null, "tools/disable", named⟩]
    let enabling : Request := ⟨.null, "tools/enable", named⟩
    state.1.manager.disabled.contains = Toggle.apply m.disabled.contains ⟨"t", true⟩ ∧
      (respond w state enabling).1.result =
        .ok (.object [("changed", .bool true), ("registered", Json.ofNat 1)]) ∧
      (respond w state ⟨.null, "u", .null⟩).2.1.table.tools = state.1.table.tools := by
  intro w core m named state enabling
  have hstate : after w (⟨m, (m.registerTools .empty).2, 50⟩, ())
      [⟨.null, "t", .null⟩, ⟨.null, "tools/disable", named⟩] = state := rfl
  obtain ⟨-, hdisabled, -, hnext⟩ := toggles_applied w m .empty 50 ()
    [⟨.null, "t", .null⟩, ⟨.null, "tools/disable", named⟩]
  rw [hstate] at hdisabled hnext
  have htoggle : enabling.toggle? = some ⟨"t", false⟩ := by rfl
  have hbefore : state.1.manager.disabled.contains "t" = true := by decide +kernel
  have hafter : (respond w state enabling).2.1.manager.disabled.contains "t" = false := by
    decide +kernel
  have hsize : (respond w state enabling).2.1.table.size = 1 := by decide +kernel
  -- from here on the state counts by what was computed about it only
  clear_value state
  have hanswer := (hnext enabling).1 _ htoggle
  simp only [hbefore, hafter, hsize] at hanswer
  exact ⟨hdisabled, hanswer, ((hnext ⟨.null, "u", .null⟩).2 (.inr ⟨by decide, by decide⟩)).2⟩

end Session

end Switchboard
