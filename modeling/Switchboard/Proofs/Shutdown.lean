import Switchboard.Proofs.Start
import Switchboard.Service.Basic

/-!
# Every service is closed once

A service that was built and kept is closed by the first shutdown after the start, and by no later
one. This rests on what a start makes of an entry (`Slot.MadeOf`) and on the closed forms of a run
before and after it.

A manager that is shut down before it is started takes itself for shut down ever after, so its
services are never closed (`unclosed_of_early_shutdown`). Where this does not happen, every run that
ends with a shutdown has closed every service that can be closed exactly once
(`closed_once_unless_early_shutdown`).
-/

namespace Switchboard

variable {σ : Type} [Lifecycle σ]

namespace Slot

/-- What a start makes of an entry: a slot of its name with no service closed, which holds the
service of the entry if that was built and goes by the right name. -/
structure MadeOf (e : CatalogEntry σ) (s : Slot σ) : Prop where
  name : s.name = e.name
  closed : s.calls.closed = 0
  kept : s.service.isSome = true ↔
    s.calls.constructed ≠ 0 ∧ Provider.name e.service = e.name
  closeable : ∀ service, s.service = some service →
    Lifecycle.isCloseable service = Lifecycle.isCloseable e.service

theorem madeOf_built (out : String → Bool) (e : CatalogEntry σ) : MadeOf e (built out e) where
  name := name_built out e
  closed := by rw [calls_built]
  kept := by
    rw [service_built, calls_built]
    cases hout : out e.name <;> by_cases hname : Provider.name e.service = e.name <;> simp [hname]
  closeable service h := by
    rw [service_built] at h
    split at h
    · rw [Option.some.inj h]
    · cases h

theorem MadeOf.start {e : CatalogEntry σ} {s : Slot σ} (h : MadeOf e s) (config : Config) :
    MadeOf e (s.start config).1 := by
  cases hs : s.service with
  | none => rwa [start_of_service_eq_none hs]
  | some service =>
    have hstart : (s.start config).1 =
        { s with
          service := some (Lifecycle.start service config).2
          calls := { s.calls with started := s.calls.started + 1 } } := by
      simp [Slot.start, hs]
    rw [hstart]
    refine ⟨h.name, h.closed, ?_, ?_⟩
    · have hkept := h.kept
      rwa [hs] at hkept
    · intro service' h'
      obtain rfl := Option.some.inj h'
      rw [Lifecycle.isCloseable_start]
      exact h.closeable service hs

/-- Closing what a start made of an entry closes the service if it was built, goes by the right name
and can be closed. -/
theorem MadeOf.closed_close {e : CatalogEntry σ} {s : Slot σ} (h : MadeOf e s) :
    s.close.1.calls.closed =
      if s.close.1.calls.constructed ≠ 0 ∧ Provider.name e.service = e.name ∧
          Lifecycle.isCloseable e.service = true then 1 else 0 := by
  have hkept := h.kept
  cases hs : s.service with
  | none =>
    have hclose : s.close = (s, none) := by simp [close, hs]
    have hnot : ¬ (s.calls.constructed ≠ 0 ∧ Provider.name e.service = e.name) := by
      rw [← hkept, hs]; simp
    rw [hclose, if_neg fun hall => hnot ⟨hall.1, hall.2.1⟩]
    exact h.closed
  | some service =>
    obtain ⟨hconstructed, hname⟩ := hkept.mp (by rw [hs]; rfl)
    have hcloseable := h.closeable service hs
    cases hc : Lifecycle.isCloseable e.service with
    | false =>
      have hclose : s.close = (s, none) := by simp [close, hs, hcloseable, hc]
      rw [hclose, if_neg (by simp)]
      exact h.closed
    | true =>
      have hclose : s.close.1.calls = { s.calls with closed := s.calls.closed + 1 } := by
        simp [close, hs, hcloseable, hc]
      rw [hclose, if_pos ⟨hconstructed, hname, rfl⟩, h.closed]

end Slot

/-! ## Runs that end with a shutdown -/

/-- Whether a run shuts the manager down before it starts it. -/
def shutsDownEarly (ops : List Operation) : Bool :=
  (beforeStart ops).contains .shutdown

namespace Manager

variable (c : Catalog σ)

/-- A start makes something of every entry, and leaves the mark of a shutdown as it is. -/
theorem madeOf_start_awaiting (out : String → Bool) (d : DisabledTools) (shutDown : Bool)
    (config : Config) :
    ((awaiting c out d shutDown).start config).2.phase ≠ .unstarted ∧
      ((awaiting c out d shutDown).start config).2.shutDown = shutDown ∧
      List.Forall₂ Slot.MadeOf c.entries ((awaiting c out d shutDown).start config).2.slots := by
  have hcritical : Slot.MadeOf c.critical
      ((Slot.built (config.leavesOut out) c.critical).start config).1 :=
    (Slot.madeOf_built _ _).start config
  by_cases h : c.CriticalStarts (config.leavesOut out) config
  · obtain ⟨ledger, hstart⟩ := start_awaiting_ok c out d shutDown config h
    rw [hstart]
    refine ⟨by simp, rfl, .cons hcritical ?_⟩
    exact forall₂_map_of_forall fun e _ => (Slot.madeOf_built _ e).start config
  · obtain ⟨message, ledger, hstart, -⟩ := start_awaiting_error c out d shutDown config h
    rw [hstart]
    refine ⟨by simp, rfl, .cons hcritical ?_⟩
    exact forall₂_map_of_forall fun e _ => Slot.madeOf_built _ e

/-- From the start on, a run that ends with a shutdown closes what is there to close, unless the
manager takes itself for shut down. -/
theorem closed_run_of_started {m : Manager σ} (hphase : m.phase ≠ .unstarted)
    (hslots : List.Forall₂ Slot.MadeOf c.entries m.slots) (ops : List Operation) :
    List.Forall₂
      (fun e s => s.name = e.name ∧
        s.calls.closed =
          if s.calls.constructed ≠ 0 ∧ Provider.name e.service = e.name ∧
            Lifecycle.isCloseable e.service = true ∧ m.shutDown = false then 1 else 0)
      c.entries (m.run (ops ++ [.shutdown])).slots := by
  obtain ⟨d, hrun⟩ := run_of_started hphase (ops ++ [.shutdown])
  rw [if_pos (by simp)] at hrun
  have hrun_slots : (m.run (ops ++ [.shutdown])).slots = m.shutdown.2.slots := by rw [hrun]; rfl
  rw [hrun_slots]
  cases hshut : m.shutDown with
  | true =>
    rw [shutdown_eq, if_pos hshut]
    exact hslots.imp fun e s h => ⟨h.name, by rw [if_neg (by simp), h.closed]⟩
  | false =>
    rw [slots_shutdown hshut]
    exact List.forall₂_map_right_iff.mpr
      (hslots.imp fun e s h => ⟨s.name_close.trans h.name, by simpa using h.closed_close⟩)

/-- After a run that ends with a shutdown, every service that was built, goes by the name of its
entry and can be closed has been closed exactly once, unless the manager was shut down before it was
started. No other service has been closed at all. -/
theorem closed_once_unless_early_shutdown (ops : List Operation) :
    List.Forall₂
      (fun e s => s.name = e.name ∧
        s.calls.closed =
          if s.calls.constructed ≠ 0 ∧ Provider.name e.service = e.name ∧
            Lifecycle.isCloseable e.service = true ∧ shutsDownEarly ops = false then 1 else 0)
      c.entries ((ofCatalog c).run (ops ++ [.shutdown])).slots := by
  rcases eq_beforeStart_or ops with hnone | ⟨config, after, hsome⟩
  · have hops : ∀ op ∈ ops ++ [.shutdown], op.isStart = false := fun op hop => by
      rcases List.mem_append.mp hop with hop | hop
      · exact isStart_of_mem_beforeStart (hnone ▸ hop)
      · rw [List.mem_singleton.mp hop]; rfl
    obtain ⟨d, hrun⟩ := run_awaiting c (fun _ => false) .empty false hops
    rw [ofCatalog_eq_awaiting, hrun]
    have hentry : ∀ (out : String → Bool) (e : CatalogEntry σ),
        (Slot.awaiting out e).name = e.name ∧ (Slot.awaiting out e).calls.closed =
          if (Slot.awaiting out e).calls.constructed ≠ 0 ∧ Provider.name e.service = e.name ∧
            Lifecycle.isCloseable e.service = true ∧ shutsDownEarly ops = false then 1 else 0 :=
      fun out e => ⟨rfl, by rw [if_neg fun h => h.1 rfl]; rfl⟩
    refine .cons (hentry _ _) ?_
    exact List.forall₂_map_right_iff.mpr (List.forall₂_same.mpr fun e _ => hentry _ e)
  · obtain ⟨out, d, hbefore⟩ : ∃ out d, (ofCatalog c).run (beforeStart ops) =
        awaiting c out d (shutsDownEarly ops) := by
      obtain ⟨d, hrun⟩ := run_awaiting c (fun _ => false) .empty false
        fun _ => isStart_of_mem_beforeStart
      exact ⟨_, d, by rw [ofCatalog_eq_awaiting, hrun, Bool.false_or, shutsDownEarly,
        List.contains_eq_mem]⟩
    have hrun : (ofCatalog c).run (ops ++ [.shutdown]) =
        ((awaiting c out d (shutsDownEarly ops)).start config).2.run (after ++ [.shutdown]) := by
      conv_lhs => rw [hsome, List.append_assoc, run_append, hbefore]
      rfl
    obtain ⟨hphase, hshutDown, hslots⟩ := madeOf_start_awaiting c out d (shutsDownEarly ops) config
    have hclosed := closed_run_of_started c hphase hslots after
    rw [hshutDown] at hclosed
    rw [hrun]
    exact hclosed

/-- A service that can be closed is left open when the manager is shut down, started and shut down
again. -/
theorem unclosed_of_early_shutdown :
    ¬ ∀ (c : Catalog Service) (ops : List Operation),
      List.Forall₂
        (fun e s => s.calls.constructed ≠ 0 → Provider.name e.service = e.name →
          Lifecycle.isCloseable e.service = true → s.calls.closed = 1)
        c.entries ((ofCatalog c).run (ops ++ [.shutdown])).slots := by
  intro h
  let service : Service := .scripted { name := "core", closeable := true } false
  have hcore := h ⟨⟨"core", service⟩, []⟩ [.shutdown, .start {}]
  have hclosed := (List.forall₂_cons.mp hcore).1 (by decide) (by decide) (by decide)
  exact absurd hclosed (by decide)

end Manager

end Switchboard
