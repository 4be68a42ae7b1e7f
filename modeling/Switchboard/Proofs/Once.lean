import Switchboard.Proofs.Course
import Switchboard.Service.Basic

/-!
# What is done once

A manager is started once. Its phase and the choice of its services change with the first start and
are fixed from then on (`started_once`), because from a manager that is started a course goes on as
`run` does (`Course.eq_run_of_started`).

Of every entry the service is built and started at most once, and only if nothing stands against it
(`used_once`). `CatalogEntry.Allows` says what may have been done with one entry; what a start makes
of it, at each of its points, is allowed, and nothing but a start adds to it.
-/

namespace Switchboard

variable {σ : Type} [Lifecycle σ]

/-! ## From the start on -/

namespace Manager

theorem activeNames_shutdown (m : Manager σ) : m.shutdown.2.activeNames = m.activeNames := by
  cases h : m.shutDown with
  | true => rw [shutdown_eq, if_pos h]
  | false =>
    rw [activeNames, slots_shutdown h, List.filter_map, List.map_map, activeNames]
    simp only [Function.comp_def, Slot.excluded_close, Slot.name_close]

theorem activeNames_run_of_started {m : Manager σ} (h : m.phase ≠ .unstarted)
    (ops : List Operation) : (m.run ops).activeNames = m.activeNames := by
  obtain ⟨_, hrun⟩ := run_of_started h ops
  rw [hrun]
  split
  · exact activeNames_shutdown m
  · rfl

end Manager

/-- Once a manager is started, operations do what they do as a whole. -/
theorem Course.eq_run_of_started {m : Manager σ} (hphase : m.phase ≠ .unstarted)
    {later : List Operation} {q : Point σ} (h : Course (.resting m) later q) :
    q = .resting (m.run later) := by
  induction h with
  | none => rfl
  | perform _ _ ih =>
    obtain rfl := Point.resting.inj ih
    rw [Manager.run_append]
    rfl
  | start _ hunstarted ih =>
    obtain rfl := Point.resting.inj ih
    rw [Manager.phase_run_of_started hphase] at hunstarted
    exact absurd hunstarted hphase
  | step _ hstep ih =>
    subst ih
    cases hstep

/-- If the critical service does not break down, a manager at rest is what the run makes it, but for
the order in which the ledger was written. -/
theorem Course.eq_run {c : Catalog σ}
    (hcritical : ∀ config, (Lifecycle.start c.critical.service config).1.isOrderly = true)
    {ops : List Operation} {m : Manager σ}
    (h : Course (.resting (.ofCatalog c)) ops (.resting m)) :
    ∃ ledger, m = { (Manager.ofCatalog c).run ops with ledger := ledger } := by
  cases h.sound with
  | resting ledger phase hphase =>
    rcases hphase with rfl | ⟨-, -, config, hbroken⟩
    · exact ⟨ledger, rfl⟩
    · rw [hcritical config] at hbroken
      cases hbroken

/-- Whatever is done with a manager whose critical service does not break down, it comes to rest. At
rest it is not started if no start was among the operations, and otherwise it is ready or has
failed; from then on it refuses to be started, naming what it is, and to leave out services, does
not change at all by that, and whatever else is done keeps its phase and the names of its
services. -/
theorem started_once (c : Catalog σ)
    (hcritical : ∀ config, (Lifecycle.start c.critical.service config).1.isOrderly = true)
    (ops : List Operation) :
    (∃ m, Course (.resting (.ofCatalog c)) ops (.resting m)) ∧
    ∀ m, Course (.resting (.ofCatalog c)) ops (.resting m) →
      (∃ ledger, m = { (Manager.ofCatalog c).run ops with ledger := ledger }) ∧
      ((m.phase = .unstarted ∧ ∀ op ∈ ops, op.isStart = false) ∨
        ((m.phase = .ready ∨ m.phase = .failed) ∧
          ∃ before config, FirstStart before config ops)) ∧
      (m.phase ≠ .unstarted →
        (∀ config, m.start config = (.error (.alreadyInitialized m.phase.name), m)) ∧
        (∀ disabled enabled, m.filterServices disabled enabled = m) ∧
        ∀ later q, Course (.resting m) later q →
          ∃ m', q = .resting m' ∧ m'.phase = m.phase ∧ m'.activeNames = m.activeNames) := by
  refine ⟨exists_course c ops, fun m hcourse => ?_⟩
  obtain ⟨ledger, hm⟩ := hcourse.eq_run hcritical
  have hphase : m.phase = ((Manager.ofCatalog c).run ops).phase := by rw [hm]
  refine ⟨⟨ledger, hm⟩, ?_, fun hstarted => ⟨fun config => ?_, fun disabled enabled => ?_, ?_⟩⟩
  · rcases unstarted_or_firstStart ops with hops | ⟨before, config, hfirst⟩
    · obtain ⟨_, hrun⟩ := Manager.run_ofCatalog c hops
      exact .inl ⟨by rw [hphase, hrun]; rfl, hops⟩
    · exact .inr ⟨hphase ▸ hfirst.phase_run c, before, config, hfirst⟩
  · rw [Manager.start, if_neg hstarted]
  · rw [Manager.filterServices, if_neg hstarted]
  · intro later q hlater
    exact ⟨m.run later, hlater.eq_run_of_started hstarted,
      Manager.phase_run_of_started hstarted later, Manager.activeNames_run_of_started hstarted later⟩

/-- A second start with other tools disabled, and a filter after it. -/
theorem started_once_of_two_starts :
    let core : Service := .scripted { name := "core", tools := ["t"] } false
    let c : Catalog Service := ⟨⟨"core", core⟩, []⟩
    let ops : List Operation := [.start {}, .start { disabledTools := ["t"] }, .filter ["core"] []]
    (∃ m, Course (.resting (.ofCatalog c)) ops (.resting m)) ∧
    ∀ m, Course (.resting (.ofCatalog c)) ops (.resting m) →
      m.phase = .ready ∧ m.disabled.contains "t" = false ∧ m.activeNames = ["core"] ∧
        ∀ config, m.start config = (.error (.alreadyInitialized "ready"), m) := by
  intro core c ops
  obtain ⟨hexists, hrest⟩ := started_once c (fun _ => rfl) ops
  refine ⟨hexists, fun m hcourse => ?_⟩
  obtain ⟨⟨ledger, rfl⟩, -, hstarted⟩ := hrest m hcourse
  have hready : ((Manager.ofCatalog c).run ops).phase = .ready := by decide
  have hdisabled : ((Manager.ofCatalog c).run ops).disabled.contains "t" = false := by decide
  have hnames : ((Manager.ofCatalog c).run ops).activeNames = ["core"] := by decide
  obtain ⟨hrefused, -, -⟩ := hstarted (by rw [hready]; decide)
  refine ⟨hready, hdisabled, hnames, fun config => ?_⟩
  rw [hrefused config, hready]
  rfl

/-! ## How often services are built and started -/

/-- How often a service was built and started. -/
structure Uses where
  built : Nat
  started : Nat
  deriving Repr, DecidableEq

def Slot.uses (s : Slot σ) : Uses := ⟨s.calls.constructed, s.calls.started⟩

@[simp] theorem Slot.uses_close (s : Slot σ) : s.close.1.uses = s.uses := by
  unfold close
  split
  · rfl
  · split <;> rfl

/-- A start that is under way counts. -/
def Task.uses (t : Task σ) : Uses :=
  { t.slot.uses with started := t.slot.uses.started + if t.stage = .running then 1 else 0 }

/-- How often the service of each entry was built and started, in catalog order. -/
def Point.uses : Point σ → List Uses
  | .resting m => m.slots.map (·.uses)
  | .building _ m => m.slots.map (·.uses)
  | .launching _ m L => m.critical.uses :: L.tasks.map (·.uses)

/-- What may have been done with an entry after some operations. -/
structure CatalogEntry.Allows (e : CatalogEntry σ) (ops : List Operation) (u : Uses) : Prop where
  built_le : u.built ≤ 1
  started_le : u.started ≤ u.built
  kept : u.built ≠ 0 →
    ∃ before config, FirstStart before config ops ∧ leftOut before config e.name = false
  name_eq : u.started ≠ 0 → Provider.name e.service = e.name

/-- What may have been done with all entries. The others wait for the critical service to start. -/
structure Catalog.Allows (c : Catalog σ) (ops : List Operation) (uses : List Uses) : Prop where
  each : List.Forall₂ (·.Allows ops) c.entries uses
  criticalFirst : ∀ u ∈ uses.tail, u.started ≠ 0 →
    uses.head?.map (·.started) = some 1 ∧
      ∃ before config, FirstStart before config ops ∧
        (Lifecycle.start c.critical.service config).1 = .started

/-! ## What is done with an entry -/

theorem CatalogEntry.allows_unused (e : CatalogEntry σ) (ops : List Operation) :
    e.Allows ops ⟨0, 0⟩ :=
  ⟨Nat.zero_le 1, Nat.le_refl 0, fun h => absurd rfl h, fun h => absurd rfl h⟩

namespace FirstStart

variable {before ops : List Operation} {config : Config} {e : CatalogEntry σ}

theorem allows_used (h : FirstStart before config ops) (hkept : leftOut before config e.name = false)
    (hname : Provider.name e.service = e.name) : e.Allows ops ⟨1, 1⟩ :=
  ⟨Nat.le_refl 1, Nat.le_refl 1, fun _ => ⟨before, config, h, hkept⟩, fun _ => hname⟩

theorem allows_built (h : FirstStart before config ops) :
    e.Allows ops (Slot.built (leftOut before config) e).uses := by
  rw [Slot.uses, Slot.calls_built]
  cases hout : leftOut before config e.name with
  | true => exact e.allows_unused ops
  | false =>
    exact ⟨Nat.le_refl 1, Nat.zero_le 1, fun _ => ⟨before, config, h, hout⟩,
      fun hstarted => absurd rfl hstarted⟩

theorem allows_start (h : FirstStart before config ops) (config' : Config) :
    e.Allows ops ((Slot.built (leftOut before config) e).start config').1.uses := by
  by_cases hkept : leftOut before config e.name = false ∧ Provider.name e.service = e.name
  · rw [Slot.start_built_of_kept hkept.1 hkept.2]
    exact h.allows_used hkept.1 hkept.2
  · rw [Slot.start_of_service_eq_none (by rw [Slot.service_built, if_neg hkept])]
    exact h.allows_built

theorem allows_task (h : FirstStart before config ops) {t : Task σ}
    (hcomes : Launch.Comes config (.built (leftOut before config) e) t) : e.Allows ops t.uses := by
  cases hcomes with
  | waiting => exact h.allows_built
  | running hsome =>
    have hkept : leftOut before config e.name = false ∧ Provider.name e.service = e.name := by
      by_contra hnot
      exact hsome (by rw [Slot.service_built, if_neg hnot])
    have huses : Task.uses ⟨.built (leftOut before config) e, .running⟩ = ⟨1, 1⟩ := by
      simp [Task.uses, Slot.uses, hkept.1]
    rw [huses]
    exact h.allows_used hkept.1 hkept.2
  | ended hstart =>
    have hallows := h.allows_start (e := e) config
    rw [hstart] at hallows
    exact hallows
  | settled hstart =>
    have hallows := h.allows_start (e := e) config
    rw [hstart] at hallows
    exact hallows

end FirstStart

/-! ## What is done with all entries -/

namespace Catalog

variable {c : Catalog σ} {before ops : List Operation} {config : Config}

/-- As long as no service but the critical one is started, there is nothing to wait for. -/
theorem allows_of_not_started {critical : Uses} {optional : List Uses}
    (hcritical : c.critical.Allows ops critical)
    (hoptional : List.Forall₂ (fun e u => e.Allows ops u ∧ u.started = 0) c.optional optional) :
    c.Allows ops (critical :: optional) where
  each := .cons hcritical (hoptional.imp fun _ _ h => h.1)
  criticalFirst u hu hstarted := by
    obtain ⟨_, _, -, hzero⟩ := exists_mem_of_forall₂ hoptional.flip hu
    exact absurd hzero hstarted

theorem CriticalStarts.allows (h : c.CriticalStarts (leftOut before config) config)
    (hfirst : FirstStart before config ops) {optional : List Uses}
    (hoptional : List.Forall₂ (·.Allows ops) c.optional optional) :
    c.Allows ops (((Slot.built (leftOut before config) c.critical).start config).1.uses :: optional) where
  each := .cons (hfirst.allows_start config) hoptional
  criticalFirst u _ _ := by
    rw [Slot.start_built_of_kept h.kept h.name_eq]
    exact ⟨rfl, before, config, hfirst, h.started⟩

end Catalog

namespace Manager

/-- Nothing but the start of a manager that is not started builds or starts a service. -/
theorem uses_perform {m : Manager σ} {op : Operation}
    (hop : op.isStart = false ∨ m.phase ≠ .unstarted) :
    (m.perform op).slots.map (·.uses) = m.slots.map (·.uses) := by
  have hmap : ∀ f : Slot σ → Slot σ, (∀ s, (f s).uses = s.uses) →
      (m.mapSlots f).slots.map (·.uses) = m.slots.map (·.uses) := by
    intro f hf
    simp [mapSlots, slots, hf, Function.comp_def]
  rcases perform_cases hop with ⟨p, heq⟩ | ⟨disabled, heq⟩ | heq
  · rw [heq]
    refine hmap _ fun s => ?_
    split <;> rfl
  · rw [heq]
    rfl
  · rw [heq, shutdown_eq]
    split
    · rfl
    · exact hmap _ Slot.uses_close

theorem uses_run_of_started {m : Manager σ} (h : m.phase ≠ .unstarted) (ops : List Operation) :
    (m.run ops).slots.map (·.uses) = m.slots.map (·.uses) := by
  induction ops generalizing m with
  | nil => rfl
  | cons op rest ih =>
    have hphase : (m.perform op).phase ≠ .unstarted := by rwa [phase_perform (.inr h)]
    rw [run_cons, ih hphase, uses_perform (.inr h)]

theorem allows_run (c : Catalog σ) (ops : List Operation) :
    c.Allows ops (((ofCatalog c).run ops).slots.map (·.uses)) := by
  rcases unstarted_or_firstStart ops with hops | ⟨before, config, hfirst⟩
  · obtain ⟨_, hrun⟩ := run_ofCatalog c hops
    rw [hrun]
    refine Catalog.allows_of_not_started (c.critical.allows_unused ops) ?_
    simp only [List.map_map, awaiting]
    exact forall₂_map_of_forall fun e _ => ⟨e.allows_unused ops, rfl⟩
  · obtain ⟨hbefore, after, hsplit⟩ := id hfirst
    rw [← hsplit, run_append]
    by_cases hcritical : c.CriticalStarts (leftOut before config) config
    · obtain ⟨_, hrun⟩ := run_start_of_criticalStarts c hbefore hcritical
      rw [uses_run_of_started (by rw [hrun]; simp), hrun, hsplit]
      refine hcritical.allows hfirst ?_
      simp only [List.map_map]
      exact forall₂_map_of_forall fun e _ => hfirst.allows_start config
    · obtain ⟨_, hrun⟩ := run_start_of_not_criticalStarts c hbefore hcritical
      rw [uses_run_of_started (by rw [hrun]; simp), hrun, hsplit]
      refine Catalog.allows_of_not_started (hfirst.allows_start config) ?_
      simp only [List.map_map, built]
      refine forall₂_map_of_forall fun e _ => ⟨hfirst.allows_built, ?_⟩
      rw [Function.comp, Slot.uses, Slot.calls_built]

end Manager

theorem Point.Sound.allows {c : Catalog σ} {ops : List Operation} {p : Point σ}
    (h : p.Sound c ops) : c.Allows ops p.uses := by
  cases h with
  | resting _ _ _ => exact Manager.allows_run c ops
  | @building before config critical optional _ hbefore hcritical hoptional =>
    have hfirst : FirstStart before config (before ++ [.start config]) := ⟨hbefore, List.prefix_rfl⟩
    have hslot : ∀ (e : CatalogEntry σ) (s : Slot σ), Slot.Building (leftOut before config) e s →
        e.Allows (before ++ [.start config]) s.uses ∧ s.uses.started = 0 := by
      intro e s hs
      cases hs with
      | awaiting => exact ⟨e.allows_unused _, rfl⟩
      | built => exact ⟨hfirst.allows_built, by rw [Slot.uses, Slot.calls_built]⟩
    refine Catalog.allows_of_not_started (hslot _ _ hcritical).1 ?_
    exact List.forall₂_map_right_iff.mpr (hoptional.imp hslot)
  | @launching before config L _ hbefore hcritical hcomes =>
    have hfirst : FirstStart before config (before ++ [.start config]) := ⟨hbefore, List.prefix_rfl⟩
    refine hcritical.allows hfirst ?_
    exact List.forall₂_map_right_iff.mpr
      ((List.forall₂_map_left_iff.mp hcomes).imp fun _ _ => hfirst.allows_task)

/-- At every point of every course, the service of an entry has been built at most once, which was
in the first start and only if neither a filter before it nor its configuration leaves the entry
out, and started at most once, after it was built and only if it goes by the name of its entry.
Other services have been started only once the critical one has started. Nothing is built or started
by any operation but the start of a manager that is not started. -/
theorem used_once {c : Catalog σ} {ops : List Operation} {p : Point σ}
    (h : Course (.resting (.ofCatalog c)) ops p) :
    c.Allows ops p.uses ∧
      ∀ m, p = .resting m → ∀ op : Operation, op.isStart = false ∨ m.phase ≠ .unstarted →
        (Point.resting (m.perform op)).uses = p.uses := by
  refine ⟨h.sound.allows, ?_⟩
  rintro m rfl op hop
  exact Manager.uses_perform hop

/-- An entry of a wrong name and one that is left out, beside one that is started. -/
theorem used_once_beside_misnamed_service :
    let core : Service := .scripted { name := "core" } false
    let side : Service := .scripted { name := "side" } false
    let c : Catalog Service :=
      ⟨⟨"core", core⟩, [⟨"side", side⟩, ⟨"other", side⟩, ⟨"spare", .scripted { name := "spare" } false⟩]⟩
    let ops : List Operation := [.filter ["spare"] [], .start {}, .start {}]
    ∃ m, Course (.resting (.ofCatalog c)) ops (.resting m) ∧
      (Point.resting m).uses = [⟨1, 1⟩, ⟨1, 1⟩, ⟨1, 0⟩, ⟨0, 0⟩] ∧
      c.Allows ops (Point.resting m).uses := by
  intro core side c ops
  obtain ⟨m, hcourse⟩ := exists_course c ops
  obtain ⟨ledger, hm⟩ := hcourse.eq_run fun _ => rfl
  have huses : ((Manager.ofCatalog c).run ops).slots.map (·.uses) =
      [⟨1, 1⟩, ⟨1, 1⟩, ⟨1, 0⟩, ⟨0, 0⟩] := by decide
  refine ⟨m, hcourse, ?_, (used_once hcourse).1⟩
  rw [hm]
  exact huses

end Switchboard
