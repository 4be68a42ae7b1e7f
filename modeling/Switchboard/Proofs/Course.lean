import Switchboard.Proofs.Interleaving

/-!
# A start step by step

`Manager.run` takes every operation as a whole. Here a start is taken apart: the configuration comes
into force, the services that are left are built one after the other, the critical one is started,
and then the others are, side by side and in any order (`Launch.Step`). If the start of the critical
service breaks down, nobody is left to finish the start of the manager, which stays where it is.

A manager is at a `Point`, a `Step` leads from one point of a start to the next, and a `Course` is
what happens while operations are given. `Point.Sound` says what is true at every point of a course.
At rest the manager is the one that `run` makes, up to two things: the ledger, because lines about
entries of one name can be written in different orders, and the phase, if the critical service
breaks down. Every course comes to rest (`exists_course`).
-/

namespace Switchboard

/-- Where a manager can be found. -/
inductive Point (σ : Type) where
  /-- Between two operations. -/
  | resting (m : Manager σ)
  /-- In a start, with some of the services built. -/
  | building (config : Config) (m : Manager σ)
  /-- In a start, with the critical service started and the others on their way. -/
  | launching (config : Config) (m : Manager σ) (L : Launch σ)

variable {σ : Type} [Lifecycle σ]

namespace Manager

/-- The manager with the configuration of a start in force. -/
def applyConfig (m : Manager σ) (config : Config) : Manager σ :=
  { m with disabled := .ofNames config.disabledTools, phase := .initializing }.applySelection
    config.disabledServices config.enabledServices

/-- Whether everything is built that is left. -/
def IsBuilt (m : Manager σ) : Prop := ∀ s ∈ m.slots, s.blueprint = none

/-- Whether the start of the critical service breaks down. -/
def CriticalBreaksDown (m : Manager σ) (config : Config) : Prop :=
  m.critical.excluded = false ∧
    ∃ outcome, (m.critical.start config).2 = some outcome ∧ outcome.isOrderly = false

end Manager

/-- What is done next in a start. -/
inductive Step : Point σ → Point σ → Prop
  | buildCritical {config : Config} {m : Manager σ} (hleft : m.critical.blueprint ≠ none) :
    Step (.building config m) (.building config { m with
      critical := m.critical.construct.1
      ledger := m.ledger.recordAll
        (Manager.misnamedRecords m.critical.name m.critical.construct.2) })
  | buildOptional {config : Config} {m : Manager σ} {before after : List (Slot σ)} {s : Slot σ}
      (hcritical : m.critical.blueprint = none) (hslots : m.optional = before ++ s :: after)
      (hbefore : ∀ t ∈ before, t.blueprint = none) (hleft : s.blueprint ≠ none) :
    Step (.building config m) (.building config { m with
      optional := before ++ s.construct.1 :: after
      ledger := m.ledger.recordAll (Manager.misnamedRecords s.name s.construct.2) })
  /-- The critical service cannot be used. -/
  | refuse {config : Config} {m m' : Manager σ} {message : String} (hbuilt : m.IsBuilt)
      (horderly : ¬ m.CriticalBreaksDown config)
      (hcritical : m.startCritical config = (some message, m')) :
    Step (.building config m) (.resting { m' with phase := .failed })
  /-- The start of the critical service breaks down, and takes that of the manager with it. -/
  | breakDown {config : Config} {m : Manager σ} (hbuilt : m.IsBuilt)
      (hbroken : m.CriticalBreaksDown config) :
    Step (.building config m) (.resting { m with
      critical := (m.critical.start config).1
      ledger := m.ledger.recordAttempt m.critical.name })
  | launch {config : Config} {m m' : Manager σ} (hbuilt : m.IsBuilt)
      (hcritical : m.startCritical config = (none, m')) :
    Step (.building config m) (.launching config m' (.ofSlots m'.optional m'.ledger))
  | turn {config : Config} {m : Manager σ} {L M : Launch σ} (hturn : Launch.Step config L M) :
    Step (.launching config m L) (.launching config m M)
  | settle {config : Config} {m : Manager σ} {L : Launch σ} (hsettled : L.isSettled = true) :
    Step (.launching config m L) (.resting { m with
      optional := L.slots
      ledger := L.ledger
      phase := .ready })

/-- What happens from one point to another while operations are given. The last of them may be a
start that is not over. -/
inductive Course : Point σ → List Operation → Point σ → Prop
  | none (p : Point σ) : Course p [] p
  | perform {p : Point σ} {ops : List Operation} {m : Manager σ} {op : Operation}
      (hcourse : Course p ops (.resting m)) (hop : op.isStart = false ∨ m.phase ≠ .unstarted) :
    Course p (ops ++ [op]) (.resting (m.perform op))
  | start {p : Point σ} {ops : List Operation} {m : Manager σ} {config : Config}
      (hcourse : Course p ops (.resting m)) (hphase : m.phase = .unstarted) :
    Course p (ops ++ [.start config]) (.building config (m.applyConfig config))
  | step {p q r : Point σ} {ops : List Operation} (hcourse : Course p ops q) (hstep : Step q r) :
    Course p ops r

/-! ## What a start builds -/

namespace Slot

/-- What may stand in the slot of an entry while services are built. -/
inductive Building (out : String → Bool) (e : CatalogEntry σ) : Slot σ → Prop
  | awaiting : Building out e (.awaiting out e)
  | built : Building out e (.built out e)

variable {out : String → Bool} {e : CatalogEntry σ} {s : Slot σ}

theorem Building.construct (h : Building out e s) (hleft : s.blueprint ≠ none) :
    Building out e s.construct.1 := by
  cases h with
  | awaiting => exact .built
  | built => exact absurd (blueprint_construct (.awaiting out e)) hleft

/-- Nothing is left to build of an entry that is left out. -/
theorem Building.eq_built (h : Building out e s) (hnone : s.blueprint = none) :
    s = Slot.built out e := by
  cases h with
  | awaiting => simp only [Slot.built, Slot.construct, hnone]
  | built => rfl

theorem eq_map_built {entries : List (CatalogEntry σ)} {slots : List (Slot σ)}
    (h : List.Forall₂ (Building out) entries slots) (hnone : ∀ s ∈ slots, s.blueprint = none) :
    slots = entries.map (Slot.built out) := by
  induction h with
  | nil => rfl
  | cons hfirst _ ih =>
    rw [List.map_cons, ← hfirst.eq_built (hnone _ List.mem_cons_self),
      ← ih fun s hs => hnone s (List.mem_cons_of_mem _ hs)]

end Slot

namespace Manager

variable (c : Catalog σ) {config : Config}

/-- What starting the critical service comes to once everything is built that is left. -/
theorem startCritical_initializing {out : String → Bool} {ledger : Ledger} {shutDown : Bool}
    {reason : Option String} {m' : Manager σ}
    (h : ({ built c out config ledger shutDown with phase := .initializing } :
      Manager σ).startCritical config = (reason, m')) :
    (reason = none ↔ c.CriticalStarts out config) ∧
      ∃ ledger', m' = { built c out config ledger' shutDown with
        critical := ((Slot.built out c.critical).start config).1
        phase := .initializing } := by
  rw [startCritical_withPhase] at h
  obtain ⟨rfl, rfl⟩ := Prod.mk.inj h
  obtain ⟨ledger', hcritical, -⟩ := startCritical_built c out shutDown config ledger
  exact ⟨startCritical_built_eq_none c out shutDown config ledger, ledger', by rw [hcritical]⟩

omit [Lifecycle σ] in
theorem applyConfig_awaiting (out : String → Bool) (d : DisabledTools) (shutDown : Bool)
    (ledger : Ledger) (phase : Phase) :
    ({ awaiting c out d shutDown with ledger := ledger, phase := phase } :
        Manager σ).applyConfig config =
      { awaiting c (config.leavesOut out) (.ofNames config.disabledTools) shutDown with
        ledger := ledger
        phase := .initializing } := by
  have hselected := applySelection_awaiting c out (.ofNames config.disabledTools) shutDown
    config.disabledServices config.enabledServices
  exact congrArg (fun m : Manager σ => { m with ledger := ledger, phase := .initializing })
    hselected

end Manager

/-! ## What is true at every point -/

/-- Whether there is a configuration with which the start of the critical service breaks down. -/
def Catalog.CriticalBreaksDown (c : Catalog σ) : Prop :=
  ∃ config, (Lifecycle.start c.critical.service config).1.isOrderly = false

/-- What is true of a manager made from a catalog, at every point after some operations. -/
inductive Point.Sound (c : Catalog σ) : List Operation → Point σ → Prop
  | resting {ops : List Operation} (ledger : Ledger) (phase : Phase)
      (hphase : phase = ((Manager.ofCatalog c).run ops).phase ∨
        phase = .initializing ∧ ((Manager.ofCatalog c).run ops).phase = .failed ∧
          c.CriticalBreaksDown) :
    Sound c ops
      (.resting { (Manager.ofCatalog c).run ops with ledger := ledger, phase := phase })
  | building {before : List Operation} {config : Config} {critical : Slot σ}
      {optional : List (Slot σ)} (ledger : Ledger)
      (hbefore : ∀ op ∈ before, op.isStart = false)
      (hcritical : Slot.Building (leftOut before config) c.critical critical)
      (hoptional : List.Forall₂ (Slot.Building (leftOut before config)) c.optional optional) :
    Sound c (before ++ [.start config])
      (.building config
        { critical := critical
          optional := optional
          ledger := ledger
          disabled := .ofNames config.disabledTools
          phase := .initializing
          shutDown := decide (.shutdown ∈ before) })
  | launching {before : List Operation} {config : Config} {L : Launch σ} (ledger : Ledger)
      (hbefore : ∀ op ∈ before, op.isStart = false)
      (hcritical : c.CriticalStarts (leftOut before config) config)
      (hcomes : List.Forall₂ (Launch.Comes config) (c.optional.map (.built (leftOut before config)))
        L.tasks) :
    Sound c (before ++ [.start config])
      (.launching config
        { critical := ((Slot.built (leftOut before config) c.critical).start config).1
          optional := c.optional.map (.built (leftOut before config))
          ledger := ledger
          disabled := .ofNames config.disabledTools
          phase := .initializing
          shutDown := decide (.shutdown ∈ before) } L)

namespace Point

open Manager

variable {c : Catalog σ} {ops : List Operation}

theorem sound_ofCatalog (c : Catalog σ) : Sound c [] (.resting (.ofCatalog c)) :=
  .resting .empty .unstarted (.inl rfl)

theorem Sound.perform {m : Manager σ} {op : Operation} (h : Sound c ops (.resting m))
    (hop : op.isStart = false ∨ m.phase ≠ .unstarted) :
    Sound c (ops ++ [op]) (.resting (m.perform op)) := by
  cases h with
  | resting ledger phase hphase =>
    have hstarted : phase = .unstarted ↔ ((ofCatalog c).run ops).phase = .unstarted := by
      rcases hphase with rfl | ⟨rfl, hfailed, -⟩
      · exact Iff.rfl
      · rw [hfailed]
        decide
    have hop' : op.isStart = false ∨ ((ofCatalog c).run ops).phase ≠ .unstarted :=
      hop.imp_right fun hne hrun => hne (hstarted.mpr hrun)
    have hrun : (ofCatalog c).run (ops ++ [op]) = ((ofCatalog c).run ops).perform op := by
      rw [run_append]
      rfl
    rw [perform_with ledger hstarted hop', ← hrun]
    refine .resting ledger phase ?_
    rw [hrun, phase_perform hop']
    exact hphase

theorem Sound.start {m : Manager σ} (h : Sound c ops (.resting m)) (hphase : m.phase = .unstarted)
    (config : Config) :
    Sound c (ops ++ [.start config]) (.building config (m.applyConfig config)) := by
  cases h with
  | resting ledger phase hrun =>
    have hunstarted : ((ofCatalog c).run ops).phase = .unstarted := by
      rcases hrun with rfl | ⟨rfl, -, -⟩
      · exact hphase
      · cases hphase
    -- a start would have left the manager ready or failed
    have hops : ∀ op ∈ ops, op.isStart = false := by
      rcases unstarted_or_firstStart ops with hops | ⟨_, _, hfirst⟩
      · exact hops
      · have hstarted := hfirst.phase_run c
        rw [hunstarted] at hstarted
        simp at hstarted
    obtain ⟨d, hrun⟩ := run_ofCatalog c hops
    rw [hrun, applyConfig_awaiting]
    refine .building ledger hops .awaiting ?_
    exact forall₂_map_of_forall fun _ _ => .awaiting

/-- Once everything is built that is left, it is known what stands in the slots. -/
theorem Sound.eq_built {config : Config} {m : Manager σ} (h : Sound c ops (.building config m))
    (hbuilt : m.IsBuilt) :
    ∃ before ledger, (∀ op ∈ before, op.isStart = false) ∧ ops = before ++ [.start config] ∧
      m = { built c (leftOut before config) config ledger (decide (.shutdown ∈ before)) with
        phase := .initializing } := by
  cases h with
  | @building before _ _ _ ledger hbefore hslot hslots =>
    obtain rfl := hslot.eq_built (hbuilt _ List.mem_cons_self)
    obtain rfl := Slot.eq_map_built hslots fun s hs => hbuilt s (List.mem_cons_of_mem _ hs)
    exact ⟨before, ledger, hbefore, rfl, rfl⟩

/-- What comes to rest is what the run makes, up to the ledger and the phase. -/
theorem sound_resting {m : Manager σ} (hrun : (ofCatalog c).run ops = m) {ledger : Ledger}
    {phase : Phase}
    (hphase : phase = m.phase ∨
      phase = .initializing ∧ m.phase = .failed ∧ c.CriticalBreaksDown) :
    Sound c ops (.resting { m with ledger := ledger, phase := phase }) := by
  subst hrun
  exact .resting ledger phase hphase

theorem Sound.step {p q : Point σ} (h : Sound c ops p) (hstep : Step p q) : Sound c ops q := by
  cases hstep with
  | buildCritical hleft =>
    cases h with
    | building ledger hbefore hcritical hoptional =>
      exact .building _ hbefore (hcritical.construct hleft) hoptional
  | buildOptional _ hslots _ hleft =>
    cases h with
    | building ledger hbefore hcritical hoptional =>
      subst hslots
      exact .building _ hbefore hcritical
        (forall₂_replace (fun _ h => h.construct hleft) hoptional)
  | refuse hbuilt _ hcritical =>
    obtain ⟨before, ledger, hbefore, rfl, rfl⟩ := h.eq_built hbuilt
    obtain ⟨hnone, ledger, rfl⟩ := startCritical_initializing c hcritical
    obtain ⟨_, hrun⟩ := run_start_of_not_criticalStarts c hbefore
      (fun hstarts => Option.some_ne_none _ (hnone.mpr hstarts))
    exact sound_resting hrun (.inl rfl)
  | breakDown hbuilt hbroken =>
    obtain ⟨before, ledger, hbefore, rfl, rfl⟩ := h.eq_built hbuilt
    obtain ⟨-, outcome, hstart, hbroken⟩ := hbroken
    obtain ⟨-, -, rfl⟩ := Slot.outcome_of_start_built hstart
    obtain ⟨_, hrun⟩ := run_start_of_not_criticalStarts c hbefore fun hstarts => by
      rw [hstarts.started] at hbroken
      cases hbroken
    exact sound_resting hrun (.inr ⟨rfl, rfl, _, hbroken⟩)
  | launch hbuilt hcritical =>
    obtain ⟨before, ledger, hbefore, rfl, rfl⟩ := h.eq_built hbuilt
    obtain ⟨hnone, ledger, rfl⟩ := startCritical_initializing c hcritical
    exact .launching ledger hbefore (hnone.mp rfl) (Launch.sound_ofSlots _ _ ledger).comes
  | turn hturn =>
    cases h with
    | launching ledger hbefore hcritical hcomes =>
      exact .launching ledger hbefore hcritical (hturn.comes hcomes)
  | settle hsettled =>
    cases h with
    | launching _ hbefore hcritical hcomes =>
      obtain ⟨_, hrun⟩ := run_start_of_criticalStarts c hbefore hcritical
      rw [Launch.slots_eq hcomes hsettled, List.map_map]
      exact sound_resting hrun (.inl rfl)

end Point

theorem Course.sound {c : Catalog σ} {ops : List Operation} {p : Point σ}
    (h : Course (.resting (.ofCatalog c)) ops p) : p.Sound c ops := by
  induction h with
  | none => exact Point.sound_ofCatalog c
  | perform _ hop ih => exact ih.perform hop
  | start _ hphase ih => exact ih.start hphase _
  | step _ hstep ih => exact ih.step hstep

/-! ## Every course comes to rest -/

/-- More than the number of steps that are left of a start. -/
def Point.work : Point σ → Nat
  | .resting _ => 0
  | .building _ m => m.slots.countP (·.blueprint.isSome) + 3 * m.optional.length + 2
  | .launching _ _ L => L.work + 1

omit [Lifecycle σ] in
theorem Launch.work_ofSlots_le (slots : List (Slot σ)) (ledger : Ledger) :
    (ofSlots slots ledger).work ≤ 3 * slots.length := by
  induction slots with
  | nil => exact Nat.zero_le _
  | cons s rest ih =>
    have hfirst : Task.work (⟨s, .waiting⟩ : Task σ) ≤ 3 := by
      simp only [Task.work]
      split <;> omega
    simp only [work, ofSlots, List.map_cons, List.sum_cons, List.length_cons] at ih ⊢
    omega

theorem Step.work_lt {p q : Point σ} (h : Step p q) : q.work < p.work := by
  cases h with
  | @buildCritical config m hleft =>
    have hthis := Option.isSome_iff_ne_none.mpr hleft
    simp only [Point.work, Manager.slots, List.countP_cons, Slot.blueprint_construct, hthis,
      Option.isSome_none]
    simp
  | @buildOptional config m before after s _ hslots _ hleft =>
    have hthis := Option.isSome_iff_ne_none.mpr hleft
    simp only [Point.work, Manager.slots, hslots, List.countP_cons, List.countP_append,
      Slot.blueprint_construct, hthis, Option.isSome_none, List.length_append, List.length_cons]
    simp
  | refuse _ _ _ => simp only [Point.work]; omega
  | breakDown _ _ => simp only [Point.work]; omega
  | @launch config m m' _ hcritical =>
    have hoptional : m'.optional = m.optional := by
      rw [← m.optional_startCritical config, hcritical]
    have hwork := Launch.work_ofSlots_le m'.optional m'.ledger
    rw [hoptional] at hwork
    simp only [Point.work, hoptional]
    omega
  | turn hturn =>
    have hwork := hturn.work_eq
    simp only [Point.work]
    omega
  | settle _ => exact Nat.succ_pos _

namespace Manager

/-- What is left to build can be built. -/
theorem exists_step_of_not_isBuilt {m : Manager σ} (h : ¬ m.IsBuilt) (config : Config) :
    ∃ q, Step (.building config m) q := by
  by_cases hcritical : m.critical.blueprint = none
  · have hleft : ∃ s ∈ m.optional, s.blueprint.isSome = true := by
      by_contra hnone
      refine h fun s hs => ?_
      rcases List.mem_cons.mp hs with rfl | hs
      · exact hcritical
      · exact Option.not_isSome_iff_eq_none.mp fun hsome => hnone ⟨s, hs, hsome⟩
    obtain ⟨before, s, after, hslots, hthis, hbefore⟩ := exists_first hleft
    refine ⟨_, .buildOptional hcritical hslots (fun t ht => ?_)
      (Option.isSome_iff_ne_none.mp hthis)⟩
    exact Option.not_isSome_iff_eq_none.mp (Bool.eq_false_iff.mp (hbefore t ht))
  · exact ⟨_, .buildCritical hcritical⟩

/-- The critical service starts, cannot be used or breaks down. -/
theorem exists_step_of_isBuilt {m : Manager σ} (h : m.IsBuilt) (config : Config) :
    ∃ q, Step (.building config m) q := by
  cases hcritical : (m.startCritical config).1 with
  | none => exact ⟨_, .launch h (Prod.ext hcritical rfl)⟩
  | some message =>
    by_cases hbroken : m.CriticalBreaksDown config
    · exact ⟨_, .breakDown h hbroken⟩
    · exact ⟨_, .refuse h hbroken (Prod.ext hcritical rfl)⟩

theorem exists_step (m : Manager σ) (config : Config) : ∃ q, Step (.building config m) q := by
  by_cases h : m.IsBuilt
  · exact exists_step_of_isBuilt h config
  · exact exists_step_of_not_isBuilt h config

end Manager

theorem Point.Sound.exists_step {c : Catalog σ} {ops : List Operation} {p : Point σ}
    (h : p.Sound c ops) : (∃ m, p = .resting m) ∨ ∃ q, Step p q := by
  cases h with
  | resting _ _ _ => exact .inl ⟨_, rfl⟩
  | building _ _ _ _ => exact .inr (Manager.exists_step _ _)
  | @launching _ _ L _ _ _ hcomes =>
    refine .inr ?_
    cases hsettled : L.isSettled with
    | true => exact ⟨_, .settle hsettled⟩
    | false =>
      obtain ⟨M, hturn⟩ := Launch.exists_step hcomes hsettled
      exact ⟨_, .turn hturn⟩

/-- A start that is under way can be gone through to its end. -/
theorem Course.exists_rest {c : Catalog σ} {ops : List Operation} {p : Point σ}
    (h : Course (.resting (.ofCatalog c)) ops p) :
    ∃ m, Course (.resting (.ofCatalog c)) ops (.resting m) := by
  -- on the work that is left, of which every step leaves less
  induction hwork : p.work using Nat.strongRecOn generalizing p with
  | ind n ih =>
    rcases h.sound.exists_step with ⟨m, rfl⟩ | ⟨q, hstep⟩
    · exact ⟨m, h⟩
    · exact ih q.work (hwork ▸ hstep.work_lt) (h.step hstep) rfl

/-- Whatever operations are given, there is a course that comes to rest after them. -/
theorem exists_course (c : Catalog σ) (ops : List Operation) :
    ∃ m, Course (.resting (.ofCatalog c)) ops (.resting m) := by
  induction ops using List.reverseRec with
  | nil => exact ⟨_, .none _⟩
  | append_singleton ops op ih =>
    obtain ⟨m, hcourse⟩ := ih
    by_cases hphase : m.phase = .unstarted
    · cases op with
      | start config =>
        have hstart : Course _ (ops ++ [.start config]) (.building config (m.applyConfig config)) :=
          hcourse.start hphase
        exact hstart.exists_rest
      | _ => exact ⟨_, hcourse.perform (.inl rfl)⟩
    · exact ⟨_, hcourse.perform (.inr hphase)⟩

end Switchboard
