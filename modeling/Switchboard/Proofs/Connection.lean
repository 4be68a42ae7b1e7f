import Switchboard.Proofs.NameMap
import Switchboard.Service.Basic

/-!
# Life of a service over endpoints

A service over endpoints is started and closed in any order and any number of times. What becomes of
it has a closed form (`run_endpoints`): it has the connection of the first configuration that leads
to one, and it is closed from the first closing on. Everything that the service shows is read off
these two, so it offers its endpoints exactly between its one successful start and its first closing
(`offers_while_connected`).
-/

namespace Switchboard

/-- The connection that a configuration leads to. -/
def EndpointService.connectionFor? (s : EndpointService) (c : Config) : Option Connection :=
  match Backend.connect s.name (s.settings? c) with
  | .ok backend => some ⟨backend, c.defaultPageSize.toNat⟩
  | .error _ => none

theorem EndpointService.connectionFor?_eq_some {s : EndpointService} {c : Config}
    {connection : Connection} :
    s.connectionFor? c = some connection ↔
      Backend.connect s.name (s.settings? c) = .ok connection.backend ∧
        connection.pageSize = c.defaultPageSize.toNat := by
  obtain ⟨backend, pageSize⟩ := connection
  unfold connectionFor?
  split
  · next heq => simp [heq, eq_comm]
  · next heq => simp [heq]

theorem EndpointService.isSome_connectionFor? {s : EndpointService} {c : Config} :
    (s.connectionFor? c).isSome ↔
      ∃ backend, Backend.connect s.name (s.settings? c) = .ok backend := by
  rw [Option.isSome_iff_exists]
  constructor
  · rintro ⟨connection, h⟩
    exact ⟨_, (connectionFor?_eq_some.mp h).1⟩
  · rintro ⟨backend, h⟩
    exact ⟨⟨backend, _⟩, connectionFor?_eq_some.mpr ⟨h, rfl⟩⟩

namespace Service

/-! ## Events -/

/-- What can happen to a service. -/
inductive Event where
  | start (config : Config)
  | close
  deriving DecidableEq

/-- The service after an event. -/
def perform (s : Service) : Event → Service
  | .start config => (s.start config).2
  | .close => s.close.2

/-- The service after some events. -/
def run (s : Service) (events : List Event) : Service := events.foldl perform s

/-- The event number `n` is a start that succeeds. -/
structure StartsAt (s : Service) (events : List Event) (n : Nat) (config : Config) : Prop where
  event : events[n]? = some (.start config)
  outcome : ((s.run (events.take n)).start config).1 = .started

/-! ## One event -/

/-- The connection that an event may make. -/
def Event.connectionFor? (e : EndpointService) : Event → Option Connection
  | .start config => e.connectionFor? config
  | .close => none

/-- A start connects a service that has no connection yet, or it fails and changes nothing. -/
theorem start_endpoints_cases (e : EndpointService) (config : Config) :
    (∃ connection, e.connected = none ∧ e.connectionFor? config = some connection ∧
      (endpoints e).start config =
        (.started, .endpoints { e with connected := some connection })) ∨
    (e.connected = none → e.connectionFor? config = none) ∧
      ∃ failure, (endpoints e).start config = (.failed failure, .endpoints e) := by
  cases hconnected : e.connected with
  | some connection =>
    right
    refine ⟨fun h => ?_, .of ("service '" ++ e.name ++ "' is already initialized"), ?_⟩
    · cases h
    · simp only [start, EndpointService.start, hconnected]
  | none =>
    cases hconnect : Backend.connect e.name (e.settings? config) with
    | ok backend =>
      left
      refine ⟨⟨backend, config.defaultPageSize.toNat⟩, rfl, ?_, ?_⟩
      · simp only [EndpointService.connectionFor?, hconnect]
      · simp only [start, EndpointService.start, hconnected, hconnect]
    | error error =>
      right
      refine ⟨fun _ => ?_, error.failure e.name, ?_⟩
      · simp only [EndpointService.connectionFor?, hconnect]
      · simp only [start, EndpointService.start, hconnected, hconnect]

theorem start_endpoints_eq_started_iff {e : EndpointService} {config : Config} :
    ((endpoints e).start config).1 = .started ↔
      e.connected = none ∧ (e.connectionFor? config).isSome := by
  rcases start_endpoints_cases e config with ⟨_, hnone, hsome, hstart⟩ | ⟨hnone, _, hstart⟩
  · simp [hstart, hnone, hsome]
  · simp only [hstart, reduceCtorEq, false_iff, not_and]
    intro h
    simp [hnone h]

theorem perform_endpoints (e : EndpointService) (event : Event) :
    (endpoints e).perform event = .endpoints
      { e with
        connected := e.connected.or (event.connectionFor? e)
        closed := e.closed || decide (event = .close) } := by
  obtain ⟨name, table, fallback, connected, closed⟩ := e
  cases event with
  | close => simp [perform, close, EndpointService.close, Event.connectionFor?]
  | start config =>
    rcases start_endpoints_cases ⟨name, table, fallback, connected, closed⟩ config with
      ⟨connection, rfl, hsome, hstart⟩ | ⟨hnone, _, hstart⟩
    · simp [perform, hstart, Event.connectionFor?, hsome]
    · cases connected with
      | none => simp [perform, hstart, Event.connectionFor?, hnone rfl]
      | some connection => simp [perform, hstart]

/-! ## Any events -/

/-- The first event that makes a connection decides which one, and the first closing is for good. By
induction on the events: neither of the two changes what an event may make of the service. -/
theorem run_endpoints (e : EndpointService) (events : List Event) :
    (endpoints e).run events = .endpoints
      { e with
        connected := e.connected.or (events.findSome? (Event.connectionFor? e))
        closed := e.closed || decide (.close ∈ events) } := by
  induction events generalizing e with
  | nil => simp [run]
  | cons event rest ih =>
    have hfirst : (endpoints e).run (event :: rest) = ((endpoints e).perform event).run rest := rfl
    rw [hfirst, perform_endpoints, ih]
    have hsame : Event.connectionFor? { e with
        connected := e.connected.or (event.connectionFor? e)
        closed := e.closed || decide (event = .close) } = Event.connectionFor? e := by
      funext other
      cases other <;> rfl
    rw [hsame, List.findSome?_cons]
    cases e.connected <;> cases event.connectionFor? e <;> simp [Bool.or_assoc, eq_comm]

/-! ## The start that succeeds -/

section

variable {e : EndpointService} {events : List Event} {n n' : Nat} {config config' : Config}

theorem startsAt_iff (hnew : e.connected = none) :
    (endpoints e).StartsAt events n config ↔
      events[n]? = some (.start config) ∧ (e.connectionFor? config).isSome ∧
        ∀ event ∈ events.take n, event.connectionFor? e = none := by
  have houtcome : (((endpoints e).run (events.take n)).start config).1 = .started ↔
      (∀ event ∈ events.take n, event.connectionFor? e = none) ∧
        (e.connectionFor? config).isSome := by
    rw [run_endpoints, start_endpoints_eq_started_iff, hnew, Option.none_or,
      List.findSome?_eq_none_iff]
    rfl
  constructor
  · rintro ⟨hevent, hstarted⟩
    obtain ⟨hbefore, hsome⟩ := houtcome.mp hstarted
    exact ⟨hevent, hsome, hbefore⟩
  · rintro ⟨hevent, hsome, hbefore⟩
    exact ⟨hevent, houtcome.mpr ⟨hbefore, hsome⟩⟩

/-- No start succeeds after one that has succeeded. -/
theorem StartsAt.le (hnew : e.connected = none) (h : (endpoints e).StartsAt events n config)
    (h' : (endpoints e).StartsAt events n' config') : n' ≤ n := by
  obtain ⟨hevent, hsome, -⟩ := (startsAt_iff hnew).mp h
  obtain ⟨-, -, hbefore⟩ := (startsAt_iff hnew).mp h'
  by_contra hlt
  have hmem : Event.start config ∈ events.take n' := by
    refine List.mem_of_getElem? (i := n) ?_
    rw [List.getElem?_take_of_lt (Nat.lt_of_not_le hlt), hevent]
  have hnone : e.connectionFor? config = none := hbefore _ hmem
  rw [hnone] at hsome
  cases hsome

theorem findSome?_connectionFor?_eq_some (hnew : e.connected = none) {connection : Connection} :
    events.findSome? (Event.connectionFor? e) = some connection ↔
      ∃ n config, (endpoints e).StartsAt events n config ∧
        e.connectionFor? config = some connection := by
  constructor
  · intro h
    obtain ⟨before, event, after, hsplit, hevent, hbefore⟩ := List.findSome?_eq_some_iff.mp h
    cases event with
    | close => cases hevent
    | start config =>
      refine ⟨before.length, config, (startsAt_iff hnew).mpr ⟨?_, ?_, ?_⟩, hevent⟩
      · rw [hsplit, List.getElem?_append_right (Nat.le_refl _), Nat.sub_self]
        rfl
      · exact Option.isSome_of_eq_some hevent
      · rw [hsplit, List.take_left]
        exact hbefore
  · rintro ⟨n, config, hstarts, hconnection⟩
    obtain ⟨hevent, -, hbefore⟩ := (startsAt_iff hnew).mp hstarts
    obtain ⟨hlt, hget⟩ := List.getElem?_eq_some_iff.mp hevent
    refine List.findSome?_eq_some_iff.mpr
      ⟨events.take n, .start config, events.drop (n + 1), ?_, hconnection, hbefore⟩
    rw [← hget, List.getElem_cons_drop, List.take_append_drop]

end

/-! ## What is offered -/

theorem isEnabled_endpoints_iff {e : EndpointService} :
    (endpoints e).isEnabled = true ↔ e.connected.isSome ∧ e.closed = false := by
  cases hclosed : e.closed <;>
    simp [isEnabled, EndpointService.isEnabled, EndpointService.connection?, hclosed]

theorem offers_of_not_isEnabled {e : EndpointService} (h : (endpoints e).isEnabled = false) :
    (endpoints e).definitions = [] ∧ (endpoints e).handlers = NameMap.empty := by
  have hdisabled : e.isEnabled = false := h
  have hnone : e.connection? = none := by
    rw [← Option.isNone_iff_eq_none, ← Option.isSome_eq_false_iff]
    exact h
  constructor
  · simp [definitions, EndpointService.definitions, hdisabled]
  · simp [handlers, EndpointService.handlers, hnone]

theorem definitions_endpoints {e : EndpointService} (h : (endpoints e).isEnabled = true) :
    (endpoints e).definitions =
      e.endpoints.map fun entry => ⟨entry.tool, entry.description, entry.inputSchema, e.name⟩ :=
  if_pos h

/-- The handler of a tool is that of the last endpoint of its name. -/
theorem find?_handlers_endpoints {e : EndpointService} {connection : Connection}
    (h : e.connection? = some connection) (tool : String) :
    (endpoints e).handlers.find? tool =
      (e.endpoints.filter (·.tool = tool)).getLast?.map (EndpointService.handler connection) := by
  have hhandlers : (endpoints e).handlers = NameMap.ofList
      (e.endpoints.map fun entry => (entry.tool, EndpointService.handler connection entry)) := by
    simp only [handlers, EndpointService.handlers, h]
  rw [hhandlers, NameMap.find?_ofList, List.filter_map, List.getLast?_map, Option.map_map]
  rfl

theorem mem_keys_handlers_endpoints {e : EndpointService} {connection : Connection}
    (h : e.connection? = some connection) {tool : String} :
    tool ∈ (endpoints e).handlers.keys ↔ ∃ entry ∈ e.endpoints, entry.tool = tool := by
  rw [NameMap.mem_keys, find?_handlers_endpoints h, Option.isSome_map, List.getLast?_isSome, Ne,
    List.filter_eq_nil_iff]
  simp

theorem settings?_eq (e : EndpointService) (config : Config) :
    e.settings? config = (config.backend? e.name).or (e.fallback.bind config.backend?) := by
  unfold EndpointService.settings?
  cases config.backend? e.name <;> rfl

/-- Whatever happens to a service over endpoints, at most one of its starts succeeds: the first one
whose settings lead to a backend. Any other start fails and leaves the service as it is. Closing
succeeds and is for good. The service is enabled exactly if a start has succeeded and it has not
been closed; then it offers its endpoints in order and carries out each tool over the backend and
with the page size of that start, and otherwise it offers and carries out nothing. -/
theorem offers_while_connected (name : String) (table : List Endpoint) (fallback : Option String)
    (events : List Event) :
    let built : Service := .endpoints { name := name, endpoints := table, fallback := fallback }
    let settings? (config : Config) := (config.backend? name).or (fallback.bind config.backend?)
    let s := built.run events
    (∀ n config n' config', built.StartsAt events n config → built.StartsAt events n' config' →
      n = n') ∧
    (∀ config, ((s.start config).1 = .started ↔
        (¬ ∃ n config', built.StartsAt events n config') ∧
          ∃ backend, Backend.connect name (settings? config) = .ok backend) ∧
      ((s.start config).1 ≠ .started →
        (∃ failure, (s.start config).1 = .failed failure) ∧ (s.start config).2 = s)) ∧
    (s.close.1 = .ok () ∧ ∀ later, (s.close.2.run later).isEnabled = false) ∧
    (s.isEnabled = true ↔ (∃ n config, built.StartsAt events n config) ∧ .close ∉ events) ∧
    (s.isEnabled = false → s.definitions = [] ∧ s.handlers = NameMap.empty) ∧
    (s.isEnabled = true →
      s.definitions = table.map (fun e => ⟨e.tool, e.description, e.inputSchema, name⟩) ∧
      (∀ tool, tool ∈ s.handlers.keys ↔ ∃ e ∈ table, e.tool = tool) ∧
      ∃ n config backend, built.StartsAt events n config ∧
        Backend.connect name (settings? config) = .ok backend ∧
        ∀ tool, s.handlers.find? tool = (table.filter (·.tool = tool)).getLast?.map
          (EndpointService.handler ⟨backend, config.defaultPageSize.toNat⟩)) := by
  intro built settings? s
  let new : EndpointService := { name := name, endpoints := table, fallback := fallback }
  have hnew : new.connected = none := rfl
  have hsettings (config : Config) : new.settings? config = settings? config :=
    settings?_eq new config
  let connected := events.findSome? (Event.connectionFor? new)
  have hs : s =
      .endpoints { new with connected := connected, closed := decide (.close ∈ events) } := by
    refine (run_endpoints new events).trans ?_
    rw [hnew, Option.none_or]
    rfl
  have hsome : connected.isSome ↔ ∃ n config, built.StartsAt events n config := by
    constructor
    · intro h
      obtain ⟨connection, hconnection⟩ := Option.isSome_iff_exists.mp h
      obtain ⟨n, config, hstarts, -⟩ := (findSome?_connectionFor?_eq_some hnew).mp hconnection
      exact ⟨n, config, hstarts⟩
    · rintro ⟨n, config, hstarts⟩
      obtain ⟨-, hfor, -⟩ := (startsAt_iff hnew).mp hstarts
      obtain ⟨connection, hconnection⟩ := Option.isSome_iff_exists.mp hfor
      exact Option.isSome_of_eq_some
        ((findSome?_connectionFor?_eq_some hnew).mpr ⟨n, config, hstarts, hconnection⟩)
  have henabled : s.isEnabled = true ↔
      (∃ n config, built.StartsAt events n config) ∧ .close ∉ events := by
    rw [hs, isEnabled_endpoints_iff, ← hsome, decide_eq_false_iff_not]
  refine ⟨?_, ?_, ⟨?_, ?_⟩, henabled, ?_, ?_⟩
  · intro n config n' config' h h'
    exact Nat.le_antisymm (h'.le hnew h) (h.le hnew h')
  · intro config
    have hstarts : (s.start config).1 = .started ↔
        connected = none ∧ (new.connectionFor? config).isSome := by
      rw [hs]
      exact start_endpoints_eq_started_iff
    rw [hstarts, ← hsome, Option.not_isSome_iff_eq_none, EndpointService.isSome_connectionFor?,
      hsettings]
    refine ⟨Iff.rfl, fun hfails => ?_⟩
    rw [hs] at hfails ⊢
    rcases start_endpoints_cases _ config with ⟨_, -, -, hstart⟩ | ⟨-, failure, hstart⟩
    · rw [hstart] at hfails
      exact absurd rfl hfails
    · rw [hstart]
      exact ⟨⟨failure, rfl⟩, rfl⟩
  · rw [hs]
    rfl
  · intro later
    rw [hs, close, run_endpoints, Bool.eq_false_iff, Ne, isEnabled_endpoints_iff]
    rintro ⟨-, hclosed⟩
    cases hclosed
  · rw [hs]
    exact offers_of_not_isEnabled
  · intro h
    obtain ⟨hstarted, hopen⟩ := henabled.mp h
    obtain ⟨connection, hconnection⟩ := Option.isSome_iff_exists.mp (hsome.mpr hstarted)
    obtain ⟨n, config, hstarts, hfor⟩ := (findSome?_connectionFor?_eq_some hnew).mp hconnection
    obtain ⟨hbackend, hpage⟩ := EndpointService.connectionFor?_eq_some.mp hfor
    have hinuse : EndpointService.connection?
        { new with connected := connected, closed := decide (.close ∈ events) } =
          some connection := by
      rw [EndpointService.connection?, if_neg (by simpa using hopen)]
      exact hconnection
    rw [hsettings] at hbackend
    rw [hs] at h ⊢
    refine ⟨definitions_endpoints h, fun tool => mem_keys_handlers_endpoints hinuse,
      n, config, connection.backend, hstarts, hbackend, fun tool => ?_⟩
    rw [← hpage]
    exact find?_handlers_endpoints hinuse tool

end Service

end Switchboard
