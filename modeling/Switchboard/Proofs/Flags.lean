import Switchboard.Program
import Switchboard.Proofs.BuiltinTools
import Switchboard.Proofs.ConfigText
import Switchboard.Proofs.Override
import Switchboard.Proofs.Selection

/-!
# What the command line adds

Which services and tools are left out is decided in three layers, each by a rule of its own: a list
of the environment takes the place of that of the file, the names on the command line are added to
either, and of the two lists of services the deny list goes before the allow list. Together this is
one condition on the names (`started_of_base`). So the command line can leave out more, but what the
layers below have disabled stays that way (`selected_in_layers`).
-/

namespace Switchboard

/-! ## One more name -/

section

variable {deny allow : List String} {name s : String}

/-- Alone on an allow list, a name lets no other pass. -/
theorem passes_singleton : Passes (deny, [name]) s ↔ Passes (deny, []) s ∧ s = name := by
  simp [Passes]

/-- Beside others on an allow list, a name takes nothing from them. -/
theorem passes_append_singleton (h : allow ≠ []) :
    Passes (deny, allow ++ [name]) s ↔ Passes (deny, allow) s ∨ s ∉ deny ∧ s = name := by
  simp only [Passes, h, List.append_eq_nil_iff, List.mem_append, List.mem_singleton, false_and,
    false_or, and_or_left]

end

/-! ## A start from the catalog -/

namespace Manager

variable {σ : Type} [Lifecycle σ] (c : Catalog σ) (config : Config)

theorem activeNames_start :
    ((ofCatalog c).start config).2.activeNames = c.names.filter (Passes config.selection ·) := by
  refine (activeNames_of_chosenBy c (chosenBy_selected c [] config)).trans ?_
  refine List.filter_congr fun name _ => ?_
  rw [Bool.eq_iff_iff, decide_eq_true_iff, Bool.not_eq_true', leavesOut_leftOutBy_eq_false_iff,
    List.nil_append, PassesAll, List.forall_mem_singleton]

theorem disabled_start :
    ((ofCatalog c).start config).2.disabled = .ofNames config.disabledTools := by
  rw [ofCatalog_eq_awaiting]
  by_cases h : c.CriticalStarts (config.leavesOut fun _ => false) config
  · obtain ⟨_, hstart⟩ := start_awaiting_ok c _ .empty false config h
    rw [hstart]
  · obtain ⟨_, _, hstart, -⟩ := start_awaiting_error c _ .empty false config h
    rw [hstart]
    rfl

/-- Of the tools that enabled services offer, those are entered that are not disabled. -/
theorem IsCoherent.contains_registerTools {m : Manager σ} (h : m.IsCoherent) (t : Table Handler)
    (tool : String) :
    (m.registerTools t).2.contains tool = true ↔
      m.disabled.contains tool = false ∧ ∃ name s, m.registry.enabled.find? name = some s ∧
        ∃ d ∈ Provider.definitions s, d.name = tool := by
  rw [Table.contains, NameMap.contains, find?_tools_registerTools]
  cases m.disabled.contains tool with
  | true => simp
  | false =>
    simp only [Bool.false_eq_true, if_false, Option.isSome_map, true_and, isSome_supplier?,
      Offer.isSome_tool?]
    refine exists_congr fun name => exists_congr fun s => and_congr_right fun hs => ?_
    exact and_iff_left_of_imp fun hoffers => (h.contains_iff name s hs tool).mpr hoffers

end Manager

namespace Program

variable {files : Files} {base : Config}

/-- What a file says, or the defaults, before anything is overridden. -/
def baseConfig (files : Files) (configPath : Option String) : Except Error Config :=
  match configPath with
  | some path => Config.load files path
  | none => Config.loadUsual files

/-- The manager of the builtin services, started with the configuration in force. -/
def started (files : Files) (environment : String → Option String) (a : Arguments) :
    Except Error (Manager Service) :=
  (loadConfig files environment a).map fun c => ((Manager.ofCatalog Builtin.catalog).start c).2

/-- Services on the deny list, with those of the command line. -/
def denied (environment : String → Option String) (base : Config) (a : Arguments) : List String :=
  Config.namesOr environment "DISABLED_SERVICES" base.disabledServices ++ a.disableServices

/-- Services on the allow list, with those of the command line. -/
def allowed (environment : String → Option String) (base : Config) (a : Arguments) : List String :=
  Config.namesOr environment "ENABLED_SERVICES" base.enabledServices ++ a.enableServices

/-- Tools that are not offered, with those of the command line. -/
def hidden (environment : String → Option String) (base : Config) (a : Arguments) : List String :=
  Config.namesOr environment "DISABLED_TOOLS" base.disabledTools ++ a.disableTools

/-- Each layer by its own rule: the override replaces, the command line adds. -/
theorem lists_extend_override (environment : String → Option String) (base : Config)
    (a : Arguments) :
    let c := extend (base.override Builtin.serviceNames environment) a
    c.selection = (denied environment base a, allowed environment base a) ∧
      c.disabledTools = hidden environment base a := by
  intro c
  have hlists : base.override Builtin.serviceNames environment =
      { base.overrideLists environment with
        backends := (base.override Builtin.serviceNames environment).backends } :=
    Config.override_eq base _ environment
  rw [show c = extend _ a from rfl, hlists]
  exact ⟨rfl, rfl⟩

theorem started_of_base (environment : String → Option String) (a : Arguments)
    (h : baseConfig files a.configPath = .ok base) :
    ∃ m, started files environment a = .ok m ∧
      (∀ s, s ∈ m.activeNames ↔ s ∈ Builtin.serviceNames ∧
        Passes (denied environment base a, allowed environment base a) s) ∧
      m.disabled = .ofNames (hidden environment base a) ∧ m.IsCoherent := by
  obtain ⟨hselection, htools⟩ := lists_extend_override environment base a
  have hstarted : started files environment a = .ok
      ((Manager.ofCatalog Builtin.catalog).start
        (extend (base.override Builtin.serviceNames environment) a)).2 := by
    have hload : loadConfig files environment a = (baseConfig files a.configPath).map fun c =>
        extend (c.override Builtin.serviceNames environment) a := rfl
    rw [started, hload, h]
    rfl
  refine ⟨_, hstarted, fun s => ?_, ?_, Manager.isCoherent_run [.start _]⟩
  · rw [Manager.activeNames_start, List.mem_filter, decide_eq_true_iff, hselection]
    rfl
  · rw [Manager.disabled_start, htools]

/-- With a file that can be read, or none, a builtin service is active exactly if it is not on the
deny list and, unless the allow list is empty, on that: each list is that of the environment if it
has one that is not blank, else that of the file, with the names on the command line added. Of the
tools that enabled services offer, those are entered whose names are not among the disabled ones,
which are put together likewise. So nothing on the command line brings back a service or a tool that
the file or the environment disables; and to name a service there as enabled leaves no other where
the allow list was empty, and leaves that service and all that were active where it was not. -/
theorem selected_in_layers (files : Files) (environment : String → Option String) (a : Arguments)
    {base : Config} (hbase : baseConfig files a.configPath = .ok base) :
    let given (key : String) := (environment key).filter fun value => !Text.blank value
    let inForce (key : String) (ofFile : List String) := ((given key).map splitNames).getD ofFile
    let disabled := inForce "OPSBRIDGE_DISABLED_SERVICES" base.disabledServices
    let disabledTools := inForce "OPSBRIDGE_DISABLED_TOOLS" base.disabledTools
    let deny := disabled ++ a.disableServices
    let allow := inForce "OPSBRIDGE_ENABLED_SERVICES" base.enabledServices ++ a.enableServices
    ∃ m, started files environment a = .ok m ∧
      (∀ s, s ∈ m.activeNames ↔
        s ∈ Builtin.serviceNames ∧ s ∉ deny ∧ (allow = [] ∨ s ∈ allow)) ∧
      (∀ (t : Table Handler) tool, (m.registerTools t).2.contains tool = true ↔
        tool ∉ disabledTools ++ a.disableTools ∧
          ∃ name s, m.registry.enabled.find? name = some s ∧
            ∃ d ∈ Provider.definitions s, d.name = tool) ∧
      (∀ s ∈ disabled, s ∉ m.activeNames) ∧
      (∀ tool ∈ disabledTools, ∀ t : Table Handler, (m.registerTools t).2.contains tool = false) ∧
      ∀ name, ∃ more m', CommandLine.ValueOption.enableService.set? name a = some more ∧
        started files environment more = .ok m' ∧
        (allow = [] → ∀ s, s ∈ m'.activeNames ↔ s ∈ m.activeNames ∧ s = name) ∧
        (allow ≠ [] → ∀ s, s ∈ m'.activeNames ↔
          s ∈ m.activeNames ∨ s ∈ Builtin.serviceNames ∧ s ∉ deny ∧ s = name) := by
  intro given inForce disabled disabledTools deny allow
  have hdeny : denied environment base a = deny :=
    congrArg (· ++ _) (Config.namesOr_eq environment "DISABLED_SERVICES" base.disabledServices)
  have hallow : allowed environment base a = allow :=
    congrArg (· ++ _) (Config.namesOr_eq environment "ENABLED_SERVICES" base.enabledServices)
  have hhidden : hidden environment base a = disabledTools ++ a.disableTools :=
    congrArg (· ++ _) (Config.namesOr_eq environment "DISABLED_TOOLS" base.disabledTools)
  obtain ⟨m, hm, hactive, htools, hcoherent⟩ := started_of_base environment a hbase
  rw [hdeny, hallow] at hactive
  have hentered (t : Table Handler) (tool : String) := hcoherent.contains_registerTools t tool
  have hdisabled (tool : String) :
      m.disabled.contains tool = false ↔ tool ∉ disabledTools ++ a.disableTools := by
    rw [htools, hhidden, DisabledTools.contains, DisabledTools.ofNames, NameMap.contains_ofNames,
      ← Bool.not_eq_true, List.contains_iff_mem]
  simp only [hdisabled] at hentered
  refine ⟨m, hm, hactive, hentered, fun s hs hmem => ?_, fun tool htool t => ?_, fun name => ?_⟩
  · exact ((hactive s).mp hmem).2.1 (List.mem_append_left _ hs)
  · rw [← Bool.not_eq_true, hentered]
    exact fun h => h.1 (List.mem_append_left _ htool)
  · let more : Arguments := { a with enableServices := a.enableServices ++ [name] }
    have hdeny' : denied environment base more = deny := hdeny
    have hallow' : allowed environment base more = allow ++ [name] := by
      rw [← hallow, allowed, allowed, List.append_assoc]
    obtain ⟨m', hm', hactive', -⟩ := started_of_base environment more hbase
    rw [hdeny', hallow'] at hactive'
    refine ⟨more, m', rfl, hm', fun hempty s => ?_, fun hne s => ?_⟩
    · rw [hactive', hactive, hempty, List.nil_append, passes_singleton, and_assoc]
    · rw [hactive', hactive, passes_append_singleton hne, and_or_left]

/-- A file disables `jaeger`, what the environment has in its place is blank, and the command line
enables it all the same, beside `helm`. -/
theorem selected_from_file_and_flags :
    let text := "\x7b\"disabled_services\":[\"jaeger\"]," ++
      "\"disabled_tools\":[\"helm_list_releases\"]\x7d"
    let files : Files := fun path =>
      if path = "opsbridge.json" then .file text.toUTF8 else .missing
    let environment (key : String) : Option String :=
      if key = "OPSBRIDGE_DISABLED_SERVICES" then some " "
      else if key = "OPSBRIDGE_ENABLED_SERVICES" then some "kubernetes, jaeger" else none
    let a : Arguments := { enableServices := ["jaeger", "helm"] }
    baseConfig files none =
      .ok { disabledServices := ["jaeger"], disabledTools := ["helm_list_releases"] } ∧
    ∃ m, started files environment a = .ok m ∧ "jaeger" ∉ m.activeNames ∧
      "helm" ∈ m.activeNames ∧ "grafana" ∉ m.activeNames ∧
      (m.registerTools .empty).2.contains "helm_list_releases" = false := by
  intro text files environment a
  have hfound : Config.loadUsual files = Config.load files "opsbridge.json" := rfl
  have hparse : Config.parse? .json text =
      some { disabledServices := ["jaeger"], disabledTools := ["helm_list_releases"] } := by
    decide +kernel
  have hbase : baseConfig files none =
      .ok { disabledServices := ["jaeger"], disabledTools := ["helm_list_releases"] } := by
    rw [baseConfig, hfound, Config.load, show files "opsbridge.json" = .file text.toUTF8 from rfl,
      FileState.text_toUTF8, show ConfigFormat.ofPath "opsbridge.json" = .json by decide]
    simp only [hparse]
  obtain ⟨m, hm, hactive, -, hdisabled, htools, -⟩ := selected_in_layers files environment a hbase
  exact ⟨hbase, m, hm, hdisabled _ (by decide +kernel), (hactive _).mpr (by decide +kernel),
    fun h => absurd ((hactive _).mp h) (by decide +kernel), htools _ (by decide +kernel) _⟩

end Program

end Switchboard
