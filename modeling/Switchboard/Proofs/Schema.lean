import Switchboard.Proofs.NameMap
import Switchboard.Proofs.Rendering
import Switchboard.Service.Endpoints

/-!
# What a schema declares

The schema of an endpoint declares the names in its path, those of its query and, where it lists
something, the two that ask for a page (`mem_keys_properties`). No other argument is looked at: of
two calls whose arguments agree on the declared names, neither the request nor the answer tells them
apart (`schema_declares_what_counts`).
-/

namespace Switchboard

namespace Endpoint

variable {e : Endpoint} {arguments arguments' : Json}

theorem mem_keys_properties {name : String} :
    name ∈ e.properties.keys ↔ name ∈ e.pathParams ∨ name ∈ e.query ∨
      e.list.isSome = true ∧ (name = "cursor" ∨ name = "limit") := by
  have hpage : pageSchemas.map (·.1) = ["cursor", "limit"] := rfl
  rw [NameMap.mem_keys, properties]
  refine NameMap.contains_ofList.trans ?_
  simp only [List.map_append, List.map_map, List.mem_append, or_assoc]
  refine or_congr (by simp) (or_congr (by simp) ?_)
  by_cases hlist : e.list.isSome = true
  · simp [hlist, hpage]
  · simp [hlist]

/-- The answer to a reply depends on the arguments that ask for a page, if it is a page at all. -/
theorem shape_congr
    (h : e.list.isSome = true → arguments.get? "cursor" = arguments'.get? "cursor" ∧
      arguments.get? "limit" = arguments'.get? "limit") (reply : Json) (usual : Nat) :
    e.shape reply arguments usual = e.shape reply arguments' usual := by
  unfold shape
  cases hlist : e.list with
  | none => rfl
  | some pointer =>
    obtain ⟨hcursor, hlimit⟩ := h (hlist ▸ rfl)
    simp only [pageCursor, pageLimit, hcursor, hlimit]

/-- The required arguments are the placeholders of the path, and they are declared. Whatever is
declared for an endpoint and whatever is not, arguments that agree on the declared names, be it that
neither holds one, give the same path or the same error, the same query and the same answers, so the
same course of a call from its request to its result. -/
theorem schema_declares_what_counts (e : Endpoint) :
    ∃ properties : List (String × Json),
      e.inputSchema.get? "properties" = some (.object properties) ∧
      e.inputSchema.get? "required" = some (.array (e.pathParams.map .string)) ∧
      (∀ name ∈ e.pathParams, name ∈ properties.map (·.1)) ∧
      (∀ name, name ∈ properties.map (·.1) ↔ name ∈ e.pathParams ∨ name ∈ e.query ∨
        e.list.isSome = true ∧ (name = "cursor" ∨ name = "limit")) ∧
      ∀ arguments arguments' : Json,
        (∀ name ∈ properties.map (·.1), arguments.get? name = arguments'.get? name) →
        e.renderPath arguments = e.renderPath arguments' ∧
        e.renderQuery arguments = e.renderQuery arguments' ∧
        (∀ reply usual, e.shape reply arguments usual = e.shape reply arguments' usual) ∧
        ∀ c, EndpointService.handler c e arguments = EndpointService.handler c e arguments' := by
  have hdeclared (name : String) : name ∈ (e.properties.entries.map fun p => (p.1, id p.2)).map
      (·.1) ↔ name ∈ e.pathParams ∨ name ∈ e.query ∨
        e.list.isSome = true ∧ (name = "cursor" ∨ name = "limit") := by
    rw [List.map_map]
    exact mem_keys_properties
  refine ⟨_, rfl, rfl, fun name hname => (hdeclared name).mpr (.inl hname), hdeclared,
    fun arguments arguments' hsame => ?_⟩
  have hpath := renderPath_congr fun name hname => hsame name ((hdeclared name).mpr (.inl hname))
  have hquery := renderQuery_congr fun name hname =>
    hsame name ((hdeclared name).mpr (.inr (.inl hname)))
  have hshape := shape_congr (e := e) fun hlist =>
    ⟨hsame _ ((hdeclared _).mpr (.inr (.inr ⟨hlist, .inl rfl⟩))),
      hsame _ ((hdeclared _).mpr (.inr (.inr ⟨hlist, .inr rfl⟩)))⟩
  refine ⟨hpath, hquery, hshape, fun c => ?_⟩
  simp only [EndpointService.handler, hpath, hquery, hshape]

end Endpoint

end Switchboard
