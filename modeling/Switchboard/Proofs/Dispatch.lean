import Mathlib.Algebra.Group.Nat.Defs
import Mathlib.Data.List.Dedup
import Switchboard.Proofs.NameMap
import Switchboard.Table

/-!
# The dispatch table is a map

Whatever is done with a table, it holds under each name the first tool that was registered or listed
under the name since the tools were last replaced. `entered` keeps the record of what was, in order,
and `Table.IsMapOf` ties a table to such a record: one operation keeps it (`isMapOf_perform`), so it
holds after any run, and every reading of the table follows from it (`IsMapOf.readsAs`).

The counts are words, so a run adds to them modulo 2^64 what its answers say (`counts_performAll`),
and that is the number itself as long as there are fewer operations.
-/

namespace Switchboard

/-! ## Operations -/

/-- What can be done with a table. -/
inductive TableOperation where
  | register (definition : ToolDefinition) (handler : Handler)
  | replaceAll (entries : List (ToolDefinition × Handler))
  | call (tool : String) (arguments : Json)
  | handler (tool : String)
  | definition (tool : String)
  | contains (tool : String)
  | list
  | names
  | size
  | stats

/-- What an operation answers. -/
inductive TableAnswer where
  | registered (result : Except Error Unit)
  | replaced (count : Nat)
  | called (result : Except Error Json)
  | handler (handler : Option Handler)
  | definition (definition : Option ToolDefinition)
  | contains (found : Bool)
  | list (definitions : List ToolDefinition)
  | names (names : List String)
  | size (count : Nat)
  | stats (stats : TableStats)

def TableOperation.isReplacement : TableOperation → Bool
  | .replaceAll _ => true
  | _ => false

/-- Whether a call reached its handler, and the handler failed. -/
def TableAnswer.isFailed : TableAnswer → Bool
  | .called (.error (.backend _)) => true
  | _ => false

/-- Whether a call reached its handler. -/
def TableAnswer.isCarriedOut : TableAnswer → Bool
  | .called (.ok _) => true
  | a => a.isFailed

/-- What was registered or listed since the last replacement, after one more operation. -/
def entered (before : List (ToolDefinition × Handler)) :
    TableOperation → List (ToolDefinition × Handler)
  | .register definition handler => before ++ [(definition, handler)]
  | .replaceAll entries => entries
  | _ => before

/-- The first entry of a name. -/
def firstOf (entries : List (ToolDefinition × Handler)) (name : String) : Option (Tool Handler) :=
  (entries.find? (·.1.name == name)).map fun e => ⟨e.1, e.2⟩

theorem firstOf_append (entries : List (ToolDefinition × Handler)) (d : ToolDefinition)
    (handler : Handler) (name : String) :
    firstOf (entries ++ [(d, handler)]) name =
      (firstOf entries name).or (if d.name = name then some ⟨d, handler⟩ else none) := by
  rw [firstOf, firstOf, List.find?_append]
  cases entries.find? (·.1.name == name) with
  | some _ => rfl
  | none => by_cases h : d.name = name <;> simp [h]

theorem name_of_firstOf {entries : List (ToolDefinition × Handler)} {name : String}
    {tool : Tool Handler} (h : firstOf entries name = some tool) : tool.definition.name = name := by
  obtain ⟨e, he, rfl⟩ := Option.map_eq_some_iff.mp h
  simpa using List.find?_some he

theorem isSome_firstOf {entries : List (ToolDefinition × Handler)} {name : String} :
    (firstOf entries name).isSome ↔ name ∈ entries.map (·.1.name) := by
  simp [firstOf]

namespace Table

variable {ω : Type}

/-- One operation: its answer, with the table and the outside after it. -/
def perform (w : World (StateM ω)) (state : Table Handler × ω) :
    TableOperation → TableAnswer × Table Handler × ω
  | .register definition handler =>
    match state.1.register definition handler with
    | .ok table => (.registered (.ok ()), table, state.2)
    | .error error => (.registered (.error error), state)
  | .replaceAll entries =>
    (.replaced (state.1.replaceAll entries).1, (state.1.replaceAll entries).2, state.2)
  | .call tool arguments =>
    let result := ((state.1.call w tool arguments).run state.2).run
    (.called result.1.1, result.1.2, result.2)
  | .handler tool => (.handler (state.1.handler? tool), state)
  | .definition tool => (.definition (state.1.definition? tool), state)
  | .contains tool => (.contains (state.1.contains tool), state)
  | .list => (.list state.1.list, state)
  | .names => (.names state.1.names, state)
  | .size => (.size state.1.size, state)
  | .stats => (.stats state.1.stats, state)

/-- Operations in turn: their answers, with the table and the outside after them. -/
def performAll (w : World (StateM ω)) (state : Table Handler × ω) :
    List TableOperation → List TableAnswer × Table Handler × ω
  | [] => ([], state)
  | op :: rest =>
    let first := perform w state op
    let later := performAll w first.2 rest
    (first.1 :: later.1, later.2)

@[simp] theorem length_performAll (w : World (StateM ω)) (state : Table Handler × ω)
    (ops : List TableOperation) : (performAll w state ops).1.length = ops.length := by
  induction ops generalizing state with
  | nil => rfl
  | cons op rest ih => simp [performAll, ih]

/-! ## Calls -/

/-- What a handler makes of arguments, with the outside after it. -/
def carryOut (w : World (StateM ω)) (outside : ω) (handler : Handler) (arguments : Json) :
    Outcome × ω :=
  (((handler arguments).run w).run outside).run

section Call

variable (w : World (StateM ω)) {t : Table Handler} {name : String} (arguments : Json) (outside : ω)

theorem run_call_of_none (h : t.handler? name = none) :
    ((t.call w name arguments).run outside).run =
      ((.error (.notFound ("tool '" ++ name ++ "'")), t), outside) := by
  rw [call, h]
  rfl

theorem run_call_of_some {handler : Handler} (h : t.handler? name = some handler) :
    ((t.call w name arguments).run outside).run =
      (t.settle name (carryOut w outside handler arguments).1,
        (carryOut w outside handler arguments).2) := by
  rw [call, h]
  rfl

/-- A call books its outcome and leaves the tools. -/
theorem tools_run_call (t : Table Handler) (name : String) :
    ((t.call w name arguments).run outside).run.1.2.tools = t.tools := by
  cases h : t.handler? name with
  | none => rw [run_call_of_none w arguments outside h]
  | some handler =>
    rw [run_call_of_some w arguments outside h]
    cases (carryOut w outside handler arguments).1 <;> rfl

end Call

/-! ## What a table holds -/

/-- A table holds under each name the first entry of the name. -/
def IsMapOf (entries : List (ToolDefinition × Handler)) (t : Table Handler) : Prop :=
  ∀ name, t.tools.find? name = firstOf entries name

theorem isMapOf_empty : IsMapOf [] empty := fun _ => rfl

theorem isMapOf_replaceAll (t : Table Handler) (entries : List (ToolDefinition × Handler)) :
    (t.replaceAll entries).2.IsMapOf entries := by
  intro name
  have htools : (t.replaceAll entries).2.tools.find? name =
      ((entries.map fun e => (e.1.name, (⟨e.1, e.2⟩ : Tool Handler))).find? (·.1 == name)).map
        (·.2) := NameMap.find?_ofListFirst _ name
  rw [htools, firstOf, List.find?_map, Option.map_map]
  rfl

section IsMapOf

variable {entries : List (ToolDefinition × Handler)} {t : Table Handler}

/-- A name that is taken stays with its tool; a free name gets the new one. -/
theorem IsMapOf.register (h : t.IsMapOf entries) {d : ToolDefinition} {handler : Handler}
    {t' : Table Handler} (ht' : t.register d handler = .ok t') :
    t'.IsMapOf (entries ++ [(d, handler)]) := by
  intro name
  rw [firstOf_append, ← h name]
  rw [Table.register] at ht'
  split at ht'
  · cases ht'
  · next hfree =>
    obtain rfl := Except.ok.inj ht'
    rw [NameMap.find?_insert]
    by_cases hname : d.name = name
    · subst hname
      simp [hfree]
    · simp [hname]

theorem IsMapOf.register_taken (h : t.IsMapOf entries) {d : ToolDefinition} (handler : Handler)
    {existing : Tool Handler} (htaken : t.tools.find? d.name = some existing) :
    t.IsMapOf (entries ++ [(d, handler)]) := by
  intro name
  rw [firstOf_append, ← h name]
  by_cases hname : d.name = name
  · subst hname
    simp [htaken]
  · simp [hname]

/-- Every operation keeps a table at what was entered. -/
theorem isMapOf_perform (h : t.IsMapOf entries) (w : World (StateM ω)) (outside : ω)
    (op : TableOperation) : (perform w (t, outside) op).2.1.IsMapOf (entered entries op) := by
  cases op with
  | register d handler =>
    simp only [perform, entered]
    cases hresult : t.register d handler with
    | ok t' => exact h.register hresult
    | error error =>
      cases hfind : t.tools.find? d.name with
      | some existing => exact h.register_taken handler hfind
      | none => simp [Table.register, hfind] at hresult
  | replaceAll listed => exact isMapOf_replaceAll t listed
  | call tool arguments =>
    intro name
    rw [show (perform w (t, outside) (.call tool arguments)).2.1.tools = t.tools from
      tools_run_call w arguments outside t tool]
    exact h name
  | handler _ => exact h
  | definition _ => exact h
  | contains _ => exact h
  | list => exact h
  | names => exact h
  | size => exact h
  | stats => exact h

theorem isMapOf_performAll (h : t.IsMapOf entries) (w : World (StateM ω)) (outside : ω)
    (ops : List TableOperation) :
    (performAll w (t, outside) ops).2.1.IsMapOf (ops.foldl entered entries) := by
  induction ops generalizing t entries outside with
  | nil => exact h
  | cons op rest ih => exact ih (isMapOf_perform h w outside op) _

end IsMapOf

/-! ## What can be read off a table -/

/-- The readings of a table are those of a map from names to the first entries of the names. -/
structure ReadsAs (entries : List (ToolDefinition × Handler)) (t : Table Handler) : Prop where
  find?_eq : ∀ name, t.tools.find? name = firstOf entries name
  name_eq : ∀ name tool, t.tools.find? name = some tool → tool.definition.name = name
  handler?_eq : ∀ name, t.handler? name = (firstOf entries name).map (·.handler)
  definition?_eq : ∀ name, t.definition? name = (firstOf entries name).map (·.definition)
  contains_eq : ∀ name, t.contains name = (firstOf entries name).isSome
  names_ascending : t.names.Pairwise (· < ·)
  mem_names : ∀ name, name ∈ t.names ↔ (firstOf entries name).isSome
  list_ascending : t.list.Pairwise (·.name < ·.name)
  mem_list : ∀ d, d ∈ t.list ↔ ∃ tool, firstOf entries d.name = some tool ∧ tool.definition = d
  size_eq : t.size = (entries.map (·.1.name)).dedup.length

variable {entries : List (ToolDefinition × Handler)} {t : Table Handler}

/-- The names of the definitions are the names under which the tools are held. -/
theorem IsMapOf.names_eq (h : t.IsMapOf entries) : t.names = t.tools.keys := by
  rw [names, list, NameMap.values, NameMap.keys, List.map_map, List.map_map]
  refine List.map_congr_left fun e he => ?_
  have hfind : firstOf entries e.1 = some e.2 := (h e.1).symm.trans (NameMap.mem_entries.mp he)
  exact name_of_firstOf hfind

theorem IsMapOf.size_eq (h : t.IsMapOf entries) :
    t.size = (entries.map (·.1.name)).dedup.length := by
  have hperm : t.tools.keys.Perm (entries.map (·.1.name)).dedup := by
    refine (List.perm_ext_iff_of_nodup ?_ (List.nodup_dedup _)).mpr fun name => ?_
    · exact t.tools.pairwise_keys.imp String.ne_of_lt
    · rw [NameMap.mem_keys, h name, isSome_firstOf, List.mem_dedup]
  rw [← hperm.length_eq, NameMap.keys, List.length_map]
  rfl

theorem IsMapOf.readsAs (h : t.IsMapOf entries) : t.ReadsAs entries where
  find?_eq := h
  name_eq name tool hfind := name_of_firstOf ((h name).symm.trans hfind)
  handler?_eq name := by rw [handler?, h name]
  definition?_eq name := by rw [definition?, h name]
  contains_eq name := by rw [contains, NameMap.contains, h name]
  names_ascending := by
    rw [h.names_eq]
    exact t.tools.pairwise_keys
  mem_names name := by rw [h.names_eq, NameMap.mem_keys, h name]
  list_ascending := by
    have hnames : (t.list.map (·.name)).Pairwise (· < ·) := by
      rw [show t.list.map (·.name) = t.tools.keys from h.names_eq]
      exact t.tools.pairwise_keys
    exact List.pairwise_map.mp hnames
  mem_list d := by
    simp only [list, NameMap.values, List.map_map, List.mem_map, Function.comp_apply]
    constructor
    · rintro ⟨⟨name, tool⟩, hmem, rfl⟩
      have hfind : firstOf entries name = some tool :=
        (h name).symm.trans (NameMap.mem_entries.mp hmem)
      exact ⟨tool, by rwa [name_of_firstOf hfind], rfl⟩
    · rintro ⟨tool, hfind, rfl⟩
      exact ⟨(_, tool), NameMap.mem_entries.mpr ((h _).trans hfind), rfl⟩
  size_eq := h.size_eq

/-! ## Counts -/

section Counts

variable (w : World (StateM ω)) (state : Table Handler × ω)

/-- What one operation adds to the counts. -/
theorem counts_perform (op : TableOperation) :
    let result := perform w state op
    result.2.1.totalCalls = state.1.totalCalls + UInt64.ofNat (result.1.isCarriedOut.toNat) ∧
      result.2.1.failedCalls = state.1.failedCalls + UInt64.ofNat (result.1.isFailed.toNat) ∧
      result.2.1.replacements = state.1.replacements + UInt64.ofNat (op.isReplacement.toNat) := by
  intro result
  obtain ⟨t, outside⟩ := state
  cases op with
  | register d handler =>
    simp only [result, perform, Table.register]
    cases t.tools.find? d.name <;> simp [TableAnswer.isCarriedOut, TableAnswer.isFailed,
      TableOperation.isReplacement]
  | call tool arguments =>
    cases h : t.handler? tool with
    | none =>
      simp [result, perform, run_call_of_none w arguments outside h, TableAnswer.isCarriedOut,
        TableAnswer.isFailed, TableOperation.isReplacement]
    | some handler =>
      simp only [result, perform, run_call_of_some w arguments outside h]
      cases (carryOut w outside handler arguments).1 <;>
        simp [settle, TableAnswer.isCarriedOut, TableAnswer.isFailed, TableOperation.isReplacement]
  | _ =>
    simp [result, perform, replaceAll, TableAnswer.isCarriedOut, TableAnswer.isFailed,
      TableOperation.isReplacement]

/-- A run adds to the counts what its answers say. -/
theorem counts_performAll (ops : List TableOperation) :
    let result := performAll w state ops
    result.2.1.totalCalls =
        state.1.totalCalls + UInt64.ofNat (result.1.countP (·.isCarriedOut)) ∧
      result.2.1.failedCalls = state.1.failedCalls + UInt64.ofNat (result.1.countP (·.isFailed)) ∧
      result.2.1.replacements =
        state.1.replacements + UInt64.ofNat (ops.countP (·.isReplacement)) := by
  induction ops generalizing state with
  | nil => simp [performAll]
  | cons op rest ih =>
    obtain ⟨htotal, hfailed, hreplacements⟩ := counts_perform w state op
    obtain ⟨htotal', hfailed', hreplacements'⟩ := ih (perform w state op).2
    have hcons : ∀ {α : Type} (p : α → Bool) (x : α) (xs : List α),
        (x :: xs).countP p = (p x).toNat + xs.countP p := by
      intro α p x xs
      rw [List.countP_cons, Nat.add_comm]
      cases p x <;> rfl
    simp only [performAll, hcons, UInt64.ofNat_add, ← UInt64.add_assoc]
    refine ⟨?_, ?_, ?_⟩
    · rw [htotal', htotal]
    · rw [hfailed', hfailed]
    · rw [hreplacements', hreplacements]

end Counts

/-! ## Any run -/

/-- The error of a registration under a name that is taken. -/
def takenError (name owner : String) : Error :=
  .invalidArgument ("tool '" ++ name ++ "' already registered by service '" ++ owner ++ "'")

theorem perform_register_of_some (w : World (StateM ω)) (outside : ω) {d : ToolDefinition}
    {existing : Tool Handler} (h : t.tools.find? d.name = some existing) (handler : Handler) :
    perform w (t, outside) (.register d handler) =
      (.registered (.error (takenError d.name existing.definition.service)), t, outside) := by
  simp only [perform, register, h]
  rfl

theorem perform_register_of_none (w : World (StateM ω)) (outside : ω) {d : ToolDefinition}
    (h : t.tools.find? d.name = none) (handler : Handler) :
    (perform w (t, outside) (.register d handler)).1 = .registered (.ok ()) := by
  simp only [perform, register, h]

/-- A listing has as many tools as it has different names. -/
theorem perform_replaceAll (w : World (StateM ω)) (outside : ω)
    (listed : List (ToolDefinition × Handler)) :
    (perform w (t, outside) (.replaceAll listed)).1 =
      .replaced (listed.map (·.1.name)).dedup.length :=
  congrArg TableAnswer.replaced (isMapOf_replaceAll t listed).size_eq

theorem perform_call_of_none (w : World (StateM ω)) (outside : ω) {name : String}
    (h : t.tools.find? name = none) (arguments : Json) :
    perform w (t, outside) (.call name arguments) =
      (.called (.error (.notFound ("tool '" ++ name ++ "'"))), t, outside) := by
  have hnone : t.handler? name = none := by rw [handler?, h]; rfl
  rw [perform, run_call_of_none w arguments outside hnone]

theorem perform_call_of_some (w : World (StateM ω)) (outside : ω) {name : String}
    {tool : Tool Handler} (h : t.tools.find? name = some tool) (arguments : Json) :
    perform w (t, outside) (.call name arguments) =
      match carryOut w outside tool.handler arguments with
      | (.ok v, outside') =>
        (.called (.ok v), { t with totalCalls := t.totalCalls + 1 }, outside')
      | (.error f, outside') =>
        (.called (.error (.backend (name ++ ": " ++ f.text))),
          { t with totalCalls := t.totalCalls + 1, failedCalls := t.failedCalls + 1 }, outside') := by
  have hsome : t.handler? name = some tool.handler := by rw [handler?, h]; rfl
  rw [perform, run_call_of_some w arguments outside hsome]
  rcases carryOut w outside tool.handler arguments with ⟨outcome, outside'⟩
  cases outcome <;> rfl

/-- After fewer than 2^64 operations a table reads as the map from names to the first tools that were
registered or listed under them since the last replacement. To register under a taken name is an
error that names the owner and changes nothing; a replacement says how many different names it
lists. A call of an absent name is not found and changes nothing; any other call is booked, and as a
failure exactly if the handler fails, and is answered by what the handler gives. The counts are
those of the answers. -/
theorem holds_first_entered (w : World (StateM ω)) (outside : ω) (ops : List TableOperation)
    (hops : ops.length < 2 ^ 64) :
    let result := performAll w (empty, outside) ops
    let t := result.2.1
    let held := firstOf (ops.foldl entered [])
    t.ReadsAs (ops.foldl entered []) ∧
      (∀ (d : ToolDefinition) (handler : Handler),
        (∀ existing, held d.name = some existing →
          perform w result.2 (.register d handler) =
            (.registered (.error (takenError d.name existing.definition.service)), result.2)) ∧
        (held d.name = none →
          (perform w result.2 (.register d handler)).1 = .registered (.ok ()))) ∧
      (∀ listed, (perform w result.2 (.replaceAll listed)).1 =
        .replaced (listed.map (·.1.name)).dedup.length) ∧
      (∀ (name : String) (arguments : Json),
        (held name = none ↔ ∃ message,
          (perform w result.2 (.call name arguments)).1 = .called (.error (.notFound message))) ∧
        (held name = none → perform w result.2 (.call name arguments) =
          (.called (.error (.notFound ("tool '" ++ name ++ "'"))), result.2)) ∧
        ∀ tool, held name = some tool → perform w result.2 (.call name arguments) =
          match carryOut w result.2.2 tool.handler arguments with
          | (.ok v, outside') =>
            (.called (.ok v), { t with totalCalls := t.totalCalls + 1 }, outside')
          | (.error f, outside') =>
            (.called (.error (.backend (name ++ ": " ++ f.text))),
              { t with totalCalls := t.totalCalls + 1, failedCalls := t.failedCalls + 1 },
              outside')) ∧
      t.stats.registered = t.size ∧
      t.stats.totalCalls.toNat = result.1.countP (·.isCarriedOut) ∧
      t.stats.failedCalls.toNat = result.1.countP (·.isFailed) ∧
      t.stats.failedCalls ≤ t.stats.totalCalls ∧
      t.stats.replacements.toNat = ops.countP (·.isReplacement) := by
  intro result t held
  have hmap : t.IsMapOf (ops.foldl entered []) := isMapOf_performAll isMapOf_empty w outside ops
  have hheld : ∀ name, t.tools.find? name = held name := hmap
  obtain ⟨htotal, hfailed, hreplacements⟩ := counts_performAll w (empty, outside) ops
  -- no count goes beyond the number of operations, so no word wraps round
  have hword : ∀ {α : Type} (p : α → Bool) (xs : List α), xs.length = ops.length →
      (0 + UInt64.ofNat (xs.countP p)).toNat = xs.countP p := by
    intro α p xs hlength
    rw [UInt64.zero_add]
    exact UInt64.toNat_ofNat_of_lt' (Nat.lt_of_le_of_lt (hlength ▸ xs.countP_le_length) hops)
  have hlength : result.1.length = ops.length := length_performAll w (empty, outside) ops
  have htotal' : t.totalCalls.toNat = result.1.countP (·.isCarriedOut) :=
    (congrArg UInt64.toNat htotal).trans (hword _ _ hlength)
  have hfailed' : t.failedCalls.toNat = result.1.countP (·.isFailed) :=
    (congrArg UInt64.toNat hfailed).trans (hword _ _ hlength)
  have hreplacements' : t.replacements.toNat = ops.countP (·.isReplacement) :=
    (congrArg UInt64.toNat hreplacements).trans (hword _ _ rfl)
  have hcarried : ∀ a : TableAnswer, a.isFailed = true → a.isCarriedOut = true := by
    intro a ha
    unfold TableAnswer.isCarriedOut
    split
    · rfl
    · exact ha
  have hle : t.failedCalls ≤ t.totalCalls := by
    rw [UInt64.le_iff_toNat_le, hfailed', htotal']
    exact List.countP_mono_left fun a _ => hcarried a
  refine ⟨hmap.readsAs, fun d handler => ⟨fun existing h => ?_, fun h => ?_⟩,
    perform_replaceAll w _, fun name arguments => ⟨⟨fun h => ?_, ?_⟩, fun h => ?_, fun tool h => ?_⟩,
    rfl, htotal', hfailed', hle, hreplacements'⟩
  · exact perform_register_of_some w _ ((hheld _).trans h) handler
  · exact perform_register_of_none w _ ((hheld _).trans h) handler
  · exact ⟨_, congrArg Prod.fst (perform_call_of_none w _ ((hheld _).trans h) arguments)⟩
  · rintro ⟨message, hanswer⟩
    cases hname : held name with
    | none => rfl
    | some tool =>
      have hcall : perform w result.2 (.call name arguments) = _ :=
        perform_call_of_some w result.2.2 ((hheld _).trans hname) arguments
      rw [hcall] at hanswer
      split at hanswer <;> cases hanswer
  · exact perform_call_of_none w _ ((hheld _).trans h) arguments
  · exact perform_call_of_some w _ ((hheld _).trans h) arguments

/-- A name is refused, a listing has a name twice, and of three calls one fails and one finds no
tool. -/
theorem holds_first_of_repeated_names :
    let w : World (StateM Unit) := ⟨fun _ => pure (.refused ""), pure 0, fun _ => pure ()⟩
    let tool (name service : String) : ToolDefinition := ⟨name, "", .null, service⟩
    let echo : Handler := fun arguments => .done (.ok arguments)
    let fail : Handler := fun _ => .done (.error (.of "boom"))
    let ops : List TableOperation :=
      [.register (tool "x" "s") echo, .register (tool "x" "t") fail,
        .replaceAll [(tool "b" "s", fail), (tool "a" "s", echo), (tool "a" "t", fail)],
        .call "a" .null, .call "b" .null, .call "x" .null]
    let result := performAll w (empty, ()) ops
    result.2.1.ReadsAs (ops.foldl entered []) ∧
      (perform w result.2 (.register (tool "a" "u") fail)).1 =
        .registered (.error (takenError "a" "s")) ∧
      result.2.1.size = 2 ∧ result.2.1.stats.totalCalls.toNat = 2 ∧
      result.2.1.stats.failedCalls.toNat = 1 ∧ result.2.1.stats.replacements.toNat = 1 := by
  intro w tool echo fail ops result
  obtain ⟨hreads, hregister, -, -, -, htotal, hfailed, -, hreplacements⟩ :=
    holds_first_entered w () ops (by decide)
  have hsize : result.2.1.size = 2 := by
    rw [hreads.size_eq]
    decide
  refine ⟨hreads, congrArg Prod.fst ((hregister (tool "a" "u") fail).1 ⟨tool "a" "s", echo⟩ rfl),
    hsize, htotal.trans ?_, hfailed.trans ?_, hreplacements.trans ?_⟩
  · decide
  · decide
  · decide

end Table

end Switchboard
