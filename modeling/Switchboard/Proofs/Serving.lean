import Switchboard.Proofs.Utf8
import Switchboard.Service.Basic
import Switchboard.Session

/-!
# Serving an input

The outside of a session is any state `ω` that the operations of a `World` may read and change.
`respond` is one request answered there, `after` what a list of requests leaves, and `reply` one
line. An input falls into the lines before the first one that is no text, and the rest;
`run_answerAll` says that the lines before are answered one by one, each in the state that the
requests before it leave, and that the rest is not looked at.

A line that is no text is therefore the only thing that ends a run early.
-/

namespace Switchboard.Session

variable {σ ω : Type} [Provider σ]

/-! ## Requests in turn -/

/-- The answer to a request, with the session and the outside after it. -/
def respond (w : World (StateM ω)) (state : Session σ × ω) (r : Request) :
    Response × Session σ × ω :=
  let result := ((state.1.handle w r).run state.2).run
  (result.1.1, result.1.2, result.2)

/-- What requests leave, answered in turn. -/
def after (w : World (StateM ω)) (state : Session σ × ω) (requests : List Request) :
    Session σ × ω :=
  requests.foldl (fun state r => (respond w state r).2) state

@[simp] theorem after_nil (w : World (StateM ω)) (state : Session σ × ω) :
    after w state [] = state := rfl

@[simp] theorem after_cons (w : World (StateM ω)) (state : Session σ × ω) (r : Request)
    (requests : List Request) :
    after w state (r :: requests) = after w (respond w state r).2 requests := rfl

theorem after_append (w : World (StateM ω)) (state : Session σ × ω)
    (requests later : List Request) :
    after w state (requests ++ later) = after w (after w state requests) later := by
  rw [after, List.foldl_append]
  rfl

/-! ## Lines in turn -/

/-- The answer to a line that is not blank, with the session and the outside after it. -/
def reply (w : World (StateM ω)) (state : Session σ × ω) (line : String) :
    Response × Session σ × ω :=
  match Request.read? line with
  | none => (malformed, state)
  | some r => respond w state r

/-- The answers to lines, with the session and the outside after them. -/
def replies (w : World (StateM ω)) (state : Session σ × ω) :
    List String → List Response × Session σ × ω
  | [] => ([], state)
  | line :: rest =>
    let first := reply w state line
    let later := replies w first.2 rest
    (first.1 :: later.1, later.2)

/-- The lines that ask for an answer, without the blanks around them. -/
def asked (lines : List (List Char)) : List String :=
  (lines.map fun cs => Text.trimmed (String.ofList cs)).filter (· ≠ "")

theorem asked_cons (cs : List Char) (rest : List (List Char)) :
    asked (cs :: rest) =
      (if Text.trimmed (String.ofList cs) = "" then [] else [Text.trimmed (String.ofList cs)]) ++
        asked rest := by
  rw [asked, List.map_cons, List.filter_cons]
  by_cases h : Text.trimmed (String.ofList cs) = "" <;> simp [h, asked]

theorem reply_snd (w : World (StateM ω)) (state : Session σ × ω) (line : String) :
    (reply w state line).2 = after w state (Request.read? line).toList := by
  rw [reply]
  cases Request.read? line with
  | none => rfl
  | some r => rfl

@[simp] theorem length_replies (w : World (StateM ω)) (state : Session σ × ω)
    (lines : List String) : (replies w state lines).1.length = lines.length := by
  induction lines generalizing state with
  | nil => rfl
  | cons line rest ih => simp [replies, ih]

theorem replies_snd (w : World (StateM ω)) (state : Session σ × ω) (lines : List String) :
    (replies w state lines).2 = after w state (lines.filterMap Request.read?) := by
  induction lines generalizing state with
  | nil => rfl
  | cons line rest ih =>
    rw [replies, ih, reply_snd, List.filterMap_cons]
    cases Request.read? line with
    | none => rfl
    | some r => rfl

/-- Every line is answered in the state that the requests before it leave. -/
theorem getElem?_replies (w : World (StateM ω)) (state : Session σ × ω) (lines : List String)
    (i : Nat) :
    (replies w state lines).1[i]? = lines[i]?.map fun line =>
      (reply w (after w state ((lines.take i).filterMap Request.read?)) line).1 := by
  induction lines generalizing state i with
  | nil => rfl
  | cons line rest ih =>
    cases i with
    | zero => rfl
    | succ i =>
      rw [replies, List.getElem?_cons_succ, List.getElem?_cons_succ, ih, reply_snd,
        List.take_succ_cons, List.filterMap_cons]
      cases Request.read? line with
      | none => rfl
      | some r => rfl

/-- One more line is one more request, or none. -/
theorem after_take_succ {lines : List String} {line : String} {i : Nat} (h : lines[i]? = some line)
    (w : World (StateM ω)) (state : Session σ × ω) :
    after w state ((lines.take (i + 1)).filterMap Request.read?) =
      after w (after w state ((lines.take i).filterMap Request.read?))
        (Request.read? line).toList := by
  have hread : [line].filterMap Request.read? = (Request.read? line).toList := by
    cases hline : Request.read? line <;> simp [hline]
  rw [List.take_add_one, h, Option.toList_some, List.filterMap_append, after_append, hread]

/-! ## A whole input -/

/-- The texts of the lines before the first one that is no text. -/
def readable : List (List UInt8) → List (List Char)
  | [] => []
  | line :: rest =>
    match Text.Utf8.decode? line with
    | none => []
    | some cs => cs :: readable rest

theorem take_readable (lines : List (List UInt8)) :
    lines.take (readable lines).length = (readable lines).map Text.Utf8.encode := by
  induction lines with
  | nil => rfl
  | cons line rest ih =>
    rw [readable]
    cases hline : Text.Utf8.decode? line with
    | none => rfl
    | some cs =>
      rw [List.length_cons, List.take_succ_cons, List.map_cons, ih,
        Text.Utf8.decode?_eq_some_iff.mp hline]

theorem decode?_getElem?_readable {lines : List (List UInt8)} {line : List UInt8}
    (h : lines[(readable lines).length]? = some line) : Text.Utf8.decode? line = none := by
  induction lines with
  | nil => cases h
  | cons first rest ih =>
    rw [readable] at h
    cases hfirst : Text.Utf8.decode? first with
    | none =>
      rw [hfirst] at h
      obtain rfl : first = line := Option.some.inj h
      exact hfirst
    | some cs =>
      rw [hfirst] at h
      exact ih h

theorem length_readable_eq_iff {lines : List (List UInt8)} :
    (readable lines).length = lines.length ↔ ∀ line ∈ lines, ∃ cs, line = Text.Utf8.encode cs := by
  constructor
  · intro h line hline
    have hall : lines = (readable lines).map Text.Utf8.encode := by
      rw [← take_readable, h, List.take_length]
    rw [hall] at hline
    obtain ⟨cs, -, rfl⟩ := List.mem_map.mp hline
    exact ⟨cs, rfl⟩
  · intro h
    induction lines with
    | nil => rfl
    | cons line rest ih =>
      obtain ⟨cs, rfl⟩ := h line List.mem_cons_self
      rw [readable, Text.Utf8.decode?_encode, List.length_cons, List.length_cons,
        ih fun line hline => h line (List.mem_cons_of_mem _ hline)]

/-- Texts are read as they are. -/
theorem readable_map_encode (texts : List (List Char)) :
    readable (texts.map Text.Utf8.encode) = texts := by
  induction texts with
  | nil => rfl
  | cons cs rest ih => rw [List.map_cons, readable, Text.Utf8.decode?_encode, ih]

theorem run_answer (w : World (StateM ω)) (state : Session σ × ω) (line : String) :
    ((state.1.answer w line).run state.2).run =
      if Text.trimmed line = "" then ((none, state.1), state.2)
      else
        ((some (reply w state (Text.trimmed line)).1, (reply w state (Text.trimmed line)).2.1),
          (reply w state (Text.trimmed line)).2.2) := by
  rw [answer]
  split
  · rfl
  · rw [reply]
    cases Request.read? (Text.trimmed line) with
    | none => rfl
    | some r => rfl

/-- The lines before the first one that is no text are answered, and no other. -/
theorem run_answerAll (w : World (StateM ω)) (state : Session σ × ω) (lines : List (List UInt8)) :
    ((state.1.answerAll w lines).run state.2).run =
      (((replies w state (asked (readable lines))).1,
        if (readable lines).length = lines.length then .complete else .unreadable,
        (replies w state (asked (readable lines))).2.1),
        (replies w state (asked (readable lines))).2.2) := by
  induction lines generalizing state with
  | nil => rfl
  | cons line rest ih =>
    cases hline : Text.Utf8.decode? line with
    | none =>
      rw [answerAll, readable, hline]
      rfl
    | some cs =>
      have hanswer := run_answer w state (String.ofList cs)
      rw [answerAll, readable, hline]
      simp only [StateT.run_bind, Id.run_bind, hanswer, asked_cons, List.length_cons,
        Nat.add_right_cancel_iff]
      split
      · rw [ih]
        rfl
      · rw [ih]
        rfl

/-- Of any octets, the lines before the first one that is no text are answered in turn: as malformed
if they are no request, and else in the state that the requests before them leave. The run ends as
complete exactly if every line is a text. -/
theorem answers_until_unreadable (w : World (StateM ω)) (s : Session σ) (outside : ω)
    (input : List UInt8) :
    let texts := readable (lines input)
    let result := ((s.answerAll w (lines input)).run outside).run
    (lines input).take texts.length = texts.map Text.Utf8.encode ∧
      (∀ line, (lines input)[texts.length]? = some line → ∀ cs, line ≠ Text.Utf8.encode cs) ∧
      (result.1.2.1 = .complete ↔ ∀ line ∈ lines input, ∃ cs, line = Text.Utf8.encode cs) ∧
      result.1.1.length = (asked texts).length ∧
      ∀ (i : Nat) (line : String), (asked texts)[i]? = some line →
        (Request.read? line = none → result.1.1[i]? = some malformed) ∧
        ∀ r, Request.read? line = some r → result.1.1[i]? = some (respond w
          (after w (s, outside) (((asked texts).take i).filterMap Request.read?)) r).1 := by
  intro texts result
  have hrun : result = _ := run_answerAll w (s, outside) (lines input)
  refine ⟨take_readable _, fun line hline cs heq => ?_, ?_, ?_, fun i line hline => ⟨?_, ?_⟩⟩
  · have hnone := decode?_getElem?_readable hline
    rw [heq, Text.Utf8.decode?_encode] at hnone
    cases hnone
  · rw [hrun, ← length_readable_eq_iff]
    simp
  · rw [hrun, length_replies]
  · intro hread
    rw [hrun, getElem?_replies, hline, Option.map_some, reply, hread]
  · intro r hread
    rw [hrun, getElem?_replies, hline, Option.map_some, reply, hread]

/-- A line that is no request, behind a blank one. -/
theorem answers_malformed_line :
    let w : World (StateM Unit) := ⟨fun _ => pure (.refused ""), pure 0, fun _ => pure ()⟩
    let s : Session Service := ⟨.ofCatalog ⟨⟨"core", .utilities false⟩, []⟩, .empty, 50⟩
    ((s.answerAll w (lines [10, 0x7B, 10, 0xFF])).run ()).run.1.1[0]? = some malformed := by
  intro w s
  have htexts : readable (lines [10, 0x7B, 10, 0xFF]) = [[], ['{']] := by decide
  have hanswers := answers_until_unreadable w s () [10, 0x7B, 10, 0xFF]
  simp only [htexts] at hanswers
  exact (hanswers.2.2.2.2 0 "\x7b" (by decide)).1 (by decide)

/-- A request behind a line that is no text gets no answer, and the run ends there. -/
theorem unanswered_after_unreadable :
    ¬ ∀ (w : World (StateM Unit)) (s : Session Service) (before : List UInt8) (line : List Char),
      '\n' ∉ line → Text.trimmed (String.ofList line) ≠ "" →
      let result :=
        ((s.answerAll w (lines (before ++ 10 :: Text.Utf8.encode line))).run ()).run
      result.1.2.1 = .complete ∧ result.1.1 ≠ [] := by
  intro hclaim
  let w : World (StateM Unit) := ⟨fun _ => pure (.refused ""), pure 0, fun _ => pure ()⟩
  let s : Session Service := ⟨.ofCatalog ⟨⟨"core", .utilities false⟩, []⟩, .empty, 50⟩
  let request : List Char := "\x7b\"id\":1,\"tool\":\"tools/disabled\"\x7d".toList
  have hlines : lines ([0xFF] ++ 10 :: Text.Utf8.encode request) =
      [[0xFF], Text.Utf8.encode request] := by decide
  have hrun := run_answerAll w (s, ()) [[0xFF], Text.Utf8.encode request]
  have hcomplete := (hclaim w s [0xFF] request (by decide) (by decide)).1
  rw [hlines, hrun] at hcomplete
  cases hcomplete

end Switchboard.Session
