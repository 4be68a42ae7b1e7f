import Switchboard.Proofs.JsonText
import Switchboard.Proofs.Serving

/-!
# One answer for each line

What a client sees of a run over a text: one line of output for every line of input that is not
blank, in order (`one_answer_per_line`). A line of output is one JSON object, whatever the answer
holds, because a compact text has no raw line break in it and is read as what it consists of. The
identifier that is answered is the one the request was given with, or `null`.
-/

namespace Switchboard

/-! ## The identifier of a request -/

namespace Document

/-- A field is the one member of its name. -/
theorem field?_named {room : Nat} {members : List (List Json.Glyph × Json.Written)}
    {named : List (String × Json.Placed)} {name : String} {x : Option Json.Placed}
    (hnamed : named? (members.map fun e =>
      ((⟨room, .string e.1⟩ : Json.Placed), (⟨room, e.2⟩ : Json.Placed))) = some named)
    (hfield : field? named name = some x) :
    x = (members.find? fun e => Json.quotedText? e.1 == some name).map fun e => ⟨room, e.2⟩ := by
  have hfilter : named.filter (fun e => e.1 == name) =
      (members.filter fun e => Json.quotedText? e.1 == some name).map fun e =>
        (name, (⟨room, e.2⟩ : Json.Placed)) := by
    -- the names are unescaped one by one, so the two selections go through the members alike
    clear hfield
    induction members generalizing named with
    | nil =>
      obtain rfl := Option.some.inj hnamed
      rfl
    | cons e members ih =>
      obtain ⟨key, hkey, hmore⟩ := Option.bind_eq_some_iff.mp hnamed
      obtain ⟨rest, hrest, heq⟩ := Option.bind_eq_some_iff.mp hmore
      obtain rfl := Option.some.inj heq
      have hkey' : Json.quotedText? e.1 = some key := hkey
      rw [List.filter_cons, List.filter_cons, ih hrest, hkey']
      by_cases hname : key = name
      · subst hname
        simp
      · simp [hname]
  rw [field?, hfilter] at hfield
  rw [← List.head?_filter]
  generalize members.filter _ = found at hfield
  match found with
  | [] => exact (Option.some.inj hfield).symm
  | [e] => exact (Option.some.inj hfield).symm
  | e :: e' :: rest => cases hfield

end Document

namespace Request

/-- The part of a text that gives the identifier of a request: the member of this name, or the first
item of a list of fields. -/
def idNode? : Json.Written → Option Json.Written
  | .object members => (members.find? fun e => Json.quotedText? e.1 == some "id").map (·.2)
  | .array items => items.head?
  | _ => none

/-- The fields of a request are the first three of a list, or the members of these names. -/
theorem id_of_record? {w : Json.Written} {id tool arguments : Option Json.Placed}
    (h : Document.record? ["id", "tool", "arguments"] (Json.Placed.root w) =
      some [id, tool, arguments]) :
    id = (idNode? w).map fun node => ⟨Json.maxNesting - 1, node⟩ := by
  cases w with
  | object members =>
    obtain ⟨named, hnamed, hfields⟩ := Option.bind_eq_some_iff.mp h
    obtain ⟨x, hx, hrest⟩ := Option.bind_eq_some_iff.mp hfields
    obtain ⟨xs, hxs, heq⟩ := Option.bind_eq_some_iff.mp hrest
    obtain ⟨rfl, rfl⟩ := List.cons.inj (Option.some.inj heq)
    rw [Document.field?_named hnamed hx, idNode?, Option.map_map]
    rfl
  | array items =>
    let place : Json.Written → Json.Placed := fun node => ⟨Json.maxNesting - 1, node⟩
    have hrecord : (if (items.map place).length ≤ 3 then
        some ((items.map place).map some ++ List.replicate (3 - (items.map place).length) none)
      else none) = some [id, tool, arguments] := h
    split at hrecord
    · cases items with
      | nil => exact (List.cons.inj (Option.some.inj hrecord)).1.symm
      | cons node items => exact (List.cons.inj (Option.some.inj hrecord)).1.symm
    · cases hrecord
  | null => cases h
  | bool b => cases h
  | number n => cases h
  | string glyphs => cases h

theorem read?_eq_some {text : String} {r : Request} (h : read? text = some r) :
    ∃ w, Json.Written.read? text.toList = some w ∧ (idNode? w = none → r.id = .null) ∧
      ∀ node, idNode? w = some node → node.value? (Json.maxNesting - 1) = some r.id := by
  obtain ⟨w, hw, h⟩ := Option.bind_eq_some_iff.mp h
  obtain ⟨fields, hfields, h⟩ := Option.bind_eq_some_iff.mp h
  refine ⟨w, hw, ?_⟩
  split at h
  · next id tool arguments heq =>
    have hid := id_of_record? hfields
    obtain ⟨value, hvalue, h⟩ := Option.bind_eq_some_iff.mp h
    obtain ⟨name, -, h⟩ := Option.bind_eq_some_iff.mp h
    obtain ⟨values, -, h⟩ := Option.bind_eq_some_iff.mp h
    obtain rfl := Option.some.inj h
    rw [hid] at hvalue
    constructor
    · intro hnone
      rw [hnone] at hvalue
      exact (Option.some.inj hvalue).symm
    · intro node hnode
      rw [hnode] at hvalue
      exact hvalue
  · cases h

end Request

/-! ## The text of an answer -/

namespace Response

/-- An answer is written as an object of two members, the identifier and the result or the error. -/
theorem read?_compact_toJson (r : Response) :
    ∃ key value, Json.Written.read? r.toJson.compact =
        some (.object [("id".toList.map .char, r.id.written), (key.toList.map .char, value)]) ∧
      ((key = "result" ∧ ∃ v, r.result = .ok v ∧ value = v.written) ∨
        (key = "error" ∧ ∃ message, r.result = .error message ∧
          value = (Json.string message).written)) := by
  have hread := Json.read?_compact r.toJson
  have hid : "id".toList.map Json.glyph = "id".toList.map .char := by decide
  cases hresult : r.result with
  | ok v =>
    refine ⟨"result", v.written, ?_, .inl ⟨rfl, v, rfl, rfl⟩⟩
    have hkey : "result".toList.map Json.glyph = "result".toList.map .char := by decide
    rw [hread, toJson, hresult]
    simp only [Json.written, Json.writtenMembers, hid, hkey]
  | error message =>
    refine ⟨"error", (Json.string message).written, ?_, .inr ⟨rfl, message, rfl, rfl⟩⟩
    have hkey : "error".toList.map Json.glyph = "error".toList.map .char := by decide
    rw [hread, toJson, hresult]
    simp only [Json.written, Json.writtenMembers, hid, hkey]

end Response

namespace Session

variable {σ ω : Type} [Provider σ]

/-- The output has one line for each answer. -/
theorem splitOn_written (responses : List Response) :
    (written responses).toList.splitOn '\n' = responses.map (·.toJson.compact) ++ [[]] := by
  induction responses with
  | nil => rfl
  | cons r rest ih =>
    have htext : (written (r :: rest)).toList =
        r.toJson.compact ++ '\n' :: (written rest).toList := by
      simp [written, Response.line, Json.toText, String.toList_append]
    have hline : ('\n' :: (written rest).toList).splitOn '\n' =
        [] :: (written rest).toList.splitOn '\n' := by
      rw [List.splitOn_cons_eq_if_modifyHead]
      rfl
    rw [htext, splitOn_append_of_not_mem (Json.newLine_not_mem_compact _), hline, ih]
    simp

/-! ## The lines of a text -/

/-- The octets of a text fall into the lines of the text; one that is missing is blank. -/
theorem lines_encode (cs : List Char) :
    ∃ texts, lines (Text.Utf8.encode cs) = texts.map Text.Utf8.encode ∧
      asked texts = asked (cs.splitOn '\n') := by
  rw [lines, Text.Utf8.splitOn_encode]
  generalize cs.splitOn '\n' = texts
  split
  · next hlast =>
    rw [List.getLast?_map, Option.map_eq_some_iff] at hlast
    obtain ⟨last, hmem, hempty⟩ := hlast
    have hnil : last = [] := by
      have hdecode := Text.Utf8.decode?_encode last
      rw [hempty] at hdecode
      exact (Option.some.inj hdecode).symm
    obtain ⟨before, rfl⟩ := List.getLast?_eq_some_iff.mp hmem
    subst hnil
    refine ⟨before, by simp, ?_⟩
    simp [asked, Text.trimmed, Text.trim, Text.trimEnd]
  · exact ⟨texts, rfl, rfl⟩

/-- An answer has the identifier of its request. -/
theorem respond_id (w : World (StateM ω)) (state : Session σ × ω) (r : Request) :
    (respond w state r).1.id = r.id := by
  rw [respond, handle]
  cases Reserved.named? r.tool with
  | none => rfl
  | some reserved => rfl

/-- A run over a text comes to its end and writes one line for every line of the text that is not
blank, in order, each one JSON object with the identifier and either the result or the error. A
request is answered in the state that the requests before it leave, with its own identifier, which
is `null` where it has none; any other line is answered as malformed, without identifier, and leaves
the session and the outside as they are. -/
theorem one_answer_per_line (w : World (StateM ω)) (s : Session σ) (outside : ω)
    (text : String) :
    let questions := asked (text.toList.splitOn '\n')
    let result := ((s.answerAll w (lines (Text.Utf8.encode text.toList))).run outside).run
    let before (i : Nat) := after w (s, outside) ((questions.take i).filterMap Request.read?)
    result.1.2.1 = .complete ∧
      (written result.1.1).toList.splitOn '\n' = result.1.1.map (·.toJson.compact) ++ [[]] ∧
      result.1.1.length = questions.length ∧
      (result.1.2.2, result.2) = before questions.length ∧
      ∀ (i : Nat) (line : String) (r : Response), questions[i]? = some line →
        result.1.1[i]? = some r →
        (∃ key value, Json.Written.read? r.toJson.compact =
            some (.object [("id".toList.map .char, r.id.written),
              (key.toList.map .char, value)]) ∧
          ((key = "result" ∧ ∃ v, r.result = .ok v ∧ value = v.written) ∨
            (key = "error" ∧ ∃ message, r.result = .error message ∧
              value = (Json.string message).written))) ∧
        (∀ request, Request.read? line = some request →
          respond w (before i) request = (r, before (i + 1)) ∧ r.id = request.id ∧
          ∃ doc, Json.Written.read? line.toList = some doc ∧
            (Request.idNode? doc = none → r.id = .null) ∧
            ∀ node, Request.idNode? doc = some node →
              node.value? (Json.maxNesting - 1) = some r.id) ∧
        (Request.read? line = none →
          before (i + 1) = before i ∧ r.id = .null ∧
            ∃ detail, r.result = .error ("malformed request: " ++ detail)) := by
  intro questions result before
  obtain ⟨texts, hlines, hasked⟩ := lines_encode text.toList
  have hrun : result = _ := run_answerAll w (s, outside) (lines (Text.Utf8.encode text.toList))
  rw [hlines, readable_map_encode, hasked] at hrun
  have hnext : ∀ {i line}, questions[i]? = some line →
      before (i + 1) = after w (before i) (Request.read? line).toList :=
    fun hline => after_take_succ hline w (s, outside)
  refine ⟨?_, splitOn_written _, ?_, ?_, fun i line r hline hr => ⟨?_, ?_, ?_⟩⟩
  · rw [hrun]
    simp
  · rw [hrun, length_replies]
  · rw [hrun]
    simp only [before, List.take_length, replies_snd, questions]
  · exact r.read?_compact_toJson
  · intro request hread
    have hreply : respond w (before i) request = (r, before (i + 1)) := by
      rw [hrun, getElem?_replies, hline, Option.map_some, reply, hread] at hr
      rw [hnext hline, hread, ← Option.some.inj hr]
      rfl
    have hid : r.id = request.id := by
      have hrespond := respond_id w (before i) request
      rwa [hreply] at hrespond
    rw [hid]
    exact ⟨hreply, rfl, Request.read?_eq_some hread⟩
  · intro hread
    rw [hrun, getElem?_replies, hline, Option.map_some, reply, hread] at hr
    obtain rfl := Option.some.inj hr
    exact ⟨by rw [hnext hline, hread]; rfl, rfl, "the line is no request", rfl⟩

/-- A request between blanks, a blank line, and a line that breaks off. -/
theorem answers_request_and_fragment :
    let w : World (StateM Unit) := ⟨fun _ => pure (.refused ""), pure 0, fun _ => pure ()⟩
    let s : Session Service := ⟨.ofCatalog ⟨⟨"core", .utilities false⟩, []⟩, .empty, 50⟩
    let text := " \x7b\"id\":\"a\",\"tool\":\"tools/disabled\"\x7d\r\n\n\x7b"
    let result := ((s.answerAll w (lines (Text.Utf8.encode text.toList))).run ()).run
    ∃ first second, result.1.1 = [first, second] ∧ first.id.asString? = some "a" ∧
      second.id = .null := by
  intro w s text result
  have hquestions : asked (text.toList.splitOn '\n') =
      ["\x7b\"id\":\"a\",\"tool\":\"tools/disabled\"\x7d", "\x7b"] := by decide
  obtain ⟨-, -, hlength, -, hanswers⟩ := one_answer_per_line w s () text
  rw [hquestions] at hlength hanswers
  obtain ⟨first, second, hresult⟩ := List.length_eq_two.mp hlength
  have hfields : ((Request.read? "\x7b\"id\":\"a\",\"tool\":\"tools/disabled\"\x7d").bind
      fun request => request.id.asString?) = some "a" := by decide +kernel
  obtain ⟨request, hrequest, hid⟩ := Option.bind_eq_some_iff.mp hfields
  have hfragment : Request.read? "\x7b" = none := by decide
  have hfirst := hanswers 0 _ first rfl (by rw [hresult]; rfl)
  have hsecond := hanswers 1 _ second rfl (by rw [hresult]; rfl)
  refine ⟨first, second, hresult, ?_, (hsecond.2.2 hfragment).2.1⟩
  rw [(hfirst.2.1 request hrequest).2.1, hid]

end Session

end Switchboard
