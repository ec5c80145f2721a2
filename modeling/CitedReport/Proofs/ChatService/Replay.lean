import CitedReport.ChatService.Wire
import CitedReport.Proofs.Json.Printing

/-!
# Replaying a turn of the model

What a model said is written in the next request, and a service may send it back. `IsTurn` says
which contents an answer can carry: a text, or calls with or without a text in front. A turn is read
from a message in two parts, its text and its calls, and neither depends on the order of the
members, so that an answer with the written turn for its message is read as that very turn
(`readAnswer_replays`): no call is lost on the way and none changes its place. The arguments of a
call are written as JSON text. That this text is read as the arguments is a condition;
`Json.Sorted.parse?_text` says which arguments meet it.
-/

namespace CitedReport.ChatService

open Json

/-! ## What an answer can carry -/

/-- The contents of answers: a text, or calls behind a text, if there is one, that is not empty. -/
inductive IsTurn : Content → Prop
  /-- A text, which may be empty. -/
  | text (text : String) : IsTurn (.text text)
  /-- At least one call. -/
  | calls (opening : Option String) (call : ToolCall) (more : List ToolCall)
      (hopening : ∀ text ∈ opening, text ≠ "") :
      IsTurn (.multiPart (opening.toList.map .text ++ (call :: more).map .toolCall))

/-- What an answer with a text and calls carries is a turn. -/
theorem isTurn_contentOf (text : String) (calls : List ToolCall) :
    IsTurn (contentOf text calls) := by
  cases calls with
  | nil => exact .text text
  | cons call more =>
    by_cases h : text = ""
    · simpa [contentOf, h] using IsTurn.calls none call more nofun
    · have hopening : ∀ t ∈ some text, t ≠ "" := fun t ht => Option.mem_some.1 ht ▸ h
      simpa [contentOf, h] using IsTurn.calls (some text) call more hopening

/-! ## The parts of a turn -/

/-- The text of a message. -/
def textOf (message : Json) : String := ((message.member? "content").bind string?).getD ""

/-- The calls of a message. -/
def callsOf (message : Json) : List ToolCall :=
  (((message.member? "tool_calls").bind items?).getD []).filterMap call?

/-- A member with a text reads the same when its value is sorted. -/
theorem bind_string?_sorted (j? : Option Json) :
    (j?.map sorted).bind string? = j?.bind string? := by
  cases j? with
  | none => rfl
  | some j => exact string?_sorted j

/-- A call reads the same when its object is sorted. -/
theorem call?_sorted (j : Json) : call? j.sorted = call? j := by
  simp only [call?, member?_sorted, bind_string?_sorted]
  cases j.member? "function" with
  | none => rfl
  | some f => simp [member?_sorted, bind_string?_sorted]

/-- So does the text of a message. -/
theorem textOf_sorted (message : Json) : textOf message.sorted = textOf message := by
  rw [textOf, textOf, member?_sorted, bind_string?_sorted]

/-- So do its calls. -/
theorem callsOf_sorted (message : Json) : callsOf message.sorted = callsOf message := by
  rw [callsOf, callsOf, member?_sorted]
  cases message.member? "tool_calls" with
  | none => rfl
  | some calls =>
    cases calls with
    | array items =>
      have hcalls : call? ∘ sorted = call? := funext call?_sorted
      rw [Option.map_some, Json.sorted, sortedItems_eq_map]
      simp only [Option.bind_some, items?, Option.getD_some, List.filterMap_map, hcalls]
    | _ => rfl

/-! ## Written turns -/

section

variable (opening : Option String) (calls : List ToolCall)

/-- The only text of a turn with calls is its opening. -/
theorem filterMap_asText?_turn :
    (opening.toList.map Content.text ++ calls.map Content.toolCall).filterMap Content.asText?
      = opening.toList := by
  have hcalls : Content.asText? ∘ Content.toolCall = fun _ => none := rfl
  have htexts : Content.asText? ∘ Content.text = some := rfl
  rw [List.filterMap_append, List.filterMap_map, List.filterMap_map, hcalls, htexts,
    List.filterMap_some, List.filterMap_eq_nil_iff.2 fun _ _ => rfl, List.append_nil]

/-- The calls among the parts of a turn are its calls. -/
theorem callsAmong_turn :
    callsAmong (opening.toList.map .text ++ calls.map .toolCall) = calls := by
  have htexts : callsAmong (opening.toList.map .text) = [] := by cases opening <;> rfl
  have hcalls : callsAmong (calls.map .toolCall) = calls := by
    rw [callsAmong, List.filterMap_map]
    exact List.filterMap_some
  have happend : callsAmong (opening.toList.map .text ++ calls.map .toolCall)
      = callsAmong (opening.toList.map .text) ++ callsAmong (calls.map .toolCall) :=
    List.filterMap_append
  rw [happend, htexts, hcalls, List.nil_append]

/-- So are the calls of the content as a whole. -/
theorem toolCalls_turn :
    (Content.multiPart (opening.toList.map .text ++ calls.map .toolCall)).toolCalls = calls := by
  have hcalls : Content.toolCallsOf (calls.map .toolCall) = calls := by
    induction calls with
    | nil => rfl
    | cons call more ih =>
      rw [List.map_cons, Content.toolCallsOf, Content.toolCalls, ih, List.singleton_append]
  cases opening with
  | none => exact hcalls
  | some text => exact hcalls

end

/-- How calls with or without a text are written: a text that is missing is `null`. -/
theorem ofMessage_calls (opening : Option String) (call : ToolCall) (more : List ToolCall) :
    ofMessage ⟨.assistant,
        .multiPart (opening.toList.map .text ++ (call :: more).map .toolCall)⟩
      = .object [("role", .string "assistant"), ("content", orNull .string opening),
          ("tool_calls", ofList ofCall (call :: more))] := by
  simp only [ofMessage, filterMap_asText?_turn, callsAmong_turn]
  cases opening with
  | none => rfl
  | some text => rfl

/-- A call whose arguments are read back from their text is read back itself. -/
theorem call?_ofCall {call : ToolCall}
    (h : Json.Sorted.parse? call.arguments.text = some call.arguments) :
    call? (ofCall call) = some call := by
  obtain ⟨id, name, arguments⟩ := call
  simp [call?, ofCall, member?, lookup, string?, h]

/-- Calls whose arguments are read back from their text are read back. -/
theorem filterMap_call?_ofCall {calls : List ToolCall}
    (h : ∀ call ∈ calls, Json.Sorted.parse? call.arguments.text = some call.arguments) :
    (calls.map ofCall).filterMap call? = calls := by
  rw [List.filterMap_map]
  refine (List.filterMap_congr fun call hcall => ?_).trans List.filterMap_some
  exact call?_ofCall (h call hcall)

/-- A turn is what is read from the text and the calls of the message that is written for it. -/
theorem contentOf_ofMessage {c : Content} (hturn : IsTurn c)
    (h : ∀ call ∈ c.toolCalls,
      Json.Sorted.parse? call.arguments.text = some call.arguments) :
    contentOf (textOf (ofMessage ⟨.assistant, c⟩)) (callsOf (ofMessage ⟨.assistant, c⟩)) = c := by
  cases hturn with
  | text text => rfl
  | calls opening call more hopening =>
    rw [toolCalls_turn] at h
    have hcalls : callsOf (ofMessage ⟨.assistant,
        .multiPart (opening.toList.map .text ++ (call :: more).map .toolCall)⟩)
          = call :: more := by
      rw [ofMessage_calls]
      exact filterMap_call?_ofCall h
    rw [hcalls, ofMessage_calls]
    cases opening with
    | none => rfl
    | some text =>
      -- an empty text would not be read as one
      have htext : text ≠ "" := hopening text rfl
      change contentOf text (call :: more) = _
      simp [contentOf, htext]

/-! ## Replaying -/

/-- The message of an answer's first choice. -/
def firstMessage? (body : Json) : Option Json :=
  (((body.member? "choices").bind items?).bind List.head?).bind fun choice =>
    choice.member? "message"

/-- An answer whose first choice has a message is read as what that message carries. -/
theorem readAnswer_of_firstMessage? {body message : Json} (model : String)
    (h : firstMessage? body = some message) :
    ∃ a, readAnswer model body = .ok a ∧
      a.message = ⟨.assistant, contentOf (textOf message) (callsOf message)⟩ := by
  rw [firstMessage?, Option.bind_eq_some_iff] at h
  obtain ⟨choice, hchoice, hmessage⟩ := h
  simp only [readAnswer, hchoice, hmessage]
  exact ⟨_, rfl, rfl⟩

/-- Whatever is read from an answer is a turn of the assistant. -/
theorem isTurn_of_readAnswer {model : String} {body : Json} {a : Completion}
    (h : readAnswer model body = .ok a) :
    a.message.role = .assistant ∧ IsTurn a.message.content := by
  unfold readAnswer at h
  split at h
  · cases h
  · split at h
    · cases h
    · cases h
      exact ⟨rfl, isTurn_contentOf _ _⟩

/-- What an answer carries is a turn of the model, and a turn is read back from any answer whose
first choice has the message that is written for it: the same text and the same calls with the same
arguments, in the same order. -/
theorem readAnswer_replays :
    (∀ model body a, readAnswer model body = .ok a →
      a.message.role = .assistant ∧ IsTurn a.message.content) ∧
    ∀ model body c message, IsTurn c →
      (∀ call ∈ c.toolCalls, Json.Sorted.parse? call.arguments.text = some call.arguments) →
      firstMessage? body = some message →
      message.sorted = (ofMessage ⟨.assistant, c⟩).sorted →
        ∃ a, readAnswer model body = .ok a ∧ a.message = ⟨.assistant, c⟩ := by
  refine ⟨fun model body a h => isTurn_of_readAnswer h, ?_⟩
  intro model body c message hturn harguments hmessage hwritten
  obtain ⟨a, hread, hcontent⟩ := readAnswer_of_firstMessage? model hmessage
  -- text and calls are the same in the sorted forms, which are equal
  refine ⟨a, hread, ?_⟩
  rw [hcontent, ← textOf_sorted, ← callsOf_sorted, hwritten, textOf_sorted, callsOf_sorted,
    contentOf_ofMessage hturn harguments]

/-- What a search is asked for: a query, within some years and on any site, from the last page
on. -/
def searchArguments : Json.Sorted :=
  ⟨.object [("filters", .object [("site", .null), ("years", .array [.nat 2023, .nat 2024])]),
    ("page", .number (.negative 1)), ("query", .string "Acme \"funding\"")], by decide⟩

/-- The address of a page. -/
def pageArguments : Json.Sorted := ⟨.object [("url", .string "https://acme.example")], by decide⟩

/-- A turn with a text and two calls. -/
def searchTurn : Content :=
  .multiPart [.text "I look at both.", .toolCall ⟨"call_1", "search", searchArguments⟩,
    .toolCall ⟨"call_2", "read_page", pageArguments⟩]

/-- A turn with a text and two calls is read back. -/
theorem readAnswer_replays_searchTurn :
    IsTurn searchTurn ∧
    (∀ call ∈ searchTurn.toolCalls,
      Json.Sorted.parse? call.arguments.text = some call.arguments) ∧
    ∃ a, readAnswer "gpt-4o" (.object [("choices", .array [.object [("index", .nat 0),
        ("message", ofMessage ⟨.assistant, searchTurn⟩)]])]) = .ok a ∧
      a.message = ⟨.assistant, searchTurn⟩ := by
  have hopening : ∀ text ∈ some "I look at both.", text ≠ "" := by simp
  have hturn : IsTurn searchTurn := .calls (some "I look at both.") _ [_] hopening
  -- the arguments are texts of the grammar, part by part
  have hyears : ∀ v ∈ [Json.nat 2023, Json.nat 2024], Legible v :=
    List.forall_mem_cons.2 ⟨.number (readsNumber_natural (by decide)),
      List.forall_mem_singleton.2 (.number (readsNumber_natural (by decide)))⟩
  have hsearch : Legible searchArguments.json := by
    have hpage : Legible (.number (.negative 1)) :=
      .number (readsNumber_negative (by decide) (by decide))
    have hfilters : Legible (.object [("site", .null),
        ("years", .array [.nat 2023, .nat 2024])]) :=
      .object (List.forall_mem_cons.2 ⟨.null, List.forall_mem_singleton.2 (.array hyears)⟩)
    exact .object (List.forall_mem_cons.2 ⟨hfilters,
      List.forall_mem_cons.2 ⟨hpage, List.forall_mem_singleton.2 (.string _)⟩⟩)
  have hpage : Legible pageArguments.json := .object (List.forall_mem_singleton.2 (.string _))
  have harguments : ∀ call ∈ searchTurn.toolCalls,
      Json.Sorted.parse? call.arguments.text = some call.arguments := by
    simp only [searchTurn, Content.toolCalls, Content.toolCallsOf, List.nil_append,
      List.singleton_append, List.forall_mem_cons]
    exact ⟨Sorted.parse?_text hsearch (by decide), Sorted.parse?_text hpage (by decide), nofun⟩
  exact ⟨hturn, harguments, readAnswer_replays.2 _ _ _ _ hturn harguments rfl rfl⟩

end CitedReport.ChatService
