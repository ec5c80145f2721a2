import CitedReport.Proofs.Task.OneCall

/-!
# The conversation of a task

Every request of a task carries the whole conversation so far: its opening and, for each completion
with calls, that completion and one message for each of its calls. How the exchanges of a task lead
from turn to turn is `Conversed`; what follows for the requests, the number of turns, the notes and
the outcome is put together in `Conversation`, and every task is one (`exists_conversation`).
-/

namespace CitedReport.Task

open Dialogue

/-! ## What the model is asked -/

/-- The completion, if there are calls in it. -/
def calling? : Except ModelError Completion → Option Completion
  | .ok c => if c.message.content.toolCalls = [] then none else some c
  | .error _ => none

/-- The completions with calls that the model has given, in order. -/
def callingCompletions (t : List Exchange) : List Completion := (answers t).filterMap calling?

/-- Completions with calls come in the order of the exchanges. -/
@[simp] theorem callingCompletions_append (t₁ t₂ : List Exchange) :
    callingCompletions (t₁ ++ t₂) = callingCompletions t₁ ++ callingCompletions t₂ := by
  rw [callingCompletions, answers_append, List.filterMap_append, callingCompletions,
    callingCompletions]

/-- Without a question for the model there is no completion. -/
theorem callingCompletions_eq_nil {t : List Exchange} (h : ∀ x ∈ t, NoCompletion x.query) :
    callingCompletions t = [] := by
  rw [callingCompletions, answers_eq_nil h, List.filterMap_nil]

/-- A failed attempt gives no completion either. -/
theorem callingCompletions_error_cons (request : CompletionRequest) (e : ModelError)
    (t : List Exchange) :
    callingCompletions (⟨.complete request, .error e⟩ :: t) = callingCompletions t :=
  callingCompletions_append [⟨.complete request, .error e⟩] t

/-- Each request fits the completions with calls that came before it. -/
def EachRequest (P : List Completion → CompletionRequest → Prop) (t : List Exchange) : Prop :=
  ∀ t₁ request answer t₂, t = t₁ ++ ⟨.complete request, answer⟩ :: t₂ →
    P (callingCompletions t₁) request

namespace EachRequest

variable {P P' : List Completion → CompletionRequest → Prop} {t t' : List Exchange}

/-- A request that fits in one way fits in any way that follows from it. -/
theorem mono (h : EachRequest P t) (himp : ∀ earlier request, P earlier request →
    P' earlier request) : EachRequest P' t :=
  fun t₁ request answer t₂ hsplit => himp _ _ (h t₁ request answer t₂ hsplit)

/-- Where the model is not asked there is no request. -/
theorem of_noCompletion (h : ∀ x ∈ t, NoCompletion x.query) : EachRequest P t := by
  rintro t₁ request answer t₂ rfl
  exact (h ⟨.complete request, answer⟩ (List.mem_append_right _ List.mem_cons_self)).elim

/-- The first request comes behind no completion. -/
theorem singleton {request : CompletionRequest} (h : P [] request)
    (answer : Except ModelError Completion) :
    EachRequest P [⟨.complete request, answer⟩] := by
  intro t₁ request' answer' t₂ hsplit
  cases t₁ with
  | nil =>
    cases hsplit
    exact h
  | cons x t₁ => simp at hsplit

/-- The requests of a second part come behind the completions of the first. -/
theorem append (h : EachRequest P t)
    (h' : EachRequest (fun earlier => P (callingCompletions t ++ earlier)) t') :
    EachRequest P (t ++ t') := by
  intro t₁ request answer t₂ hsplit
  rcases List.append_eq_append_iff.1 hsplit with ⟨t₃, rfl, ht'⟩ | ⟨rest, rfl, hrest⟩
  · rw [callingCompletions_append]
    exact h' t₃ request answer t₂ ht'
  · cases rest with
    | nil =>
      -- the request is the first exchange of the second part
      have hfirst : P (callingCompletions (t₁ ++ []) ++ callingCompletions []) request :=
        h' [] request answer t₂ hrest.symm
      rwa [← callingCompletions_append, List.append_nil, List.append_nil] at hfirst
    | cons x rest =>
      rw [List.cons_append, List.cons.injEq] at hrest
      obtain ⟨rfl, -⟩ := hrest
      exact h t₁ request answer rest rfl

end EachRequest

section

variable {request : CompletionRequest} {t : List Exchange} {r : Except ModelError Completion}

/-- Of a series of tries only the last gives a completion. -/
theorem Tried.callingCompletions_eq {tries : Nat} (h : Tried request tries t r) :
    callingCompletions t = (calling? r).toList := by
  induction h with
  | answered c =>
    change [Except.ok c].filterMap calling? = _
    rw [List.filterMap_cons, List.filterMap_nil]
    cases calling? (.ok c) with
    | none => rfl
    | some c' => rfl
  | failed e => rfl
  | again e hpause _ ih =>
    have hpaused := callingCompletions_eq_nil ((asks_noCompletion_pause _).of_held hpause)
    rw [callingCompletions_error_cons, callingCompletions_append, hpaused, List.nil_append, ih]

/-- Each of the tries is the same request, and no completion comes before one. -/
theorem Tried.eachRequest {tries : Nat} (h : Tried request tries t r) :
    EachRequest (fun earlier request' => earlier = [] ∧ request' = request) t := by
  induction h with
  | answered c =>
    refine EachRequest.append (t := [_]) (.singleton ⟨rfl, rfl⟩ _) (.of_noCompletion fun x hx => ?_)
    rw [List.mem_singleton.1 hx]
    trivial
  | failed e => exact .singleton ⟨rfl, rfl⟩ _
  | again e hpause _ ih =>
    have hpaused := (asks_noCompletion_pause _).of_held hpause
    refine EachRequest.append (t := [_]) (.singleton ⟨rfl, rfl⟩ _)
      (.append (.of_noCompletion hpaused) (ih.mono ?_))
    rintro earlier request' ⟨rfl, rfl⟩
    rw [callingCompletions_eq_nil hpaused]
    exact ⟨rfl, rfl⟩

variable {s : ModelSettings} {messages : List Message} {offered : Option (List ToolDefinition)}

/-- Asking the model gives at most the completion that comes of it. -/
theorem callingCompletions_think (h : Held (s.think messages offered) t r) :
    callingCompletions t = (calling? r).toList := by
  unfold ModelSettings.think at h
  simp only at h
  split at h
  · obtain ⟨rfl, rfl⟩ := held_pure_iff.1 h
    rfl
  · exact (tried_of_held h).callingCompletions_eq

/-- However often the model is asked, it is asked the same. -/
theorem eachRequest_think (h : Held (s.think messages offered) t r) :
    EachRequest (fun earlier request => earlier = [] ∧ request = s.request messages offered) t := by
  unfold ModelSettings.think at h
  simp only at h
  split at h
  · obtain ⟨rfl, -⟩ := held_pure_iff.1 h
    exact .of_noCompletion (List.forall_mem_nil _)
  · exact (tried_of_held h).eachRequest

end

/-! ## Turns -/

/-- A call with what came of it. -/
structure Made where
  /-- The call. -/
  call : ToolCall
  /-- What came of it. -/
  outcome : Except ToolError ToolOutput
  /-- What the model is told. -/
  reply : String

namespace Made

/-- The note that is kept of a call: the output as it is, or why there is none. -/
def note (m : Made) : String :=
  match m.outcome with
  | .ok output => output.content
  | .error e => m.call.name ++ " failed: " ++ e.reason

/-- The message by which the call is answered. It says whether the call failed. -/
def message (m : Made) : Message :=
  .toolResult m.call.id m.reply
    (match m.outcome with
      | .ok _ => false
      | .error _ => true)

/-- The model is told the output, with the markers and the sources renumbered, or why there is
none. -/
def Told (m : Made) : Prop :=
  match m.outcome with
  | .ok output =>
    ∃ numbers, m.reply = replyText (renumberContent numbers output.content) output.sources numbers
  | .error _ => m.reply = m.note

end Made

/-- A turn of the model in which it makes calls. -/
structure Turn where
  /-- What the model says. -/
  completion : Completion
  /-- Its calls. -/
  made : List Made

/-- What a turn adds to the conversation: the message of the model and the answers to its calls. -/
def Turn.messages (turn : Turn) : List Message :=
  turn.completion.message :: turn.made.map Made.message

/-- How a conversation ends. -/
inductive Ending where
  /-- The turns are used up. -/
  | usedUp
  /-- The model makes no more calls. -/
  | closed (c : Completion)
  /-- The model cannot be asked. -/
  | failed (e : ModelError)

/-- How many turns of the model the ending takes. -/
def Ending.turns : Ending → Nat
  | .usedUp => 0
  | .closed _ => 1
  | .failed _ => 1

/-! ## How a conversation goes -/

/-- Calls are made one after the other, each with its exchanges. -/
inductive Makes (tools : Toolbox) : List Made → List Exchange → Prop where
  /-- None is left. -/
  | nil : Makes tools [] []
  /-- One is made, and then the others. -/
  | cons {m : Made} {rest : List Made} {t t' : List Exchange}
    (hcall : Held (tools.execute m.call.name m.call.arguments) t m.outcome) (htold : m.Told)
    (h : Makes tools rest t') : Makes tools (m :: rest) (t ++ t')

/-- A conversation goes on from some messages for at most so many turns of the model. -/
inductive Conversed (s : ModelSettings) (tools : Toolbox) :
    List Message → Nat → List Turn → Ending → List Exchange → Prop where
  /-- No turn is left. -/
  | usedUp {messages : List Message} : Conversed s tools messages 0 [] .usedUp []
  /-- The model cannot be asked. -/
  | failed {messages : List Message} {n : Nat} {e : ModelError} {t : List Exchange}
    (h : Held (s.think messages (some tools.definitions)) t (.error e)) :
    Conversed s tools messages (n + 1) [] (.failed e) t
  /-- The model makes no calls. -/
  | closed {messages : List Message} {n : Nat} {c : Completion} {t : List Exchange}
    (h : Held (s.think messages (some tools.definitions)) t (.ok c))
    (hnone : c.message.content.toolCalls = []) :
    Conversed s tools messages (n + 1) [] (.closed c) t
  /-- The model makes calls, and is told what came of them. -/
  | turn {messages : List Message} {n : Nat} {turn : Turn} {turns : List Turn} {ending : Ending}
    {t t' t'' : List Exchange}
    (hthink : Held (s.think messages (some tools.definitions)) t (.ok turn.completion))
    (hsome : turn.completion.message.content.toolCalls ≠ [])
    (hcalls : turn.made.map Made.call = turn.completion.message.content.toolCalls)
    (hmade : Makes tools turn.made t')
    (h : Conversed s tools (messages ++ turn.messages) n turns ending t'') :
    Conversed s tools messages (n + 1) (turn :: turns) ending (t ++ t' ++ t'')

/-- While calls are made the model is not asked. -/
theorem Makes.noCompletion {tools : Toolbox} {made : List Made} {t : List Exchange}
    (h : Makes tools made t) : ∀ x ∈ t, NoCompletion x.query := by
  induction h with
  | nil => exact fun x hx => absurd hx List.not_mem_nil
  | @cons m rest t t' hcall _ _ ih =>
    have hasks : (tools.execute m.call.name m.call.arguments).Asks NoCompletion :=
      asks_execute (fun _ _ => trivial) (fun _ => trivial) ..
    have hone := hasks.of_held hcall
    intro x hx
    exact (List.mem_append.1 hx).elim (hone x) (ih x)

/-- The model is told of each call that is made. -/
theorem Makes.told {tools : Toolbox} {made : List Made} {t : List Exchange}
    (h : Makes tools made t) : ∀ m ∈ made, m.Told := by
  induction h with
  | nil => exact fun m hm => absurd hm List.not_mem_nil
  | cons _ htold _ ih => exact List.forall_mem_cons.2 ⟨htold, ih⟩

namespace Conversed

variable {s : ModelSettings} {tools : Toolbox} {messages : List Message} {n : Nat}
  {turns : List Turn} {ending : Ending} {t : List Exchange}

/-- The calls of each turn are made in order, and the model is told what came of each. -/
theorem made (h : Conversed s tools messages n turns ending t) :
    ∀ turn ∈ turns, turn.made.map Made.call = turn.completion.message.content.toolCalls ∧
      ∀ m ∈ turn.made, m.Told := by
  induction h with
  | usedUp => exact fun turn h => absurd h List.not_mem_nil
  | failed _ => exact fun turn h => absurd h List.not_mem_nil
  | closed _ _ => exact fun turn h => absurd h List.not_mem_nil
  | turn _ _ hcalls hmade _ ih => exact List.forall_mem_cons.2 ⟨⟨hcalls, hmade.told⟩, ih⟩

/-- The turns are those that the model has taken. -/
theorem callingCompletions_eq (h : Conversed s tools messages n turns ending t) :
    callingCompletions t = turns.map Turn.completion := by
  induction h with
  | usedUp => rfl
  | failed h => exact callingCompletions_think h
  | closed h hnone =>
    rw [callingCompletions_think h, calling?, if_pos hnone]
    rfl
  | turn hthink hsome _ hmade _ ih =>
    rw [callingCompletions_append, callingCompletions_append, callingCompletions_think hthink,
      callingCompletions_eq_nil hmade.noCompletion, ih, calling?, if_neg hsome]
    rfl

/-- Every request carries the messages from the beginning and what the turns before it added. -/
theorem eachRequest (h : Conversed s tools messages n turns ending t) :
    EachRequest (fun earlier request => request = s.request
      (messages ++ (turns.take earlier.length).flatMap Turn.messages) (some tools.definitions))
      t := by
  induction h with
  | usedUp => exact .of_noCompletion (List.forall_mem_nil _)
  | failed h =>
    refine (eachRequest_think h).mono ?_
    rintro earlier request ⟨-, rfl⟩
    rw [List.take_nil, List.flatMap_nil, List.append_nil]
  | closed h _ =>
    refine (eachRequest_think h).mono ?_
    rintro earlier request ⟨-, rfl⟩
    rw [List.take_nil, List.flatMap_nil, List.append_nil]
  | turn hthink hsome _ hmade _ ih =>
    rw [List.append_assoc]
    refine .append ((eachRequest_think hthink).mono ?_)
      (.append (.of_noCompletion hmade.noCompletion) (ih.mono ?_))
    · rintro earlier request ⟨rfl, rfl⟩
      rw [List.length_nil, List.take_zero, List.flatMap_nil, List.append_nil]
    · rintro earlier request rfl
      -- the turn is one of those before a later request
      rw [callingCompletions_think hthink, callingCompletions_eq_nil hmade.noCompletion, calling?,
        if_neg hsome, Option.toList_some, List.nil_append, List.singleton_append, List.length_cons,
        List.take_succ_cons, List.flatMap_cons, List.append_assoc]

end Conversed

end CitedReport.Task
