import CitedReport.Task.Basic
import CitedReport.Proofs.Dialogue.Held

/-!
# What the model answers in a task

The exchanges of a task tell what the model has answered (`answers`). How the task ends depends on
the last of these answers alone: an error makes it fail with that error, and the text of a
completion without calls is the remark with which the finding closes (`remark`). The tools have no
part in it.
-/

namespace CitedReport.Task

open Dialogue

/-- What the model has answered in an exchange, if it was asked. -/
def answer? : Exchange → Option (Except ModelError Completion)
  | ⟨.complete _, answer⟩ => some answer
  | _ => none

/-- What the model has answered in some exchanges, in order. -/
def answers (t : List Exchange) : List (Except ModelError Completion) := t.filterMap answer?

/-- What the model closes with: the text of its last answer, if there are no calls in it. -/
def remark (t : List Exchange) : Option String :=
  match (answers t).getLast? with
  | some (.ok c) =>
    if c.message.content.toolCalls = [] then Text.trimmed? c.message.content.joinedText else none
  | _ => none

/-- No exchanges have no answers. -/
@[simp] theorem answers_nil : answers [] = [] := rfl

/-- Answers come in the order of the exchanges. -/
theorem answers_append (t₁ t₂ : List Exchange) : answers (t₁ ++ t₂) = answers t₁ ++ answers t₂ :=
  List.filterMap_append

/-- The remark comes from the exchanges in which the model was asked last. -/
theorem remark_append (t₁ t₂ : List Exchange) :
    remark (t₁ ++ t₂) = if answers t₂ = [] then remark t₁ else remark t₂ := by
  rw [remark, answers_append]
  by_cases hnil : answers t₂ = []
  · rw [if_pos hnil, hnil, List.append_nil, remark]
  · rw [if_neg hnil, List.getLast?_append_of_ne_nil _ hnil, remark]

/-! ## Asking the model -/

/-- The question is not one for the model. -/
def NoCompletion : Query → Prop
  | .complete _ => False
  | _ => True

/-- Without a question for the model there is no answer of it. -/
theorem answers_eq_nil {t : List Exchange} (h : ∀ x ∈ t, NoCompletion x.query) :
    answers t = [] := by
  refine List.filterMap_eq_nil_iff.2 ?_
  rintro ⟨q, answer⟩ hx
  cases q with
  | complete request => exact absurd (h _ hx) id
  | _ => rfl

/-- A dialogue that asks for no completion gets no answer. -/
theorem answers_of_asks {α : Type} {d : Dialogue α} {t : List Exchange} {a : α}
    (hd : d.Asks NoCompletion) (h : Held d t a) : answers t = [] :=
  answers_eq_nil (hd.of_held h)

/-- A pause asks for no completion. -/
theorem asks_noCompletion_pause (ms : Nat) : (pause ms).Asks NoCompletion :=
  asks_pause (fun _ => trivial) ms

/-- A call takes a call and a pause. -/
theorem asks_execute {kind : Query → Prop}
    (hcall : ∀ name arguments, kind (.callTool name arguments)) (hpause : ∀ ms, kind (.pause ms))
    (tools : Toolbox) (name : String) (arguments : Json.Sorted) :
    (tools.execute name arguments).Asks kind := by
  unfold Toolbox.execute
  split
  · trivial
  · refine (asks_one (hcall _ _)).bind fun answer => ?_
    split
    · exact (asks_pause hpause _).bind fun _ => trivial
    · exact (asks_pause hpause _).bind fun _ => trivial

/-- So do the calls of a turn. -/
theorem asks_runCalls {kind : Query → Prop}
    (hcall : ∀ name arguments, kind (.callTool name arguments)) (hpause : ∀ ms, kind (.pause ms))
    (tools : Toolbox) (p : Progress) (calls : List ToolCall) :
    (runCalls tools p calls).Asks kind := by
  induction calls generalizing p with
  | nil => trivial
  | cons call rest ih => exact (asks_execute hcall hpause ..).bind fun result => ih _

/-- Calls of tools are no questions for the model. -/
theorem asks_noCompletion_runCalls (tools : Toolbox) (p : Progress) (calls : List ToolCall) :
    (runCalls tools p calls).Asks NoCompletion :=
  asks_runCalls (fun _ _ => trivial) (fun _ => trivial) tools p calls

/-- What a request comes to in some exchanges, with so many tries left after the first. -/
inductive Tried (request : CompletionRequest) :
    Nat → List Exchange → Except ModelError Completion → Prop where
  /-- The model answers, and its tokens are counted. -/
  | answered {tries : Nat} (c : Completion) :
    Tried request tries [⟨.complete request, .ok c⟩, ⟨.charge c.usage, ()⟩] (.ok c)
  /-- It fails, and is not asked again. -/
  | failed {tries : Nat} (e : ModelError) :
    Tried request tries [⟨.complete request, .error e⟩] (.error e)
  /-- It fails, and is asked again after a pause. -/
  | again {tries ms : Nat} (e : ModelError) {paused t : List Exchange}
    {r : Except ModelError Completion} (hpause : Held (pause ms) paused ())
    (h : Tried request tries t r) :
    Tried request (tries + 1) (⟨.complete request, .error e⟩ :: (paused ++ t)) r

/-- Every attempt at a request is one of a series of tries. -/
theorem tried_of_held {request : CompletionRequest} {i tries : Nat} {t : List Exchange}
    {r : Except ModelError Completion} (h : Held (ModelSettings.attempt request i tries) t r) :
    Tried request tries t r := by
  unfold ModelSettings.attempt at h
  obtain ⟨t₁, t₂, answer, rfl, hasked, hnext⟩ := held_bind_iff.1 h
  obtain rfl := held_ask_done_iff.1 hasked
  cases answer with
  | ok c =>
    obtain ⟨t₃, t₄, _, rfl, hcharge, hdone⟩ := held_bind_iff.1 hnext
    obtain rfl := held_ask_done_iff.1 hcharge
    obtain ⟨rfl, rfl⟩ := held_pure_iff.1 hdone
    exact .answered c
  | error e =>
    cases tries with
    | zero =>
      obtain ⟨rfl, rfl⟩ := held_pure_iff.1 hnext
      exact .failed e
    | succ tries =>
      simp only at hnext
      split at hnext
      · obtain ⟨t₃, t₄, _, rfl, hpause, hlater⟩ := held_bind_iff.1 hnext
        rw [List.singleton_append]
        exact .again e hpause (tried_of_held hlater)
      · obtain ⟨rfl, rfl⟩ := held_pure_iff.1 hnext
        exact .failed e
termination_by tries

/-- A series of tries comes to what the model has answered last. -/
theorem Tried.getLast?_answers {request : CompletionRequest} {tries : Nat} {t : List Exchange}
    {r : Except ModelError Completion} (h : Tried request tries t r) :
    (answers t).getLast? = some r := by
  induction h with
  | answered c => rfl
  | failed e => rfl
  | @again _ _ e paused t r hpause _ ih =>
    have hsplit : answers (⟨.complete request, .error e⟩ :: (paused ++ t))
        = [.error e] ++ (answers paused ++ answers t) := by
      rw [← answers_append]
      rfl
    rw [hsplit, answers_of_asks (asks_noCompletion_pause _) hpause, List.nil_append,
      List.getLast?_append, ih]
    rfl

/-- What comes of asking the model is what it has answered last, unless the conversation is too long
to ask. -/
theorem getLast?_answers_think {s : ModelSettings} {messages : List Message}
    {offered : Option (List ToolDefinition)} {t : List Exchange}
    {r : Except ModelError Completion} (h : Held (s.think messages offered) t r) :
    (answers t).getLast? = some r ∨
      ∃ used, r = .error (.contextOverflow used s.contextWindow) := by
  unfold ModelSettings.think at h
  simp only at h
  split at h
  · obtain ⟨-, rfl⟩ := held_pure_iff.1 h
    exact .inr ⟨_, rfl⟩
  · exact .inl (tried_of_held h).getLast?_answers

section

variable {s : ModelSettings} {messages : List Message} (offered : Option (List ToolDefinition))
  (hfits : ModelSettings.estimateTokens messages ≤ s.contextWindow)

include hfits

/-- A model that answers is asked once. -/
theorem held_think_of_ok (c : Completion) :
    Held (s.think messages offered)
      [⟨.complete (s.request messages offered), .ok c⟩, ⟨.charge c.usage, ()⟩] (.ok c) := by
  rw [ModelSettings.think, if_neg (Nat.not_lt.2 hfits)]
  unfold ModelSettings.attempt
  exact held_bind_iff.2 ⟨[_], [_], .ok c, rfl, held_ask_done_iff.2 rfl,
    held_bind_iff.2 ⟨[_], [], (), rfl, held_ask_done_iff.2 rfl, held_pure_iff.2 ⟨rfl, rfl⟩⟩⟩

end

/-! ## The end of a task -/

/-- A conversation closes with the remark of the model. -/
theorem eq_remark_of_held {s : ModelSettings} {tools : Toolbox} {turns : Nat} {p p' : Progress}
    {summary : Option String} {t : List Exchange}
    (h : Held (converse s tools turns p) t (.ok (p', summary))) : summary = remark t := by
  induction turns generalizing p t with
  | zero =>
    obtain ⟨rfl, heq⟩ := held_pure_iff.1 h
    exact (Prod.mk.inj (Except.ok.inj heq)).2
  | succ turns ih =>
    rw [converse, held_bind_iff] at h
    obtain ⟨t₁, t₂, answer, rfl, hthink, h⟩ := h
    cases answer with
    | error e => simp [held_pure_iff] at h
    | ok c =>
      have hlast : (answers t₁).getLast? = some (.ok c) :=
        (getLast?_answers_think hthink).resolve_right fun ⟨_, h⟩ => nomatch h
      simp only at h
      split at h
      · next hcalls =>
        obtain ⟨rfl, heq⟩ := held_pure_iff.1 h
        rw [(Prod.mk.inj (Except.ok.inj heq)).2, List.append_nil, remark, hlast]
        exact (if_pos hcalls).symm
      · next calls hcalls =>
        obtain ⟨t₃, t₄, q, rfl, hmade, h⟩ := held_bind_iff.1 h
        -- a turn with calls leaves no remark, so the later turns decide
        have hquiet : remark t₁ = none := by
          rw [remark, hlast]
          exact if_neg hcalls
        rw [ih h, remark_append, answers_append,
          answers_of_asks (asks_noCompletion_runCalls ..) hmade, List.nil_append, hquiet]
        split
        · next hnil => rw [remark, hnil]; rfl
        · next hne =>
          rw [remark_append, if_neg hne]

/-- A conversation fails with what the model has answered last, or because it has got too long. -/
theorem getLast?_answers_of_held {s : ModelSettings} {tools : Toolbox} {turns : Nat} {p : Progress}
    {e : ModelError} {t : List Exchange} (h : Held (converse s tools turns p) t (.error e)) :
    (answers t).getLast? = some (.error e) ∨ ∃ used, e = .contextOverflow used s.contextWindow := by
  induction turns generalizing p t with
  | zero => simp [converse, held_pure_iff] at h
  | succ turns ih =>
    rw [converse, held_bind_iff] at h
    obtain ⟨t₁, t₂, answer, rfl, hthink, h⟩ := h
    cases answer with
    | error e' =>
      obtain ⟨rfl, heq⟩ := held_pure_iff.1 h
      obtain rfl := Except.error.inj heq
      rw [List.append_nil]
      exact (getLast?_answers_think hthink).imp_right fun ⟨used, hused⟩ =>
        ⟨used, Except.error.inj hused⟩
    | ok c =>
      simp only at h
      split at h
      · simp [held_pure_iff] at h
      · obtain ⟨t₃, t₄, q, rfl, -, h⟩ := held_bind_iff.1 h
        refine (ih h).imp_left fun hlast => ?_
        rw [answers_append, answers_append, List.getLast?_append, List.getLast?_append, hlast]
        rfl

end CitedReport.Task
