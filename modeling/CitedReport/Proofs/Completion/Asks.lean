import CitedReport.Completion
import CitedReport.Proofs.Dialogue.Held

/-!
# What asking the model takes

Whoever asks the model asks for completions, puts them on the bill and pauses in between, and does
nothing else (`ModelSettings.asks_think`). A stage of a run puts whole requests to the model, never
a part of one, and asks some other questions (`Consults`). So what holds of every request and of
those other questions holds of the stage: the questions of a stage that only asks the model are of
every kind that these three are of (`Consults.asks`).
-/

namespace CitedReport

open Dialogue

/-- The questions that asking the model takes are of a kind. -/
structure AdmitsModel (p : Query → Prop) : Prop where
  /-- Completions are. -/
  complete : ∀ request, p (.complete request)
  /-- So are charges. -/
  charge : ∀ usage, p (.charge usage)
  /-- So are pauses. -/
  pause : ∀ ms, p (.pause ms)

namespace ModelSettings

variable {p : Query → Prop} (hp : AdmitsModel p)

include hp

/-- All attempts at a request take such questions. -/
theorem asks_attempt (request : CompletionRequest) (i tries : Nat) :
    (attempt request i tries).Asks p := by
  unfold attempt
  refine Asks.bind ⟨hp.complete request, fun _ => trivial⟩ fun answer => ?_
  cases answer with
  | ok c => exact Asks.bind ⟨hp.charge c.usage, fun _ => trivial⟩ fun _ => trivial
  | error e =>
    cases tries with
    | zero => trivial
    | succ tries =>
      simp only
      split
      · exact (asks_pause hp.pause _).bind fun _ => asks_attempt request (i + 1) tries
      · trivial
termination_by tries

/-- Asking the model asks only such questions. -/
theorem asks_think (s : ModelSettings) (messages : List Message)
    (offered : Option (List ToolDefinition)) : (s.think messages offered).Asks p := by
  unfold think
  simp only
  split
  · trivial
  · exact asks_attempt hp ..

end ModelSettings

/-! ## Stages that ask the model -/

namespace Dialogue

variable {α β : Type} {p : Query → Prop}

/-- The dialogue asks the model, and the other questions that it puts are of a kind. -/
inductive Consults (p : Query → Prop) : Dialogue α → Prop where
  /-- Nothing is asked any more. -/
  | done (a : α) : Consults p (.done a)
  /-- A question of the kind is asked. -/
  | ask {q : Query} {next : q.Answer → Dialogue α} (hq : p q)
    (h : ∀ answer, Consults p (next answer)) : Consults p (.ask q next)
  /-- The model is asked. -/
  | think {s : ModelSettings} {messages : List Message} {offered : Option (List ToolDefinition)}
    {f : Except ModelError Completion → Dialogue α} (h : ∀ answer, Consults p (f answer)) :
    Consults p (s.think messages offered >>= f)

/-- A value asks nobody. -/
theorem consults_pure (a : α) : Consults p (pure a : Dialogue α) := .done a

/-- A dialogue of one question. -/
theorem consults_one {q : Query} (h : p q) : Consults p (.ask q .done) := .ask h fun _ => .done _

/-- A dialogue goes on with two others one after the other. -/
theorem bind_bind {γ : Type} (d : Dialogue α) (f : α → Dialogue β) (g : β → Dialogue γ) :
    d >>= f >>= g = d >>= fun a => f a >>= g := by
  change (d.bind f).bind g = d.bind fun a => (f a).bind g
  induction d with
  | done a => rfl
  | ask q next ih =>
    rw [Dialogue.bind, Dialogue.bind, Dialogue.bind]
    exact congrArg _ (funext ih)

/-- A dialogue that goes on with nothing is itself. -/
theorem bind_done (d : Dialogue α) : d >>= .done = d := by
  change d.bind .done = d
  induction d with
  | done a => rfl
  | ask q next ih => exact congrArg _ (funext ih)

/-- A dialogue and what it goes on with ask the model together as each of them does. -/
theorem Consults.bind {d : Dialogue α} {f : α → Dialogue β} (hd : Consults p d)
    (hf : ∀ a, Consults p (f a)) : Consults p (d >>= f) := by
  induction hd with
  | done a => exact hf a
  | ask hq _ ih => exact .ask hq ih
  | think _ ih =>
    rw [bind_bind]
    exact .think ih

/-- The model need not be asked. -/
theorem Asks.consults {d : Dialogue α} (h : d.Asks p) : Consults p d := by
  induction d with
  | done a => exact .done a
  | ask q next ih => exact .ask h.1 fun answer => ih answer (h.2 answer)

/-- If asking the model is of the kind, too, then all questions are. -/
theorem Consults.asks {d : Dialogue α} (hd : Consults p d) (hp : AdmitsModel p) : d.Asks p := by
  induction hd with
  | done a => exact asks_pure a
  | ask hq _ ih => exact ⟨hq, ih⟩
  | think _ ih => exact (ModelSettings.asks_think hp ..).bind ih

end Dialogue

/-- Asking the model is asking the model. -/
theorem ModelSettings.consults_think {p : Query → Prop} (s : ModelSettings)
    (messages : List Message) (offered : Option (List ToolDefinition)) :
    Consults p (s.think messages offered) := by
  rw [← bind_done (s.think messages offered)]
  exact .think fun answer => .done answer

/-- A text is asked for in one request. -/
theorem ModelSettings.consults_completeText {p : Query → Prop} (s : ModelSettings)
    (system user : String) : Consults p (s.completeText system user) := by
  unfold completeText
  refine .think fun answer => ?_
  cases answer with
  | error e => exact consults_pure _
  | ok c =>
    simp only
    split
    · exact consults_pure _
    · exact consults_pure _

/-- What the model answers when it is asked for a text is not blank. -/
theorem not_isBlank_of_held_completeText {s : ModelSettings} {system user text : String}
    {t : List Exchange} (h : Held (s.completeText system user) t (.ok text)) :
    Text.isBlank text = false := by
  unfold ModelSettings.completeText at h
  obtain ⟨t₁, t₂, answer, -, -, h⟩ := held_bind_iff.1 h
  cases answer with
  | error e => simp [held_pure_iff] at h
  | ok c =>
    simp only at h
    split at h
    · simp [held_pure_iff] at h
    · next hblank =>
      obtain ⟨-, htext⟩ := held_pure_iff.1 h
      rw [Except.ok.inj htext]
      exact Bool.eq_false_iff.2 hblank

end CitedReport
