import Mathlib.Data.List.Forall2
import CitedReport.Dialogue.Basic

/-!
# The ways of holding a dialogue

A dialogue is held along one path of its tree: each question gets some answer, and in the end there
is a value. `Held d t a` says that the questions and answers `t` lead through `d` to the value `a`,
whoever may have answered. What is shown of every path holds for all services; `held_run` is the
path that given services take, so there always is one, and it comes to an end.

A dialogue that goes on with another one is held by holding both (`held_bind_iff`), which is how
facts about stages are put together from facts about their questions.
-/

namespace CitedReport.Dialogue

variable {α β : Type}

/-- A question with its answer. -/
structure Exchange where
  /-- The question. -/
  query : Query
  /-- The answer. -/
  answer : query.Answer

/-- The exchanges lead through the dialogue to the value. -/
inductive Held : Dialogue α → List Exchange → α → Prop where
  /-- Nothing is asked. -/
  | done (a : α) : Held (.done a) [] a
  /-- A question is answered. -/
  | ask (q : Query) (next : q.Answer → Dialogue α) (answer : q.Answer) {t : List Exchange} {a : α}
    (h : Held (next answer) t a) : Held (.ask q next) (⟨q, answer⟩ :: t) a

/-- A dialogue that is over is held without exchanges. -/
theorem held_done_iff {a b : α} {t : List Exchange} :
    Held (.done a) t b ↔ t = [] ∧ b = a := by
  constructor
  · intro h
    cases h
    exact ⟨rfl, rfl⟩
  · rintro ⟨rfl, rfl⟩
    exact .done b

/-- So is a dialogue that is a value. -/
theorem held_pure_iff {a b : α} {t : List Exchange} :
    Held (pure a) t b ↔ t = [] ∧ b = a :=
  held_done_iff

/-- A question is held by answering it and going on. -/
theorem held_ask_iff {q : Query} {next : q.Answer → Dialogue α} {t : List Exchange} {a : α} :
    Held (.ask q next) t a ↔ ∃ answer t', t = ⟨q, answer⟩ :: t' ∧ Held (next answer) t' a := by
  constructor
  · intro h
    cases h with
    | ask _ _ answer h => exact ⟨answer, _, rfl, h⟩
  · rintro ⟨answer, t', rfl, h⟩
    exact .ask q next answer h

/-- A single question is held by answering it. -/
theorem held_ask_done_iff {q : Query} {t : List Exchange} {a : q.Answer} :
    Held (.ask q .done) t a ↔ t = [⟨q, a⟩] := by
  simp only [held_ask_iff, held_done_iff]
  constructor
  · rintro ⟨answer, t', rfl, rfl, rfl⟩
    rfl
  · rintro rfl
    exact ⟨a, [], rfl, rfl, rfl⟩

/-- A dialogue that goes on with another is held by holding one after the other. -/
theorem held_bind_iff {d : Dialogue α} {f : α → Dialogue β} {t : List Exchange} {b : β} :
    Held (d >>= f) t b ↔ ∃ t₁ t₂ a, t = t₁ ++ t₂ ∧ Held d t₁ a ∧ Held (f a) t₂ b := by
  change Held (d.bind f) t b ↔ _
  induction d generalizing t with
  | done a =>
    constructor
    · intro h
      exact ⟨[], t, a, rfl, .done a, h⟩
    · rintro ⟨t₁, t₂, a', rfl, h₁, h₂⟩
      obtain ⟨rfl, rfl⟩ := held_done_iff.1 h₁
      exact h₂
  | ask q next ih =>
    rw [Dialogue.bind, held_ask_iff]
    constructor
    · rintro ⟨answer, t', rfl, h⟩
      obtain ⟨t₁, t₂, a, rfl, h₁, h₂⟩ := (ih answer).1 h
      exact ⟨⟨q, answer⟩ :: t₁, t₂, a, rfl, .ask q next answer h₁, h₂⟩
    · rintro ⟨t₁, t₂, a, rfl, h₁, h₂⟩
      obtain ⟨answer, t', rfl, h'⟩ := held_ask_iff.1 h₁
      exact ⟨answer, t' ++ t₂, rfl, (ih answer).2 ⟨t', t₂, a, rfl, h', h₂⟩⟩

/-! ## The path that services take -/

/-- The questions that services are asked, with their answers. -/
def transcript {σ : Type} (services : Services σ) : Dialogue α → σ → List Exchange
  | .done _, _ => []
  | .ask q next, s =>
    let r := services.answer q s
    ⟨q, r.1⟩ :: transcript services (next r.1) r.2

/-- Services hold every dialogue to its end. -/
theorem held_run {σ : Type} (services : Services σ) (d : Dialogue α) (s : σ) :
    Held d (d.transcript services s) (d.run services s).1 := by
  induction d generalizing s with
  | done a => exact .done a
  | ask q next ih => exact .ask q next _ (ih _ _)

/-- They hold a dialogue that goes on with another by holding one after the other. -/
theorem run_bind {σ : Type} (services : Services σ) (d : Dialogue α) (f : α → Dialogue β) (s : σ) :
    (d >>= f).run services s = (f (d.run services s).1).run services (d.run services s).2 := by
  change (d.bind f).run services s = _
  induction d generalizing s with
  | done a => rfl
  | ask q next ih => exact ih _ _

/-! ## Questions that are answered by dialogues -/

/-- When the questions of a dialogue are answered by dialogues, each of these is held in turn. -/
theorem held_of_held_answerBy {f : (q : Query) → Dialogue q.Answer} {d : Dialogue α}
    {t : List Exchange} {a : α} (h : Held (d.answerBy f) t a) :
    ∃ xs parts, Held d xs a ∧ t = parts.flatten ∧
      List.Forall₂ (fun x part => Held (f x.query) part x.answer) xs parts := by
  induction d generalizing t with
  | done b =>
    obtain ⟨rfl, rfl⟩ := held_done_iff.1 h
    exact ⟨[], [], .done a, rfl, .nil⟩
  | ask q next ih =>
    obtain ⟨t₁, t₂, answer, rfl, hanswer, hnext⟩ := held_bind_iff.1 h
    obtain ⟨xs, parts, hheld, rfl, hparts⟩ := ih answer hnext
    exact ⟨⟨q, answer⟩ :: xs, t₁ :: parts, .ask q next answer hheld, rfl, .cons hanswer hparts⟩

/-! ## What is asked at all -/

/-- All questions of a dialogue are of a kind. -/
def Asks (p : Query → Prop) : Dialogue α → Prop
  | .done _ => True
  | .ask q next => p q ∧ ∀ answer, (next answer).Asks p

/-- A value asks nothing. -/
theorem asks_pure {p : Query → Prop} (a : α) : (pure a : Dialogue α).Asks p := trivial

/-- A dialogue of one question. -/
theorem asks_one {p : Query → Prop} {q : Query} (h : p q) : (ask q .done).Asks p :=
  ⟨h, fun _ => trivial⟩

/-- A dialogue that goes on with questions of the kind asks nothing else. -/
theorem Asks.bind {p : Query → Prop} {d : Dialogue α} {f : α → Dialogue β} (hd : d.Asks p)
    (hf : ∀ a, (f a).Asks p) : (d >>= f).Asks p := by
  change (d.bind f).Asks p
  induction d with
  | done a => exact hf a
  | ask q next ih => exact ⟨hd.1, fun answer => ih answer (hd.2 answer)⟩

/-- If those who answer the questions of a kind ask questions of another kind, then so do both. -/
theorem Asks.answerBy {p p' : Query → Prop} {f : (q : Query) → Dialogue q.Answer} {d : Dialogue α}
    (hd : d.Asks p) (hf : ∀ q, p q → (f q).Asks p') : (d.answerBy f).Asks p' := by
  induction d with
  | done a => trivial
  | ask q next ih =>
    have hq : (f q).Asks p' := hf q hd.1
    exact hq.bind fun answer => ih answer (hd.2 answer)

/-- Every question that is put when the dialogue is held is of the kind. -/
theorem Asks.of_held {p : Query → Prop} {d : Dialogue α} {t : List Exchange} {a : α}
    (hd : d.Asks p) (h : Held d t a) : ∀ x ∈ t, p x.query := by
  induction h with
  | done a => simp
  | ask q next answer _ ih =>
    intro x hx
    rcases List.mem_cons.1 hx with rfl | hx
    · exact hd.1
    · exact ih (hd.2 answer) x hx

/-- Where no question is of the kind that is looked for, nothing is found. -/
theorem Asks.filterMap_eq_nil {p : Query → Prop} {d : Dialogue α} {t : List Exchange} {a : α}
    (hd : d.Asks p) (h : Held d t a) {f : Exchange → Option β}
    (hf : ∀ x, p x.query → f x = none) : t.filterMap f = [] :=
  List.filterMap_eq_nil_iff.2 fun x hx => hf x (hd.of_held h x hx)

/-- Pauses are all that a pause asks for. -/
theorem asks_pause {p : Query → Prop} (h : ∀ ms, p (.pause ms)) (ms : Nat) :
    (pause ms).Asks p := by
  rw [pause]
  split
  · trivial
  · exact ⟨h ms, fun _ => trivial⟩

end CitedReport.Dialogue
