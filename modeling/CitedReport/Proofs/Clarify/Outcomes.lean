import CitedReport.Clarify
import CitedReport.Proofs.Completion.Asks
import CitedReport.Proofs.Plan.Lossless
import CitedReport.Proofs.WebAddress.Finding

/-!
# What comes of the clarification of a query

A query is left as it is, or its address gives way to a name, or the user is asked a question
(`Clarify.Clarified`): nothing else happens to it, and no failure of a service stops it. Which of
these it is depends on who answers what. Whoever can name what is behind the address is not followed
by any other question, and the user is only asked what the model has said instead of letting the
query pass.
-/

namespace CitedReport.Clarify

open Dialogue

/-! ## The answer of the model -/

/-- The answer of the model lets the query pass: it says the words for that, in any letter case. -/
def LetsPass (response : String) : Prop :=
  ∃ piece, piece <:+: response.toList ∧ Chars.asciiLowerAll piece = proceedMark.toList

/-- The answer is searched for the words that let a query pass, in any letter case. -/
theorem contains_proceedMark_iff {response : String} :
    Text.contains proceedMark (Text.asciiLower response) = true ↔ LetsPass response := by
  rw [Text.contains, Chars.contains_iff_infix, Text.asciiLower, String.toList_ofList]
  constructor
  · rintro ⟨front, rest, h⟩
    obtain ⟨front', rest', heq, hfront, -⟩ := List.append_eq_map_iff.1 h
    obtain ⟨before, piece, rfl, -, hpiece⟩ := List.append_eq_map_iff.1 hfront.symm
    exact ⟨piece, ⟨before, rest', heq.symm⟩, hpiece⟩
  · rintro ⟨piece, hoccurs, hpiece⟩
    rw [← hpiece]
    exact hoccurs.map Chars.asciiLower

/-- A question to the user: it is not blank, and there are no blanks around it. -/
def IsQuestion (text : String) : Prop := Text.isBlank text = false ∧ Text.trim text = text

/-- What the model answers is a question when it is trimmed. -/
theorem isQuestion_of_held {s : ModelSettings} {system user response : String} {t : List Exchange}
    (h : Held (s.completeText system user) t (.ok response)) :
    IsQuestion (Text.trim response) := by
  have hclean := Plan.clean_trim (not_isBlank_of_held_completeText h)
  exact ⟨(Plan.clean_iff.1 hclean).1.allBlank_eq_false, hclean.2⟩

/-! ## The outcomes -/

/-- Only of a text that is not blank something is left after trimming. -/
theorem trimmed?_eq (text : String) :
    Text.trimmed? text = if Text.isBlank text = true then none else some (Text.trim text) := by
  unfold Text.trimmed?
  cases hblank : Text.isBlank text with
  | true =>
    have htrim : Text.trim text = "" := by
      rw [Text.trim, Chars.trim_eq_nil_of_allBlank hblank, String.ofList_nil]
    exact if_pos htrim
  | false => exact if_neg (Plan.clean_trim hblank).1

/-- Nobody can name what is behind an address in the query: there is none, or what is answered for
it is no name. -/
inductive Unnamed (query : String) : List Exchange → Prop where
  /-- There is no address. -/
  | none (h : WebAddress.find? query = .none) : Unnamed query []
  /-- What is answered is nothing or blank. -/
  | some {found : WebAddress.Found} (h : WebAddress.find? query = .some found)
    {answer : Option String} (hanswer : ∀ name ∈ answer, Text.isBlank name = true) :
    Unnamed query [⟨.resolve (String.ofList found.url), answer⟩]

variable (s : ModelSettings) (query : String)

/-- What comes of a query, with what is asked on the way. -/
inductive Clarified : Bool → List Exchange → StageOutcome String → Prop where
  /-- When nothing is to be clarified, nothing is asked. -/
  | off : Clarified false [] (.proceed query)
  /-- The address gives way to the name of who is behind it. -/
  | named {found : WebAddress.Found} (h : WebAddress.find? query = some found) {name : String}
    (hname : Text.isBlank name = false) :
    Clarified true [⟨.resolve (String.ofList found.url), some name⟩]
      (.proceed (String.ofList found.before ++ Text.trim name ++ String.ofList found.after))
  /-- The model lets the query pass, or cannot be asked. -/
  | passed {asked t : List Exchange} (hasked : Unnamed query asked)
    {result : Except ModelError String}
    (h : Held (s.completeText Prompt.clarifySystem (Prompt.clarify query)) t result)
    (hpass : ∀ response, result = .ok response → LetsPass response) :
    Clarified true (asked ++ t) (.proceed query)
  /-- The model does not let it pass, and the user is asked what it says. -/
  | questioned {asked t : List Exchange} (hasked : Unnamed query asked) {response : String}
    (h : Held (s.completeText Prompt.clarifySystem (Prompt.clarify query)) t (.ok response))
    (hpass : ¬ LetsPass response) (hquestion : IsQuestion (Text.trim response)) :
    Clarified true (asked ++ t) (.terminate (Text.trim response))

variable {s query}

/-- What the model says of the query, when nobody can name what is behind an address in it. -/
theorem clarified_of_held_classify {asked t : List Exchange} {outcome : StageOutcome String}
    (hasked : Unnamed query asked) (h : Held (classify s query) t outcome) :
    Clarified s query true (asked ++ t) outcome := by
  obtain ⟨t₁, t₂, result, rfl, hresult, h⟩ := held_bind_iff.1 h
  cases result with
  | error e =>
    obtain ⟨rfl, rfl⟩ := held_pure_iff.1 h
    rw [List.append_nil]
    exact .passed hasked hresult nofun
  | ok response =>
    simp only at h
    split at h
    · next hpass =>
      obtain ⟨rfl, rfl⟩ := held_pure_iff.1 h
      rw [List.append_nil]
      refine .passed hasked hresult fun response' heq => ?_
      rw [← Except.ok.inj heq]
      exact contains_proceedMark_iff.1 hpass
    · next hpass =>
      obtain ⟨rfl, rfl⟩ := held_pure_iff.1 h
      rw [List.append_nil]
      exact .questioned hasked hresult (fun hlets => hpass (contains_proceedMark_iff.2 hlets))
        (isQuestion_of_held hresult)

/-- What is answered for an address decides whether the model is asked at all. -/
theorem clarified_of_answer {found : WebAddress.Found} (hfind : WebAddress.find? query = some found)
    (answer : Option String) {t : List Exchange} {outcome : StageOutcome String}
    (h : Held (match answer.bind Text.trimmed? with
      | some name => return .proceed (String.ofList found.before ++ name ++ String.ofList found.after)
      | none => classify s query) t outcome) :
    Clarified s query true ([⟨.resolve (String.ofList found.url), answer⟩] ++ t) outcome := by
  cases answer with
  | none => exact clarified_of_held_classify (.some hfind nofun) h
  | some name =>
    rw [Option.bind_some, trimmed?_eq] at h
    cases hblank : Text.isBlank name with
    | true =>
      rw [hblank, if_pos rfl] at h
      refine clarified_of_held_classify (.some hfind fun name' hname => ?_) h
      rw [← Option.some.inj hname, hblank]
    | false =>
      rw [hblank, if_neg Bool.false_ne_true] at h
      obtain ⟨rfl, rfl⟩ := held_pure_iff.1 h
      exact .named hfind hblank

/-- However the questions are answered, one of the four outcomes comes of a query. -/
theorem clarified_of_held {enabled : Bool} {t : List Exchange} {outcome : StageOutcome String}
    (h : Held (clarify s query enabled) t outcome) : Clarified s query enabled t outcome := by
  unfold clarify at h
  cases enabled with
  | false =>
    obtain ⟨rfl, rfl⟩ := held_pure_iff.1 h
    exact .off
  | true =>
    simp only [Bool.not_true, Bool.false_eq_true, if_false] at h
    split at h
    · next hfind => exact clarified_of_held_classify (.none hfind) h
    · next found hfind =>
      obtain ⟨t₁, t₂, answer, rfl, hanswer, hnext⟩ := held_bind_iff.1 h
      obtain rfl := held_ask_done_iff.1 hanswer
      exact clarified_of_answer hfind answer hnext

/-- A query that does not go on is answered with a question. -/
theorem Clarified.settled {enabled : Bool} {t : List Exchange} {outcome : StageOutcome String}
    (h : Clarified s query enabled t outcome) :
    (∃ query', outcome = .proceed query') ∨
      ∃ question, outcome = .terminate question ∧ IsQuestion question := by
  cases h with
  | off => exact .inl ⟨_, rfl⟩
  | named _ _ => exact .inl ⟨_, rfl⟩
  | passed _ _ _ => exact .inl ⟨_, rfl⟩
  | questioned _ _ _ hquestion => exact .inr ⟨_, rfl, hquestion⟩

/-- Whatever the services answer, an address in a query stands in it as a part that is an address by
itself, and nothing but that part of the query is ever changed. -/
theorem clarified_clarify {σ : Type} (services : Services σ) (state : σ) (s : ModelSettings)
    (query : String) (enabled : Bool) :
    let work := clarify s query enabled
    (∀ found, WebAddress.find? query = some found → found.Stands query) ∧
      Clarified s query enabled (work.transcript services state) (work.run services state).1 :=
  ⟨fun _ hfound => WebAddress.stands_of_find? hfound, clarified_of_held (held_run services _ state)⟩

end CitedReport.Clarify
