import CitedReport.Task.Basic
import CitedReport.Proofs.Completion.Asks
import CitedReport.Proofs.Dialogue.Held
import CitedReport.Proofs.Task.Answers
import CitedReport.Proofs.Task.Numbering

/-!
# What a task receives and keeps

The exchanges of a task tell which outputs its tools have given: `received` reads them off. Whatever
the model does between the calls, what is gathered is what comes of recording these outputs one
after the other (`recordAll`), and the finding of a task that is completed is put together from that
(`exists_finding_eq`).
-/

namespace CitedReport.Task

open Dialogue

/-- An output of a tool, with the call that it answers. -/
structure Received where
  /-- The tool. -/
  name : String
  /-- The arguments of the call. -/
  arguments : Json.Sorted
  /-- The output. -/
  output : ToolOutput

/-- The output that an exchange brings: a call of a tool that there is, answered in time and with
success. -/
def received? (tools : Toolbox) : Exchange → Option Received
  | ⟨.callTool name arguments, answer⟩ =>
    let answer : Delayed (Except ToolError ToolOutput) := answer
    (tools.find? name).bind fun tool =>
      if tool.timeoutMs < answer.delayMs then none
      else answer.value.toOption.map fun output => ⟨name, arguments, output⟩
  | _ => none

/-- The outputs that some exchanges bring, in order. -/
def received (tools : Toolbox) (t : List Exchange) : List Received := t.filterMap (received? tools)

/-- Records outputs one after the other: the passages, and the sources in the end. -/
def recordAll : LocalSources → List Received → List String × LocalSources
  | l, [] => ([], l)
  | l, x :: rest =>
    let (recorded, l) := recordOutput x.name (describeArguments x.arguments) x.output l
    let (passages, l) := recordAll l rest
    (recorded.passage :: passages, l)

/-! ## Questions that bring no output -/

/-- The question is not a call of a tool. -/
def NoCall : Query → Prop
  | .callTool _ _ => False
  | _ => True

/-- A dialogue without calls brings no output. -/
theorem received_of_asks {α : Type} {tools : Toolbox} {d : Dialogue α} {t : List Exchange} {a : α}
    (hd : d.Asks NoCall) (h : Held d t a) : received tools t = [] := by
  refine hd.filterMap_eq_nil h ?_
  rintro ⟨q, answer⟩ hq
  cases q with
  | callTool name arguments => exact absurd hq id
  | _ => rfl

/-- Asking the model takes no calls. -/
theorem admitsModel_noCall : AdmitsModel NoCall where
  complete _ := trivial
  charge _ := trivial
  pause _ := trivial

/-! ## Calls -/

/-- Outputs come in the order of the exchanges. -/
theorem received_append (tools : Toolbox) (t₁ t₂ : List Exchange) :
    received tools (t₁ ++ t₂) = received tools t₁ ++ received tools t₂ :=
  List.filterMap_append

/-- A pause of a call brings nothing, and its result is handed on. -/
theorem received_of_held_pause {α : Type} {tools : Toolbox} {ms : Nat} {t : List Exchange}
    {r r' : α} (h : Held (pause ms >>= fun _ => pure r) t r') : received tools t = [] ∧ r' = r := by
  obtain ⟨t₁, t₂, _, rfl, hpause, h⟩ := held_bind_iff.1 h
  obtain ⟨rfl, rfl⟩ := held_pure_iff.1 h
  rw [List.append_nil]
  exact ⟨received_of_asks (asks_pause admitsModel_noCall.pause ms) hpause, rfl⟩

/-- A call brings the output that it hands on. -/
theorem received_execute {tools : Toolbox} {name : String} {arguments : Json.Sorted}
    {t : List Exchange} {r : Except ToolError ToolOutput}
    (h : Held (tools.execute name arguments) t r) :
    received tools t = (r.toOption.map fun output => ⟨name, arguments, output⟩).toList := by
  unfold Toolbox.execute at h
  split at h
  · obtain ⟨rfl, rfl⟩ := held_pure_iff.1 h
    rfl
  · next tool htool =>
    rw [held_bind_iff] at h
    obtain ⟨t₁, t₂, answer, rfl, hcall, h⟩ := h
    obtain rfl := held_ask_done_iff.1 hcall
    rw [received_append]
    split at h
    · next hlate =>
      obtain ⟨hnil, rfl⟩ := received_of_held_pause h
      rw [hnil]
      simp [received, received?, htool, hlate, Except.toOption]
    · next hlate =>
      obtain ⟨hnil, rfl⟩ := received_of_held_pause h
      rw [hnil]
      cases hvalue : answer.value with
      | error e => simp [received, received?, htool, hvalue, Except.toOption]
      | ok output => simp [received, received?, htool, hlate, hvalue, Except.toOption]

/-! ## Recording -/

/-- The first output is recorded before the others. -/
theorem recordAll_cons (l : LocalSources) (x : Received) (xs : List Received) :
    recordAll l (x :: xs)
      = ((recordOutput x.name (describeArguments x.arguments) x.output l).1.passage ::
          (recordAll (recordOutput x.name (describeArguments x.arguments) x.output l).2 xs).1,
        (recordAll (recordOutput x.name (describeArguments x.arguments) x.output l).2 xs).2) :=
  rfl

/-- Later outputs are recorded behind the sources of the earlier ones. -/
theorem recordAll_append (l : LocalSources) (xs ys : List Received) :
    recordAll l (xs ++ ys) = ((recordAll l xs).1 ++ (recordAll (recordAll l xs).2 ys).1,
      (recordAll (recordAll l xs).2 ys).2) := by
  induction xs generalizing l with
  | nil => rfl
  | cons x xs ih =>
    rw [List.cons_append, recordAll, recordAll]
    simp only [ih, List.cons_append]

/-- Recording adds sources at the end. -/
theorem recordAll_extends (l : LocalSources) (xs : List Received) :
    l.entries <+: (recordAll l xs).2.entries := by
  induction xs generalizing l with
  | nil => exact List.prefix_refl _
  | cons x xs ih => exact (l.numberAll_extends x.output.sources).trans (ih _)

/-- A source that is there after recording was there before or is one of an output. -/
theorem mem_or_exists_of_mem_recordAll {l : LocalSources} {xs : List Received} {e : SourceRef}
    (h : e ∈ (recordAll l xs).2.entries) : e ∈ l.entries ∨ ∃ x ∈ xs, e ∈ x.output.sources := by
  induction xs generalizing l with
  | nil => exact .inl h
  | cons x xs ih =>
    rcases ih h with h | ⟨y, hy, he⟩
    · rcases LocalSources.mem_or_mem_of_mem_numberAll h with h | h
      · exact .inl h
      · exact .inr ⟨x, List.mem_cons_self, h⟩
    · exact .inr ⟨y, List.mem_cons_of_mem _ hy, he⟩

/-- The sources of a task are plain when those of its outputs are. -/
theorem plain_of_mem_recordAll {xs : List Received}
    (h : ∀ x ∈ xs, ∀ source ∈ x.output.sources, source.Plain) :
    ∀ s ∈ (recordAll {} xs).2.entries, s.Plain := by
  intro s hs
  rcases mem_or_exists_of_mem_recordAll hs with hs | ⟨x, hx, hs⟩
  · exact absurd hs List.not_mem_nil
  · exact h x hx s hs

/-! ## What is gathered -/

/-- From one stage of a task to another exactly these outputs are recorded. -/
structure Gathers (p p' : Progress) (xs : List Received) : Prop where
  /-- Their passages are added. -/
  sections : p'.sections = p.sections ++ (recordAll p.sources xs).1
  /-- Their sources are numbered. -/
  sources : p'.sources = (recordAll p.sources xs).2

/-- Nothing is recorded between a stage and itself. -/
theorem Gathers.refl (p : Progress) : Gathers p p [] := ⟨(List.append_nil _).symm, rfl⟩

/-- What is recorded on the way is recorded one after the other. -/
theorem Gathers.trans {p p' p'' : Progress} {xs ys : List Received} (h : Gathers p p' xs)
    (h' : Gathers p' p'' ys) : Gathers p p'' (xs ++ ys) := by
  constructor
  · rw [h'.sections, h.sections, h.sources, recordAll_append, List.append_assoc]
  · rw [h'.sources, h.sources, recordAll_append]

/-- The messages of the conversation have no part in what is gathered. -/
theorem Gathers.of_messages {p p' : Progress} {messages : List Message} {xs : List Received}
    (h : Gathers { p with messages } p' xs) : Gathers p p' xs :=
  ⟨h.sections, h.sources⟩

/-- Taking in the result of a call records its output, if there is one. -/
theorem gathers_take (p : Progress) (call : ToolCall) (r : Except ToolError ToolOutput) :
    Gathers p (p.take call r)
      (r.toOption.map fun output => ⟨call.name, call.arguments, output⟩).toList := by
  cases r with
  | error e => exact ⟨(List.append_nil _).symm, rfl⟩
  | ok output => exact ⟨rfl, rfl⟩

/-- The calls of a turn record what they bring. -/
theorem gathers_runCalls {tools : Toolbox} {p p' : Progress} {calls : List ToolCall}
    {t : List Exchange} (h : Held (runCalls tools p calls) t p') :
    Gathers p p' (received tools t) := by
  induction calls generalizing p t with
  | nil =>
    obtain ⟨rfl, rfl⟩ := held_pure_iff.1 h
    exact .refl p'
  | cons call rest ih =>
    rw [runCalls, held_bind_iff] at h
    obtain ⟨t₁, t₂, r, rfl, hcall, h⟩ := h
    rw [received_append, received_execute hcall]
    exact (gathers_take p call r).trans (ih h)

/-- The conversation records what the tools bring. -/
theorem gathers_converse {s : ModelSettings} {tools : Toolbox} {turns : Nat} {p p' : Progress}
    {summary : Option String} {t : List Exchange}
    (h : Held (converse s tools turns p) t (.ok (p', summary))) :
    Gathers p p' (received tools t) := by
  induction turns generalizing p t with
  | zero =>
    obtain ⟨rfl, heq⟩ := held_pure_iff.1 h
    obtain ⟨rfl, -⟩ := Prod.mk.inj (Except.ok.inj heq)
    exact .refl p'
  | succ turns ih =>
    rw [converse, held_bind_iff] at h
    obtain ⟨t₁, t₂, answer, rfl, hthink, h⟩ := h
    -- asking the model brings no output
    have hquiet : received tools t₁ = [] :=
      received_of_asks (ModelSettings.asks_think admitsModel_noCall ..) hthink
    rw [received_append, hquiet, List.nil_append]
    cases answer with
    | error e => simp [held_pure_iff] at h
    | ok c =>
      simp only at h
      split at h
      · obtain ⟨rfl, heq⟩ := held_pure_iff.1 h
        obtain ⟨rfl, -⟩ := Prod.mk.inj (Except.ok.inj heq)
        exact .refl p'
      · obtain ⟨t₃, t₄, q, rfl, hcalls, h⟩ := held_bind_iff.1 h
        rw [received_append]
        exact ((gathers_runCalls hcalls).of_messages).trans (ih h)

/-! ## The finding -/

/-- The finding of a task that could not be carried out says so. -/
theorem isFailure_failed (group reason : String) :
    (TaskResult.failed group reason).isFailure = true := by
  have hafter : Chars.after? TaskResult.failureMark.toList
      (TaskResult.failureMark ++ " " ++ reason).toList = some (" " ++ reason).toList := by
    rw [Chars.after?_eq_some_iff, String.append_assoc, String.toList_append]
  change (Chars.after? _ (TaskResult.failureMark ++ " " ++ reason).toList).isSome = true
  rw [hafter]
  rfl

/-- The parts of a finding: its title, a notice if there is nothing else, the passages, the notes of
the model, and the list of sources. -/
theorem exists_assemble_eq (group : String) (sections : List String) (summary : Option String)
    (sources : LocalSources) :
    ∃ notice notes : String, (sections ≠ [] → notice = "") ∧
      assemble group sections summary sources
        = "## Research topic: " ++ topicTitle group ++ "\n\n" ++ notice ++
          String.join (sections.map (· ++ "\n\n")) ++ notes ++ sources.render :=
  ⟨_, _, fun h => if_neg fun hnone => h hnone.1, rfl⟩

/-- The finding of a task that was carried out does not begin like that of one that was not. -/
theorem isFailureNote_assemble (group : String) (sections : List String) (summary : Option String)
    (sources : LocalSources) :
    TaskResult.isFailureNote (assemble group sections summary sources) = false := by
  obtain ⟨notice, notes, -, heq⟩ := exists_assemble_eq group sections summary sources
  have hhead : "## Research topic: ".toList = '#' :: "# Research topic: ".toList := rfl
  rw [TaskResult.isFailureNote, Text.startsWith, heq]
  simp only [String.toList_append, hhead, List.cons_append]
  rfl

/-- The finding of a task that is completed is put together from the outputs that it received and
the remark of the model. -/
theorem finding_eq {s : ModelSettings} {tools : Toolbox} {maxTurns : Nat} {group : String}
    {subject : SubjectType} {t : List Exchange} {result : TaskResult}
    (h : Held (execute s tools maxTurns group subject) t result)
    (hdone : result.isFailure = false) :
    result.finding = assemble group (recordAll {} (received tools t)).1 (remark t)
      (recordAll {} (received tools t)).2 := by
  rw [execute, held_bind_iff] at h
  obtain ⟨t₁, t₂, outcome, rfl, hconverse, h⟩ := h
  cases outcome with
  | error e =>
    obtain ⟨-, rfl⟩ := held_pure_iff.1 h
    rw [isFailure_failed] at hdone
    contradiction
  | ok gathered =>
    obtain ⟨rfl, rfl⟩ := held_pure_iff.1 h
    have hgathers := gathers_converse hconverse
    rw [List.append_nil, ← eq_remark_of_held hconverse]
    simp only [hgathers.sections, hgathers.sources, List.nil_append]

/-- The finding of a task that did not fail is put together from all outputs that it received. -/
theorem exists_finding_eq {s : ModelSettings} {tools : Toolbox} {maxTurns : Nat} {group : String}
    {subject : SubjectType} {t : List Exchange} {result : TaskResult}
    (h : Held (execute s tools maxTurns group subject) t result)
    (hdone : result.isFailure = false) :
    ∃ summary, result.finding = assemble group (recordAll {} (received tools t)).1 summary
      (recordAll {} (received tools t)).2 :=
  ⟨remark t, finding_eq h hdone⟩

/-- The finding of a task that fails says what the model has answered last instead of a completion,
or that the conversation has got too long for it. -/
theorem exists_finding_eq_failed {s : ModelSettings} {tools : Toolbox} {maxTurns : Nat}
    {group : String} {subject : SubjectType} {t : List Exchange} {result : TaskResult}
    (h : Held (execute s tools maxTurns group subject) t result)
    (hfailed : result.isFailure = true) :
    ∃ e : ModelError, result.finding = (TaskResult.failed group e.message).finding ∧
      ((answers t).getLast? = some (.error e) ∨
        ∃ used, e = .contextOverflow used s.contextWindow) := by
  rw [execute, held_bind_iff] at h
  obtain ⟨t₁, t₂, outcome, rfl, hconverse, h⟩ := h
  cases outcome with
  | error e =>
    obtain ⟨rfl, rfl⟩ := held_pure_iff.1 h
    rw [List.append_nil]
    exact ⟨e, rfl, getLast?_answers_of_held hconverse⟩
  | ok gathered =>
    obtain ⟨-, rfl⟩ := held_pure_iff.1 h
    rw [TaskResult.isFailure, isFailureNote_assemble] at hfailed
    contradiction

end CitedReport.Task
