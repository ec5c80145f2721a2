import Mathlib.Data.List.Permutation
import CitedReport.Proofs.Chars.Trim
import CitedReport.Proofs.Json.Reading
import CitedReport.Proofs.Verdict.Span

/-!
# Reading a verdict out of an answer

A reviewer's answer may have an object in it, with other text in front and behind. The object is
read as it stands there, and the verdict is what it says (`parse?_extracts`): the members it must
have count, the others do not. Whatever the answer is, a verdict that is read accepts without a
prompt or rejects with one that says something.
-/

namespace CitedReport

/-- What is left after trimming says something. -/
theorem Text.isBlank_trim {text : String} (h : Text.trim text ≠ "") :
    Text.isBlank (Text.trim text) = false := by
  have hne : Chars.trim text.toList ≠ [] := by
    intro hnil
    rw [Text.trim, hnil] at h
    exact h rfl
  rw [Text.isBlank, Text.trim, String.toList_ofList]
  exact (Chars.startsInText_trim hne).allBlank_eq_false

namespace Json

/-- The values that an object has for a key. -/
def valuesOf (key : String) (members : List (String × Json)) : List Json :=
  (members.filter fun m => m.1 = key).map Prod.snd

/-- The first member counts if it has the key. -/
theorem valuesOf_cons (key : String) (m : String × Json) (members : List (String × Json)) :
    valuesOf key (m :: members)
      = if m.1 = key then m.2 :: valuesOf key members else valuesOf key members := by
  rw [valuesOf, List.filter_cons]
  split
  · next h => rw [if_pos (by simpa using h)]; rfl
  · next h => rw [if_neg (by simpa using h)]; rfl

/-- A member is the last value for its key. -/
theorem lookup_eq_getLast? (key : String) (members : List (String × Json)) :
    lookup key members = (valuesOf key members).getLast? := by
  induction members with
  | nil => rfl
  | cons m members ih =>
    rw [lookup, ih, valuesOf_cons]
    split
    · rw [List.getLast?_cons]
      cases (valuesOf key members).getLast? <;> rfl
    · exact Option.or_none

/-- Keys that have at most one value each are not repeated. -/
theorem distinctKeys_of_length_le {declared : List String} {members : List (String × Json)}
    (h : ∀ key ∈ declared, (valuesOf key members).length ≤ 1) :
    distinctKeys declared members = true := by
  induction members with
  | nil => rfl
  | cons m members ih =>
    rw [distinctKeys, Bool.and_eq_true, Bool.not_eq_true', Bool.and_eq_false_iff]
    constructor
    · by_cases hdeclared : m.1 ∈ declared
      · -- it has its one value already
        right
        have hlength := h m.1 hdeclared
        rw [valuesOf_cons, if_pos rfl, List.length_cons] at hlength
        have hnil : valuesOf m.1 members = [] := List.length_eq_zero_iff.1 (by omega)
        rw [List.any_eq_false]
        intro m' hm' hkey
        have hmem : m'.2 ∈ valuesOf m.1 members :=
          List.mem_map_of_mem (List.mem_filter.2 ⟨hm', hkey⟩)
        rw [hnil] at hmem
        cases hmem
      · left
        rwa [← Bool.not_eq_true, List.contains_iff_mem]
    · refine ih fun key hkey => Nat.le_trans ?_ (h key hkey)
      rw [valuesOf_cons]
      split
      · exact Nat.le_succ _
      · exact Nat.le_refl _

end Json

namespace Verdict

open Json

/-! ## What an object says -/

/-- What an object says of a text: whether it passes and what is to be revised, each at most once.
The prompt may be left out or be `null`; the other members are not looked at. -/
structure States (members : List (String × Json)) (passes : Bool) (prompt : Option String) :
    Prop where
  /-- It says whether the text passes. -/
  passes : valuesOf "passes" members = [.bool passes]
  /-- It says what is to be revised, or that there is nothing, or does not say. -/
  prompt : match prompt with
    | some text => valuesOf "revision_prompt" members = [.string text]
    | none => valuesOf "revision_prompt" members ∈ [[], [.null]]

/-- The verdict of a reviewer who says so: the prompt counts only when the text is rejected, and a
blank one does not. -/
def conclusion (passes : Bool) (prompt : Option String) : Verdict :=
  if passes then pass
  else fail ((prompt.filter fun text => !Text.isBlank text).getD genericRevision)

/-- A normalized verdict is the conclusion from what it says. -/
theorem normalized_eq (v : Verdict) : v.normalized = conclusion v.passes v.revisionPrompt := by
  obtain ⟨passes, prompt⟩ := v
  cases passes with
  | true => rfl
  | false =>
    cases prompt with
    | none => rfl
    | some text =>
      rw [normalized, conclusion]
      simp only [Option.filter_some]
      cases Text.isBlank text <;> rfl

/-- An object that states a verdict says each thing at most once. -/
theorem States.length_le {members : List (String × Json)} {passes : Bool} {prompt : Option String}
    (h : States members passes prompt) : ∀ key ∈ ["passes", "revision_prompt"],
      (valuesOf key members).length ≤ 1 := by
  obtain ⟨hpasses, hprompt⟩ := h
  simp only [List.forall_mem_cons, List.not_mem_nil, false_implies, implies_true, and_true]
  constructor
  · rw [hpasses, List.length_singleton]
  · cases prompt with
    | some text => rw [hprompt, List.length_singleton]
    | none =>
      rcases List.mem_pair.1 hprompt with hnil | hnull
      · rw [hnil]
        exact Nat.zero_le 1
      · rw [hnull, List.length_singleton]

/-- The members are read as they are meant. -/
theorem ofJson?_object {members : List (String × Json)} {passes : Bool} {prompt : Option String}
    (h : States members passes prompt) : ofJson? (.object members) = some ⟨passes, prompt⟩ := by
  have hrecord : record? ["passes", "revision_prompt"] (.object members) = some ⟨false, members⟩ :=
    if_pos (distinctKeys_of_length_le h.length_le)
  obtain ⟨hpasses, hprompt⟩ := h
  have hrequired : Record.required ⟨false, members⟩ "passes" bool? = some passes := by
    rw [Record.required, Record.value?, lookup_eq_getLast?, hpasses]
    rfl
  have hdefault : Record.withDefault ⟨false, members⟩ "revision_prompt" none (nullable string?)
      = some prompt := by
    rw [Record.withDefault, Record.value?, lookup_eq_getLast?]
    cases prompt with
    | some text =>
      rw [hprompt]
      rfl
    | none =>
      rcases List.mem_pair.1 hprompt with hnil | hnull
      · rw [hnil]
        rfl
      · rw [hnull]
        rfl
  rw [ofJson?, hrecord]
  simp only [Option.bind_eq_bind, Option.bind_some, hrequired, hdefault]
  rfl

/-! ## Verdicts in any answer -/

/-- A verdict as it is handed on: an accepted text has no prompt, and a rejected one has a prompt
that says something. -/
def Settled (v : Verdict) : Prop :=
  v = pass ∨ ∃ prompt, v = fail prompt ∧ Text.isBlank prompt = false

/-- Every conclusion is settled. -/
theorem settled_conclusion (passes : Bool) (prompt : Option String) :
    Settled (conclusion passes prompt) := by
  cases passes with
  | true => exact .inl rfl
  | false =>
    refine .inr ⟨_, rfl, ?_⟩
    cases hprompt : prompt.filter fun text => !Text.isBlank text with
    | none => decide +kernel
    | some text => simpa using (Option.filter_eq_some_iff.1 hprompt).2

/-- Plain words reject a text by all that they say, which is something. -/
theorem settled_of_ofWords? {text : String} {v : Verdict} (h : ofWords? text = some v) :
    Settled v := by
  simp only [ofWords?] at h
  rcases eq_or_ne (Text.trim text) "" with hnil | hne
  · -- nothing is said
    have hpass : ¬ (Text.asciiLower "" = "pass" ∨ Text.startsWith "pass\n" (Text.asciiLower "") ∨
        Text.contains "passes: true" (Text.asciiLower "")) := by
      decide +kernel
    have hfail : ¬ (Text.contains "passes: false" (Text.asciiLower "") ∨
        Text.startsWith "fail" (Text.asciiLower "")) := by
      decide +kernel
    rw [hnil, if_neg hpass, if_neg hfail] at h
    cases h
  · split at h
    · obtain rfl := Option.some.inj h
      exact .inl rfl
    · split at h
      · obtain rfl := Option.some.inj h
        exact .inr ⟨_, rfl, Text.isBlank_trim hne⟩
      · cases h

/-- A verdict that is read out of an answer is settled. -/
theorem settled_of_parse? {text : String} {v : Verdict} (h : parse? text = some v) :
    Settled v := by
  simp only [parse?] at h
  split at h
  · next read _ =>
    obtain rfl := Option.some.inj h
    rw [normalized_eq]
    exact settled_conclusion _ _
  · exact settled_of_ofWords? h

/-- The object in an answer is found as it stands there, whatever text is around it, and the verdict
is what it says. Every verdict that is read, from an object or from plain words, is settled. -/
theorem parse?_extracts :
    (∀ before object after : List Char, '{' ∉ before → IsPart .object object →
      objectSpan? (before ++ object ++ after) = some object ∧
      ∀ members passes prompt, Json.parse? (String.ofList object) = some (.object members) →
        States members passes prompt →
        parse? (String.ofList (before ++ object ++ after)) = some (conclusion passes prompt)) ∧
    ∀ text v, parse? text = some v → Settled v := by
  refine ⟨fun before object after hbefore hobject => ?_, fun text v => settled_of_parse?⟩
  have hspan := objectSpan?_append hbefore hobject after
  refine ⟨hspan, fun members passes prompt hmembers hstates => ?_⟩
  rw [parse?, String.toList_ofList, hspan]
  simp only [Option.map_some, Option.bind_some, hmembers, ofJson?_object hstates, normalized_eq]

/-- An object with brackets and escaped quotes in a string, in the middle of an answer. -/
theorem parse?_extracts_funding :
    parse? ("Verdict: \x7b\"passes\": false, " ++
      "\"revision_prompt\": \"Cite \\\"\x7bfunding\x7d\\\"\"\x7d \x7d")
      = some (fail "Cite \"\x7bfunding\x7d\"") := by
  let before := "Verdict: ".toList
  let object :=
    "\x7b\"passes\": false, \"revision_prompt\": \"Cite \\\"\x7bfunding\x7d\\\"\"\x7d".toList
  let members : List (String × Json) :=
    [("passes", .bool false), ("revision_prompt", .string "Cite \"\x7bfunding\x7d\"")]
  have hread : Json.parse? (String.ofList object) = some (.object members) := by
    unfold object members
    cbv
  have hobject : IsPart .object object := by
    refine isPart_object_of_parse? ?_ (by decide) (by decide)
    rw [hread]
    rfl
  have hstates : States members false (some "Cite \"\x7bfunding\x7d\"") := ⟨by rfl, by rfl⟩
  exact (parse?_extracts.1 before object " \x7d".toList (by decide) hobject).2 members false _ hread
    hstates

end Verdict

end CitedReport
