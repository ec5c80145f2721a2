import CitedReport.Proofs.Citation.Carried
import CitedReport.Proofs.Citation.Substitution
import CitedReport.Task.Finding

/-!
# Escaped citations stay inert

Bracketed numbers that are no references are escaped, and everything that looks for citations
afterwards has to pass them over. Escaping is a substitution with nothing to put in, so no marker is
left in an escaped text (`inert_escapeChars`), and a text without markers goes through every pass
over citations as it is: through the numbering of a tool's output, through the renumbering of a
note, and through escaping again.
-/

namespace CitedReport.Citation

/-! ## Texts without markers -/

section

variable {cs : List Char}

/-- Replacing the parts of a text without markers leaves it if characters stay. -/
theorem Inert.flatMap_pieces (h : Inert cs) {f : Piece → List Char} (hf : ∀ c, f (.char c) = [c]) :
    (pieces cs).flatMap f = cs := by
  rw [h.pieces_eq, List.flatMap_map]
  simp only [hf, List.flatMap_singleton']

/-- A text without markers is escaped by doing nothing. -/
theorem Inert.escapeChars_eq (h : Inert cs) : escapeChars cs = cs := h.flatMap_pieces fun _ => rfl

/-- Renumbering a note leaves a text without markers. -/
theorem Inert.renumber_eq (h : Inert cs) (resolve : Nat → Resolution) : renumber resolve cs = cs := by
  have hchars := renumberFrom_chars resolve cs [] []
  rw [List.append_nil, List.append_nil] at hchars
  rw [renumber, h.pieces_eq, hchars, renumberFrom, List.reverse_reverse]

/-- Numbering an output leaves a text without markers. -/
theorem Inert.renumberContent_eq {s : String} (h : Inert s.toList) (numbers : List Nat) :
    Task.renumberContent numbers s = s := by
  rw [Task.renumberContent, h.flatMap_pieces fun _ => rfl, String.ofList_toList]

end

/-! ## Escaped texts -/

/-- Escaping puts nothing in the place of a marker. -/
theorem escapeChars_eq_substitute (cs : List Char) :
    escapeChars cs = substitute (fun _ => none) cs := rfl

/-- There are no markers in an escaped text. -/
theorem inert_escapeChars (cs : List Char) : Inert (escapeChars cs) := by
  have hnone : ∀ m : Marker, m.WellFormed → ∀ m' ∈ (none : Option Marker), m'.WellFormed :=
    fun _ _ _ h => nomatch h
  rw [inert_iff, escapeChars_eq_substitute, markers_substitute hnone, List.filterMap_none]

/-- A text with a backslash in front of each bracket. -/
def guardBrackets (cs : List Char) : List Char :=
  cs.flatMap fun c => if c = '[' ∨ c = ']' then ['\\', c] else [c]

/-- A part of a text, with its brackets guarded if it is a marker. -/
def Piece.guarded : Piece → List Char
  | .char c => [c]
  | .marker m => guardBrackets m.text

/-- A marker is escaped by guarding its brackets. -/
theorem Marker.WellFormed.guardBrackets_text {m : Marker} (h : m.WellFormed) :
    guardBrackets m.text = m.escaped := by
  have hinner : m.inner = m.first ++ moreText m.more := by simp [inner, tokens, moreText]
  -- between its brackets a marker has no others
  have hplain : guardBrackets m.inner = m.inner := by
    refine (List.flatMap_congr fun c hc => if_neg ?_).trans (List.flatMap_singleton' _)
    rw [hinner] at hc
    have hclass := class_of_mem_inner h hc
    rintro (rfl | rfl)
    · exact absurd hclass (by decide)
    · exact absurd hclass (by decide)
  unfold guardBrackets at hplain ⊢
  rw [text, List.flatMap_cons, List.flatMap_append, hplain]
  rfl

/-- Escaping guards the brackets of the markers and leaves everything else. -/
theorem Scan.escapeChars_eq {cs : List Char} {ps : List Piece} (h : Scan cs ps) :
    escapeChars cs = ps.flatMap Piece.guarded := by
  rw [escapeChars, ← h.eq_pieces]
  refine List.flatMap_congr fun p hp => ?_
  cases p with
  | char c => rfl
  | marker m => exact (h.wellFormed hp).guardBrackets_text.symm

/-- Escaped citations stay inert. In an escaped text no marker stands anywhere. It is the text with
a backslash in front of each bracket of each of its markers, so that escaping once more changes
nothing, and escaping changes nothing at all just when there is no marker. Numbering it as the
output of a tool leaves it, whatever the numbers of the sources are, and so does renumbering it as a
note, whatever becomes of a number. -/
theorem escape_inert (s : String) :
    Inert (escape s).toList ∧
      (∃ ps, Scan s.toList ps ∧ (escape s).toList = ps.flatMap Piece.guarded) ∧
      escape (escape s) = escape s ∧
      (escape s = s ↔ Inert s.toList) ∧
      (∀ numbers : List Nat, Task.renumberContent numbers (escape s) = escape s) ∧
      ∀ resolve : Nat → Resolution, renumber resolve (escape s).toList = (escape s).toList := by
  have hchars : (escape s).toList = escapeChars s.toList := String.toList_ofList
  have hinert : Inert (escape s).toList := hchars ▸ inert_escapeChars s.toList
  have hself : ∀ t : String, Inert t.toList → escape t = t := fun t ht => by
    rw [escape, ht.escapeChars_eq, String.ofList_toList]
  refine ⟨hinert, ⟨pieces s.toList, scan_pieces s.toList, ?_⟩, hself _ hinert,
    ⟨fun hsame => hsame ▸ hinert, hself s⟩, hinert.renumberContent_eq, hinert.renumber_eq⟩
  rw [hchars, (scan_pieces s.toList).escapeChars_eq]

/-- A marker inside brackets, and one that is escaped already. -/
example : escape "[1[2, 3]4] \\[5\\]" = "[1\\[2, 3\\]4] \\[5\\]" := by decide +kernel

end CitedReport.Citation
