import CitedReport.Proofs.Chars.Search
import CitedReport.Proofs.Chars.Trim

/-!
# Where lines begin

A text can be cut where a line begins, and then its lines are those of the two parts
(`lines_append`). The other way round, wherever the list of lines is cut the text can be cut
(`exists_append_of_lines`). A line has lost its end, but that is made of blanks: what is not blank
in a text is what is not blank in its lines (`withoutBlanks_flatten_lines`).
-/

namespace CitedReport.Chars

/-! ## Cutting a text -/

/-- A line begins behind this text: there is nothing in it, or a line feed ends it. -/
def LineBegins (before : List Char) : Prop := ∀ c ∈ before.getLast?, c = '\n'

/-- A line begins where a text begins. -/
theorem lineBegins_nil : LineBegins [] := by simp [LineBegins]

/-- A line begins behind a line feed. -/
theorem lineBegins_concat (front : List Char) : LineBegins (front ++ ['\n']) := by
  simp [LineBegins]

/-- Lines begin nowhere else. -/
theorem LineBegins.eq_nil_or_concat {before : List Char} (h : LineBegins before) :
    before = [] ∨ ∃ front, before = front ++ ['\n'] := by
  rcases List.eq_nil_or_concat' before with hnil | ⟨front, c, rfl⟩
  · exact .inl hnil
  · have hc : c = '\n' := h c (by simp)
    exact .inr ⟨front, by rw [hc]⟩

/-- Whether a line begins behind a text is decided by what stands last. -/
theorem lineBegins_append_iff {cs : List Char} (hne : cs ≠ []) (before : List Char) :
    LineBegins (before ++ cs) ↔ LineBegins cs := by
  unfold LineBegins
  rw [List.getLast?_append_of_ne_nil _ hne]

/-- Where a line begins behind a text, one begins behind each end of it. -/
theorem LineBegins.of_append {before cs : List Char} (h : LineBegins (before ++ cs)) :
    LineBegins cs := by
  rcases eq_or_ne cs [] with rfl | hne
  · exact lineBegins_nil
  · exact (lineBegins_append_iff hne before).1 h

/-- A line begins behind two texts when one begins behind each. -/
theorem LineBegins.append {before cs : List Char} (hbefore : LineBegins before)
    (h : LineBegins cs) : LineBegins (before ++ cs) := by
  rcases eq_or_ne cs [] with rfl | hne
  · rw [List.append_nil]
    exact hbefore
  · exact (lineBegins_append_iff hne before).2 h

/-- No line begins behind a text that has no line feed and is not empty. -/
theorem LineBegins.eq_nil_of_not_mem {before : List Char} (h : LineBegins before)
    (hmem : '\n' ∉ before) : before = [] := by
  rcases h.eq_nil_or_concat with hnil | ⟨front, rfl⟩
  · exact hnil
  · exact absurd (List.mem_append_right front (List.mem_singleton_self '\n')) hmem

/-- What holds of a text without line feeds, and of a text with one more line in front when it holds
of the text, holds of every text. -/
@[elab_as_elim]
theorem line_induction {motive : List Char → Prop} (last : ∀ cs, '\n' ∉ cs → motive cs)
    (line : ∀ l rest, '\n' ∉ l → motive rest → motive (l ++ '\n' :: rest)) (cs : List Char) :
    motive cs :=
  piece_induction '\n' last line cs

/-! ## The lines of the parts -/

/-- A text without a line feed is one line, if it is anything. -/
theorem lines_of_not_mem {cs : List Char} (h : '\n' ∉ cs) :
    lines cs = if cs = [] then [] else [cs] := by
  rw [lines, splitOn_of_forall (beq_eq_false_of_not_mem h), linesOfPieces]

/-- What a line loses stands at its end. -/
theorem dropReturn_begins (cs : List Char) : dropReturn cs <+: cs := by
  rcases dropReturn_eq_or cs with heq | heq
  · exact ⟨[], by rw [heq, List.append_nil]⟩
  · exact ⟨['\r'], heq.symm⟩

/-- There is no line feed in a line. -/
theorem newline_not_mem_of_mem_lines {cs line : List Char} (h : line ∈ lines cs) : '\n' ∉ line := by
  induction cs using line_induction with
  | last cs hcs =>
    rw [lines_of_not_mem hcs] at h
    split at h
    · cases h
    · rw [List.mem_singleton.1 h]
      exact hcs
  | line l rest hl ih =>
    rw [lines_append_cons hl] at h
    rcases List.mem_cons.1 h with rfl | hrest
    · exact fun hmem => hl ((dropReturn_begins l).subset hmem)
    · exact ih hrest

/-- A text that is cut where a line begins has the lines of the parts. -/
theorem lines_append {before : List Char} (h : LineBegins before) (after : List Char) :
    lines (before ++ after) = lines before ++ lines after := by
  induction before using line_induction with
  | last cs hcs =>
    rw [h.eq_nil_of_not_mem hcs]
    rfl
  | line l rest hl ih =>
    have hcons : l ++ '\n' :: rest = (l ++ ['\n']) ++ rest := by simp
    have hrest : LineBegins rest := LineBegins.of_append (hcons ▸ h)
    rw [List.append_assoc, List.cons_append, lines_append_cons hl, lines_append_cons hl, ih hrest,
      List.cons_append]

/-- Where the lines of a text are cut in front of one of them, the text is cut where it begins. -/
theorem exists_append_of_lines {cs : List Char} {xs ys : List (List Char)}
    (h : lines cs = xs ++ ys) (hne : ys ≠ []) :
    ∃ before after, cs = before ++ after ∧ LineBegins before ∧ lines before = xs ∧
      lines after = ys := by
  induction cs using line_induction generalizing xs with
  | last cs hcs =>
    -- there is one line at most, and it is one of those behind the cut
    have hlength : xs.length + ys.length ≤ 1 := by
      rw [← List.length_append, ← h, lines_of_not_mem hcs]
      split <;> simp
    have hys := List.length_pos_iff.2 hne
    have hxs : xs = [] := List.length_eq_zero_iff.1 (by omega)
    rw [hxs, List.nil_append] at h
    exact ⟨[], cs, rfl, lineBegins_nil, hxs ▸ rfl, h⟩
  | line l rest hl ih =>
    rw [lines_append_cons hl] at h
    cases xs with
    | nil =>
      refine ⟨[], l ++ '\n' :: rest, rfl, lineBegins_nil, rfl, ?_⟩
      rw [lines_append_cons hl]
      exact h
    | cons x xs =>
      obtain ⟨hx, hrest⟩ := List.cons.inj h
      obtain ⟨before, after, rfl, hbefore, hxs, hys⟩ := ih hrest
      refine ⟨l ++ '\n' :: before, after, by simp, ?_, ?_, hys⟩
      · have hcons : l ++ '\n' :: before = (l ++ ['\n']) ++ before := by simp
        rw [hcons]
        exact (lineBegins_concat l).append hbefore
      · rw [lines_append_cons hl, hx, hxs]

/-! ## What is not blank -/

/-- The characters of a text that are no blanks. -/
def withoutBlanks (cs : List Char) : List Char := cs.filter fun c => !isBlank c

/-- Blanks are left out of each part of a text. -/
@[simp] theorem withoutBlanks_append (xs ys : List Char) :
    withoutBlanks (xs ++ ys) = withoutBlanks xs ++ withoutBlanks ys :=
  List.filter_append ..

/-- Of blanks alone nothing is left. -/
theorem withoutBlanks_eq_nil {cs : List Char} (h : ∀ c ∈ cs, isBlank c = true) :
    withoutBlanks cs = [] :=
  List.filter_eq_nil_iff.2 fun c hc => by simp [h c hc]

/-- What is dropped in front of a text is blank. -/
theorem withoutBlanks_trimStart (cs : List Char) :
    withoutBlanks (trimStart cs) = withoutBlanks cs := by
  have hblank : withoutBlanks (cs.takeWhile isBlank) = [] :=
    withoutBlanks_eq_nil fun c hc => List.mem_takeWhile_imp hc
  calc withoutBlanks (trimStart cs)
      = withoutBlanks (cs.takeWhile isBlank) ++ withoutBlanks (trimStart cs) := by
        rw [hblank, List.nil_append]
    _ = withoutBlanks (cs.takeWhile isBlank ++ trimStart cs) := (withoutBlanks_append ..).symm
    _ = withoutBlanks cs := by rw [trimStart, List.takeWhile_append_dropWhile]

/-- So is what is dropped at its end. -/
theorem withoutBlanks_trimEnd (cs : List Char) : withoutBlanks (trimEnd cs) = withoutBlanks cs := by
  have hstart := withoutBlanks_trimStart cs.reverse
  unfold withoutBlanks at hstart ⊢
  rw [List.filter_reverse] at hstart
  rw [trimEnd, dropEndWhile, List.filter_reverse, ← trimStart, hstart, List.reverse_reverse]

/-- Trimming takes away nothing but blanks. -/
theorem withoutBlanks_trim (cs : List Char) : withoutBlanks (trim cs) = withoutBlanks cs := by
  rw [trim, withoutBlanks_trimEnd, withoutBlanks_trimStart]

/-- A carriage return is blank. -/
theorem withoutBlanks_dropReturn (cs : List Char) :
    withoutBlanks (dropReturn cs) = withoutBlanks cs := by
  rcases dropReturn_eq_or cs with heq | heq
  · rw [heq]
  · have hreturn : withoutBlanks ['\r'] = [] := by decide
    conv_rhs => rw [heq]
    rw [withoutBlanks_append, hreturn, List.append_nil]

/-- Lines that are joined say what they say one by one. -/
theorem withoutBlanks_intercalate (ls : List (List Char)) :
    withoutBlanks (List.intercalate ['\n'] ls) = withoutBlanks ls.flatten := by
  induction ls with
  | nil => rfl
  | cons line rest ih =>
    cases rest with
    | nil => simp
    | cons line' rest =>
      have hfeed : withoutBlanks ['\n'] = [] := by decide
      rw [List.intercalate_cons_cons, List.flatten_cons, withoutBlanks_append,
        withoutBlanks_append, hfeed, List.append_nil, ih, withoutBlanks_append]

/-- Nothing but blanks stands between the lines of a text. -/
theorem withoutBlanks_flatten_lines (cs : List Char) :
    withoutBlanks (lines cs).flatten = withoutBlanks cs := by
  induction cs using line_induction with
  | last cs hcs =>
    rw [lines_of_not_mem hcs]
    split
    · next hnil => rw [hnil, List.flatten_nil]
    · rw [List.flatten_singleton]
  | line l rest hl ih =>
    have hfeed : withoutBlanks ('\n' :: rest) = withoutBlanks rest :=
      List.filter_cons_of_neg (by decide)
    rw [lines_append_cons hl, List.flatten_cons, withoutBlanks_append, withoutBlanks_append,
      withoutBlanks_dropReturn, ih, hfeed]

end CitedReport.Chars
