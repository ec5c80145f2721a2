import CitedReport.Proofs.Chars.Trim

/-!
# Occurrences of phrases

A piece of a text is told apart from an equal piece elsewhere by what stands in front of it. The
lines of a text are counted by the line feeds in front, so an occurrence tells on which line it
begins and on which it ends.
-/

namespace CitedReport.Chars

/-- Where a piece of some form stands in a text. It ends where no word goes on. -/
structure Occurrence (form : List Char → Prop) (cs : List Char) where
  /-- What stands in front of it. -/
  before : List Char
  /-- The piece itself. -/
  text : List Char
  /-- What stands behind it. -/
  after : List Char
  /-- The three make up the text. -/
  split : cs = before ++ text ++ after
  /-- The piece is of the form. -/
  isForm : form text
  /-- No word goes on behind it. -/
  endsWord : wordNext after = false

namespace Occurrence

variable {form form' : List Char → Prop} {cs : List Char}

/-- The line on which it begins, counted from zero. -/
def firstLine (o : Occurrence form cs) : Nat := o.before.count '\n'

/-- The line on which it ends. -/
def lastLine (o : Occurrence form cs) : Nat := (o.before ++ o.text).count '\n'

/-- The two have a character in common. -/
def Overlaps (o : Occurrence form cs) (o' : Occurrence form' cs) : Prop :=
  o.before.length < o'.before.length + o'.text.length ∧
    o'.before.length < o.before.length + o.text.length

/-- The text begins with what stands in front of the piece. -/
theorem before_prefix (o : Occurrence form cs) : o.before <+: cs :=
  ⟨o.text ++ o.after, by rw [← List.append_assoc, ← o.split]⟩

/-- It comes first when what stands in front of it is taken away. -/
theorem drop_before (o : Occurrence form cs) : cs.drop o.before.length = o.text ++ o.after := by
  have hdrop : (o.before ++ (o.text ++ o.after)).drop o.before.length = o.text ++ o.after :=
    List.drop_left
  rwa [← List.append_assoc, ← o.split] at hdrop

/-- The same piece with more text in front. -/
def behind (o : Occurrence form cs) (front : List Char) : Occurrence form (front ++ cs) where
  before := front ++ o.before
  text := o.text
  after := o.after
  split := by simp only [o.split, List.append_assoc]
  isForm := o.isForm
  endsWord := o.endsWord

/-- A piece in a text that something was put in front of has that in front of it, too. -/
@[simp] theorem before_behind (o : Occurrence form cs) (front : List Char) :
    (o.behind front).before = front ++ o.before :=
  rfl

/-- Its first line is later by the line feeds of what was put in front. -/
@[simp] theorem firstLine_behind (o : Occurrence form cs) (front : List Char) :
    (o.behind front).firstLine = front.count '\n' + o.firstLine :=
  List.count_append

/-- So is its last line. -/
@[simp] theorem lastLine_behind (o : Occurrence form cs) (front : List Char) :
    (o.behind front).lastLine = front.count '\n' + o.lastLine := by
  unfold lastLine
  rw [← List.count_append, ← List.append_assoc]
  rfl

/-- A piece that does not begin in the front of a text stands behind it. -/
theorem exists_eq_behind (front : List Char) (o : Occurrence form (front ++ cs))
    (h : front.length ≤ o.before.length) : ∃ o' : Occurrence form cs, o = o'.behind front := by
  obtain ⟨before, text, after, split, isForm, endsWord⟩ := o
  have hprefix : front <+: before := by
    refine List.prefix_of_prefix_length_le (List.prefix_append front cs) ?_ h
    exact ⟨text ++ after, by rw [← List.append_assoc, ← split]⟩
  obtain ⟨before', rfl⟩ := hprefix
  have hcs : cs = before' ++ text ++ after := by
    simpa only [List.append_assoc, List.append_cancel_left_eq] using split
  exact ⟨⟨before', text, after, hcs, isForm, endsWord⟩, rfl⟩

/-- The line on which a piece begins is at least that on which a text in front of it ends. -/
theorem count_le_firstLine (o : Occurrence form cs) {front : List Char} (h : front <+: o.before) :
    front.count '\n' ≤ o.firstLine :=
  h.sublist.count_le '\n'

/-- A piece that starts and ends in text is not trimmed off. -/
theorem trim (o : Occurrence form cs) (hstart : StartsInText o.text) (hend : EndsInText o.text) :
    Nonempty (Occurrence form (trim cs)) := by
  obtain ⟨before, text, after, rfl, isForm, endsWord⟩ := o
  obtain ⟨c, back, rfl, hc⟩ := hstart
  have hfront : trimStart (before ++ c :: back ++ after)
      = trimStart before ++ c :: back ++ after := by
    have hcons := trimStart_append_cons hc before (back ++ after)
    simpa using hcons
  have htrim : Chars.trim (before ++ c :: back ++ after)
      = trimStart before ++ c :: back ++ trimEnd after := by
    rw [Chars.trim, hfront, trimEnd_append (hend.append_left _)]
  -- what is left behind it begins as before, if anything is left
  have hword : wordNext (trimEnd after) = false := by
    obtain ⟨blanks, hblanks⟩ := trimEnd_begins after
    cases hafter : trimEnd after with
    | nil => rfl
    | cons d rest =>
      rw [← hblanks, hafter] at endsWord
      exact endsWord
  exact ⟨⟨_, _, _, htrim, isForm, hword⟩⟩

end Occurrence

end CitedReport.Chars
