import Mathlib.Data.List.Induction
import CitedReport.Proofs.Html.Blocks

/-!
# Scripts and style sheets

What stands in a script or a style sheet is hidden up to the closing tag of the element, whatever
looks like a tag in between. But such tags are read all the same, and one that opens the other kind
of element hides everything behind it until a tag closes that kind. So nothing of the contents of an
element is shown, and the text behind it is shown just when the contents do not leave the other kind
of element open (`withoutBlanks_textOf_element`). A script that writes `<style>` hides the rest of
the page (`not_shown_behind_script`).
-/

namespace CitedReport.Html

open Chars

/-- The elements whose contents nobody sees. -/
inductive Unseen where
  /-- A script. -/
  | script
  /-- A style sheet. -/
  | style
deriving DecidableEq, Repr

namespace Unseen

/-- The name of the element. -/
def name : Unseen → List Char
  | .script => "script".toList
  | .style => "style".toList

/-- The other element. -/
def other : Unseen → Unseen
  | .script => .style
  | .style => .script

/-- Both names are names of elements. -/
theorem isElementName_name (e : Unseen) : IsElementName e.name := by
  cases e with
  | script => decide
  | style => decide

end Unseen

/-! ## What is hidden -/

/-- Whether the reader is in an element. -/
def Hidden.within (h : Hidden) : Unseen → Bool
  | .script => h.script
  | .style => h.style

/-- Something is hidden inside one of the two elements. -/
theorem Hidden.any_eq (h : Hidden) (e : Unseen) : h.any = (h.within e || h.within e.other) := by
  cases e with
  | script => rfl
  | style => exact Bool.or_comm _ _

/-- The reader is in an element from an opening tag of it to a closing one. -/
theorem Hidden.within_after (h : Hidden) (n : List Char) (e : Unseen) :
    (h.after n).within e
      = if n = e.name then true else if n = '/' :: e.name then false else h.within e := by
  by_cases h₁ : n = "script".toList
  · subst h₁
    cases e <;> rfl
  by_cases h₂ : n = "/script".toList
  · subst h₂
    cases e <;> rfl
  by_cases h₃ : n = "style".toList
  · subst h₃
    cases e <;> rfl
  by_cases h₄ : n = "/style".toList
  · subst h₄
    cases e <;> rfl
  have hopen : n ≠ e.name := by
    cases e with
    | script => exact h₁
    | style => exact h₃
  have hclose : n ≠ '/' :: e.name := by
    cases e with
    | script => exact h₂
    | style => exact h₄
  rw [after, if_neg h₁, if_neg h₂, if_neg h₃, if_neg h₄, if_neg hopen, if_neg hclose]

/-- At the beginning of a page the opening tag of an element leads into it alone. -/
theorem Hidden.within_after_name (e : Unseen) :
    (({} : Hidden).after e.name).within e = true ∧
      (({} : Hidden).after e.name).within e.other = false := by
  cases e with
  | script => decide
  | style => decide

/-- Behind a closing tag only the other element can hide anything. -/
theorem Hidden.any_after_close (h : Hidden) (e : Unseen) :
    (h.after ('/' :: e.name)).any = h.within e.other := by
  have hne : '/' :: e.name ≠ e.name ∧ '/' :: e.name ≠ e.other.name ∧
      '/' :: e.name ≠ '/' :: e.other.name := by
    cases e with
    | script => decide
    | style => decide
  rw [any_eq _ e, within_after, within_after, if_neg hne.1, if_pos rfl, if_neg hne.2.1,
    if_neg hne.2.2, Bool.false_or]

/-- The names of the tags of a text that come to an end, in order. -/
def tagNames (cs : List Char) : List (List Char) :=
  ((splitOn (· == '<') cs).tail.filter fun piece => '>' ∈ piece).map tagName

/-- The last tag of an element in a text opens it. -/
def LeavesOpen (e : Unseen) (cs : List Char) : Prop :=
  ((tagNames cs).filter fun n => n = e.name ∨ n = '/' :: e.name).getLast? = some e.name

instance (e : Unseen) (cs : List Char) : Decidable (LeavesOpen e cs) :=
  inferInstanceAs (Decidable (_ = _))

/-- What is hidden behind pieces is hidden by their tags that come to an end. -/
theorem foldl_behind (h : Hidden) (ps : List (List Char)) :
    ps.foldl Hidden.behind h
      = ((ps.filter fun p => '>' ∈ p).map tagName).foldl Hidden.after h := by
  induction ps generalizing h with
  | nil => rfl
  | cons p ps ih =>
    rw [List.foldl_cons, ih, Hidden.behind, List.filter_cons]
    split <;> simp_all

/-- Behind some tags the reader is in an element that hides nothing in front of them if the last tag
of the element opens it. -/
theorem within_foldl_after {h : Hidden} {e : Unseen} (hout : h.within e = false)
    (names : List (List Char)) :
    (names.foldl Hidden.after h).within e = true ↔
      (names.filter fun n => n = e.name ∨ n = '/' :: e.name).getLast? = some e.name := by
  induction names using List.reverseRecOn with
  | nil => simp [hout]
  | append_singleton names n ih =>
    rw [List.foldl_concat, Hidden.within_after, List.filter_append]
    by_cases hopen : n = e.name
    · simp [hopen]
    · by_cases hclose : n = '/' :: e.name
      · have hne : '/' :: e.name ≠ e.name := fun heq => hopen (hclose.trans heq)
        simp [hclose, hne]
      · simpa [hopen, hclose] using ih

/-- The text for a tag is blank. -/
theorem eq_newline_of_mem_tagText {piece : List Char} {c : Char} (h : c ∈ tagText piece) :
    c = '\n' := by
  unfold tagText at h
  split at h
  · exact List.mem_singleton.1 h
  · cases h

/-- As long as no tag closes the element that the reader is in, nothing is shown. -/
theorem piecesText_within {e : Unseen} {h : Hidden} (hin : h.within e = true)
    {ps : List (List Char)} (hps : ∀ p ∈ ps, tagName p ≠ '/' :: e.name) :
    (∀ c ∈ piecesText h ps, c = '\n') ∧ (ps.foldl Hidden.behind h).within e = true := by
  induction ps generalizing h with
  | nil => exact ⟨by simp [piecesText], hin⟩
  | cons p ps ih =>
    obtain ⟨hp, hps⟩ := List.forall_mem_cons.1 hps
    have hbehind : (h.behind p).within e = true := by
      unfold Hidden.behind
      split
      · rw [Hidden.within_after, if_neg hp, hin, ite_self]
      · exact hin
    have hany : (h.behind p).any = true := by rw [Hidden.any_eq _ e, hbehind, Bool.true_or]
    obtain ⟨htext, hfoldl⟩ := ih hbehind hps
    refine ⟨fun c hc => ?_, hfoldl⟩
    rw [piecesText, pieceText, hany, if_pos rfl, List.append_nil] at hc
    rcases List.mem_append.1 hc with hc | hc
    · exact eq_newline_of_mem_tagText hc
    · exact htext c hc

/-! ## Contents without a closing tag -/

/-- A piece other than the first stands behind a `<` in the text. -/
theorem infix_of_mem_tail_splitOn {cs piece : List Char}
    (h : piece ∈ (splitOn (· == '<') cs).tail) : '<' :: piece <:+: cs := by
  induction cs using piece_induction '<' with
  | last cs hcs =>
    rw [splitOn_of_forall (beq_eq_false_of_not_mem hcs)] at h
    cases h
  | piece front rest hfront ih =>
    have hwithin : rest <:+: front ++ '<' :: rest :=
      ((List.suffix_cons '<' rest).trans (List.suffix_append front _)).isInfix
    rw [splitOn_append_cons (beq_eq_false_of_not_mem hfront) rfl, List.tail_cons] at h
    obtain ⟨first, more, hcons⟩ := List.exists_cons_of_ne_nil (splitOn_ne_nil (· == '<') rest)
    rw [hcons] at h ih
    rcases List.mem_cons.1 h with rfl | hmore
    · have hbegin : '<' :: piece <+: '<' :: rest :=
        (List.prefix_cons_inj '<').2 (prefix_of_splitOn hcons)
      exact hbegin.isInfix.trans (List.suffix_append front _).isInfix
    · exact (ih hmore).trans hwithin

/-- A slash has no other case. -/
theorem eq_slash_of_asciiLower {c : Char} (h : asciiLower c = '/') : c = '/' := by
  unfold asciiLower at h
  split at h
  · next hcapital =>
    simp only [Bool.and_eq_true, decide_eq_true_eq] at hcapital
    -- no capital letter is moved to the slash
    have hnone : ∀ k < 26, Char.ofNat (65 + k + 32) ≠ '/' := by decide
    have hcode : c.toNat = 65 + (c.toNat - 65) := by omega
    rw [hcode] at h
    exact absurd h (hnone _ (by omega))
  · exact h

/-- A piece with a closing tag of an element has the name of the element in some letter case behind
a slash. -/
theorem exists_of_tagName_eq {e : Unseen} {piece : List Char}
    (h : tagName piece = '/' :: e.name) :
    ∃ word, asciiLowerAll word = e.name ∧ '/' :: word <+: piece := by
  have hforeign : ∀ d ∈ '/' :: e.name, ¬ Foreign d := by
    cases e with
    | script => decide
    | style => decide
  have hlower := asciiLowerAll_eq_of_lowerAll_eq h hforeign
  cases hread : piece.takeWhile isNameChar with
  | nil =>
    rw [hread] at hlower
    cases hlower
  | cons c word =>
    rw [hread] at hlower
    obtain ⟨hc, hword⟩ := List.cons.inj hlower
    rw [← eq_slash_of_asciiLower hc]
    exact ⟨word, hword, hread ▸ List.takeWhile_prefix isNameChar⟩

/-! ## A page with an element that is not shown -/

/-- A page says what is left of it when its tags are dropped and its entities decoded. -/
theorem withoutBlanks_textOf (page : List Char) :
    withoutBlanks (textOf page)
      = withoutBlanks (decodeEntities (withoutTags {} .text page)) := by
  have hlines : ∀ ls : List (List Char),
      withoutBlanks ((ls.map trim).filter fun l => l ≠ []).flatten = withoutBlanks ls.flatten := by
    intro ls
    induction ls with
    | nil => rfl
    | cons l ls ih =>
      rw [List.map_cons, List.filter_cons, List.flatten_cons, withoutBlanks_append, ← ih,
        ← withoutBlanks_trim l]
      split
      · rw [List.flatten_cons, withoutBlanks_append]
      · next hnil =>
        have htrim : trim l = [] := by simpa using hnil
        rw [htrim]
        rfl
  rw [textOf, withoutBlanks_intercalate, tidyLines, hlines, withoutBlanks_flatten_lines]

/-- A tag is part of the first piece behind its sign: the contents fall into pieces as alone. -/
theorem splitOn_inner_append {name : List Char} (t : Tag name) (closing : Bool)
    (hname : IsElementName name) {contents first : List Char} {ps : List (List Char)}
    (hpieces : splitOn (· == '<') contents = first :: ps) :
    splitOn (· == '<') (t.inner closing ++ '>' :: contents)
      = (t.inner closing ++ '>' :: first) :: ps := by
  have hfront : ∀ c ∈ t.inner closing ++ ['>'], (c == '<') = false := by
    refine beq_eq_false_of_not_mem ?_
    simp [t.lt_not_mem_inner closing hname]
  have hleft := splitOn_append_left hfront hpieces
  simpa using hleft

/-- Behind a tag of the element, what is hidden is what the name of the tag makes of it. -/
theorem Hidden.behind_inner (h : Hidden) {e : Unseen} (t : Tag e.name) (closing : Bool)
    (ht : t.more.head? ≠ some '/') (rest : List Char) :
    h.behind (t.inner closing ++ '>' :: rest) = h.after (slash closing ++ e.name) := by
  rw [Hidden.behind, if_pos (by simp), t.tagName_inner closing e.isElementName_name ht]

/-- No piece of contents without a closing tag of the element closes it. -/
theorem tagName_ne_of_mem_tail {e : Unseen} {contents p : List Char}
    (hcontents : ∀ word, asciiLowerAll word = e.name → ¬ '<' :: '/' :: word <:+: contents)
    (hp : p ∈ (splitOn (· == '<') contents).tail) : tagName p ≠ '/' :: e.name := by
  intro hclosed
  obtain ⟨word, hword, hbegin⟩ := exists_of_tagName_eq hclosed
  exact hcontents word hword
    (((List.prefix_cons_inj '<').2 hbegin).isInfix.trans (infix_of_mem_tail_splitOn hp))

/-- What is left of a page with an element that is not shown: the text in front of it, at most line
feeds for the tags of the element and in its contents, and the text behind it unless the other
element is left open. -/
theorem exists_withoutTags_eq (e : Unseen) (t t' : Tag e.name) {before contents after : List Char}
    (hbefore : '<' ∉ before) (hafter : '<' ∉ after) (ht : t.more.head? ≠ some '/')
    (ht' : t'.more.head? ≠ some '/')
    (hcontents : ∀ word, asciiLowerAll word = e.name → ¬ '<' :: '/' :: word <:+: contents) :
    ∃ feeds : List Char, (∀ c ∈ feeds, c = '\n') ∧
      withoutTags {} .text (before ++ t.text false ++ contents ++ t'.text true ++ after)
        = before ++ (feeds ++ if LeavesOpen e.other contents then [] else after) := by
  have hname := e.isElementName_name
  obtain ⟨first, ps, hcontentsPieces⟩ :=
    List.exists_cons_of_ne_nil (splitOn_ne_nil (· == '<') contents)
  -- the pieces are the opening tag, those that begin in the contents, and the closing tag
  have hpage : before ++ t.text false ++ contents ++ t'.text true ++ after
      = before ++ '<' :: ((t.inner false ++ '>' :: contents) ++
          '<' :: (t'.inner true ++ '>' :: after)) := by simp [Tag.text]
  have hopening := splitOn_inner_append t false hname hcontentsPieces
  have hclosing := splitOn_inner_append t' true hname
    (splitOn_of_forall (beq_eq_false_of_not_mem hafter))
  -- behind the opening tag the reader is in the element, and not in the other one
  obtain ⟨hin, hout⟩ := Hidden.within_after_name e
  have hbegun : ({} : Hidden).behind (t.inner false ++ '>' :: first)
      = ({} : Hidden).after e.name := Hidden.behind_inner {} t false ht first
  -- it stays so through the contents, but for the other element
  have hps : ∀ p ∈ ps, tagName p ≠ '/' :: e.name := fun p hp =>
    tagName_ne_of_mem_tail hcontents (hcontentsPieces ▸ hp)
  have htext := (piecesText_within hin hps).1
  have hother := within_foldl_after hout ((ps.filter fun p => '>' ∈ p).map tagName)
  rw [← foldl_behind] at hother
  -- and the closing tag ends it
  have hended : ((ps.foldl Hidden.behind (({} : Hidden).after e.name)).behind
      (t'.inner true ++ '>' :: after)).any = decide (LeavesOpen e.other contents) := by
    rw [Hidden.behind_inner _ t' true ht', show slash true ++ e.name = '/' :: e.name from rfl,
      Hidden.any_after_close, Bool.eq_iff_iff, hother, decide_eq_true_iff, LeavesOpen, tagNames,
      hcontentsPieces, List.tail_cons]
  refine ⟨tagText (t.inner false ++ '>' :: first) ++
    (piecesText (({} : Hidden).after e.name) ps ++ tagText (t'.inner true ++ '>' :: after)),
    fun c hc => ?_, ?_⟩
  · rcases List.mem_append.1 hc with hc | hc
    · exact eq_newline_of_mem_tagText hc
    · rcases List.mem_append.1 hc with hc | hc
      · exact htext c hc
      · exact eq_newline_of_mem_tagText hc
  · have hany : (({} : Hidden).after e.name).any = true := by
      rw [Hidden.any_eq _ e, hin, Bool.true_or]
    rw [hpage, withoutTags_append_cons hbefore, splitOn_append_separator rfl, hopening, hclosing,
      piecesText_append, List.foldl_cons, piecesText, piecesText, piecesText, pieceText, pieceText,
      hbegun, hany, hended, t'.behindTag_inner true hname]
    simp

/-- A script or a style sheet is not shown. Nothing of its contents is, whatever looks like a tag in
them, and the text in front of the element is shown whole. So is the text behind it, unless the
contents leave the other element open: then it is not shown at all. -/
theorem withoutBlanks_textOf_element (e : Unseen) (t t' : Tag e.name)
    {before contents after : List Char} (hbefore : '<' ∉ before ∧ '&' ∉ before)
    (hafter : '<' ∉ after ∧ '&' ∉ after) (ht : t.more.head? ≠ some '/')
    (ht' : t'.more.head? ≠ some '/')
    (hcontents : ∀ word, asciiLowerAll word = e.name → ¬ '<' :: '/' :: word <:+: contents) :
    withoutBlanks (textOf (before ++ t.text false ++ contents ++ t'.text true ++ after))
      = withoutBlanks before ++
          if LeavesOpen e.other contents then [] else withoutBlanks after := by
  obtain ⟨feeds, hfeeds, hleft⟩ :=
    exists_withoutTags_eq e t t' hbefore.1 hafter.1 ht ht' hcontents
  -- without a sign of an entity there is nothing to decode
  have hamp : '&' ∉ before ++ (feeds ++ if LeavesOpen e.other contents then [] else after) := by
    intro hmem
    rcases List.mem_append.1 hmem with hmem | hmem
    · exact hbefore.2 hmem
    · rcases List.mem_append.1 hmem with hmem | hmem
      · exact absurd (hfeeds _ hmem) (by decide)
      · split at hmem
        · cases hmem
        · exact hafter.2 hmem
  -- the line feeds of the tags in the contents are blank
  have hblank : withoutBlanks feeds = [] := by
    refine withoutBlanks_eq_nil fun c hc => ?_
    rw [hfeeds c hc]
    decide
  rw [withoutBlanks_textOf, hleft, decodeEntities_of_not_mem hamp, withoutBlanks_append,
    withoutBlanks_append, hblank, List.nil_append]
  split
  · rfl
  · rfl

/-- A tag of a script, with so much behind its name. -/
def scriptTag (more : List Char) (h : ∀ c ∈ more, c ≠ '<' ∧ c ≠ '>')
    (h' : ∀ c ∈ more.head?, isAlphanumeric c = false) : Tag Unseen.script.name where
  word := "Script".toList
  more := more
  word_eq := by decide
  plain := h
  ends := h'

/-- Without a slash no element is closed. -/
theorem not_infix_of_slash_not_mem {contents : List Char} (h : '/' ∉ contents)
    (word : List Char) : ¬ '<' :: '/' :: word <:+: contents := fun hoccurs =>
  h (hoccurs.subset (by simp))

/-- A script with an attribute, an inequality and a tag in its contents. -/
theorem withoutBlanks_textOf_element_paragraph :
    let t := scriptTag " src='a.js'".toList (by decide) (by decide)
    let t' := scriptTag [] (by decide) (by decide)
    let contents := "if (a<b) w('<p>')".toList
    ('<' ∉ "two anvils".toList ∧ '&' ∉ "two anvils".toList) ∧
      ('<' ∉ "a rocket".toList ∧ '&' ∉ "a rocket".toList) ∧ t.more.head? ≠ some '/' ∧
      t'.more.head? ≠ some '/' ∧
      (∀ word, asciiLowerAll word = Unseen.script.name → ¬ '<' :: '/' :: word <:+: contents) ∧
      ¬ LeavesOpen .style contents ∧
      withoutBlanks (textOf ("two anvils".toList ++ t.text false ++ contents ++ t'.text true ++
        "a rocket".toList)) = "twoanvils".toList ++ "arocket".toList := by
  intro t t' contents
  have hcontents : ∀ word, asciiLowerAll word = Unseen.script.name →
      ¬ '<' :: '/' :: word <:+: contents :=
    fun word _ => not_infix_of_slash_not_mem (by decide) word
  exact ⟨by decide, by decide, by decide, by decide, hcontents, by decide +kernel, by
    rw [withoutBlanks_textOf_element .script t t' (by decide) (by decide) (by decide) (by decide)
      hcontents, if_neg (by decide +kernel)]
    decide⟩

/-- A script that writes the opening tag of a style sheet hides what stands behind the script. -/
theorem not_shown_behind_script :
    let t := scriptTag [] (by decide) (by decide)
    let contents := "w('<style>')".toList
    (∀ word, asciiLowerAll word = Unseen.script.name → ¬ '<' :: '/' :: word <:+: contents) ∧
      withoutBlanks (textOf ("anvils".toList ++ t.text false ++ contents ++ t.text true ++
        "rockets".toList)) = "anvils".toList ∧
      withoutBlanks (textOf ("anvils".toList ++ t.text false ++ contents ++ t.text true ++
        "rockets".toList)) ≠ withoutBlanks "anvils".toList ++ withoutBlanks "rockets".toList := by
  intro t contents
  refine ⟨fun word _ => not_infix_of_slash_not_mem (by decide) word, ?_, ?_⟩
  · decide +kernel
  · decide +kernel

end CitedReport.Html
