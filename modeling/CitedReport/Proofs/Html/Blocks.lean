import CitedReport.Proofs.Chars.Case
import CitedReport.Proofs.Html.Entities

/-!
# Block elements

A tag is written with the name of its element in any letter case. The name is read up to the first
character that is neither a letter nor a digit nor a slash, whatever stands behind it
(`tagName_inner`). So a slash directly behind the name is taken into it, and then the tag is of no
known element (`exists_tagName_inner`).

A line feed stands for the tag of a block element, and so the lines of the text in front of it and
those of the text behind it are apart. A tag with such a slash, like `<br/>`, does not keep them
apart (`separated_textOf`, `not_separated_br`).
-/

namespace CitedReport.Html

open Chars

/-! ## The lines of a page -/

/-- A line loses nothing if it ends in text. -/
theorem dropReturn_eq_self {cs : List Char} (h : EndsInText cs) : dropReturn cs = cs := by
  rcases dropReturn_eq_or cs with heq | heq
  · exact heq
  · obtain ⟨front, c, hcs, hc⟩ := h
    obtain rfl : c = '\r' := by simpa using (List.append_inj' (hcs.symm.trans heq) rfl).2
    exact absurd hc (by decide)

/-- Lines that end in text are the lines of the text in which they are joined. -/
theorem lines_intercalate {ls : List (List Char)} (h : ∀ l ∈ ls, '\n' ∉ l ∧ EndsInText l) :
    lines (List.intercalate ['\n'] ls) = ls := by
  induction ls with
  | nil => rfl
  | cons l ls ih =>
    obtain ⟨hfeed, hend⟩ := h l List.mem_cons_self
    cases ls with
    | nil =>
      obtain ⟨front, c, rfl, -⟩ := hend
      rw [List.intercalate_singleton, lines_of_not_mem hfeed, if_neg (by simp)]
    | cons l' ls =>
      rw [List.intercalate_cons_cons, List.append_assoc, List.singleton_append,
        lines_append_cons hfeed, dropReturn_eq_self hend,
        ih fun m hm => h m (List.mem_cons_of_mem l hm)]

/-- A line of a page is in the text and ends in text. -/
theorem of_mem_tidyLines {cs line : List Char} (h : line ∈ tidyLines cs) :
    '\n' ∉ line ∧ EndsInText line := by
  obtain ⟨hmem, hne⟩ := List.mem_filter.1 h
  obtain ⟨raw, hraw, rfl⟩ := List.mem_map.1 hmem
  exact ⟨fun hfeed => newline_not_mem_of_mem_lines hraw ((trim_within raw).subset hfeed),
    endsInText_trim (of_decide_eq_true hne)⟩

/-- The lines that are shown are those that are tidied up. -/
theorem lines_textOf (page : List Char) :
    lines (textOf page) = tidyLines (decodeEntities (withoutTags {} .text page)) :=
  lines_intercalate fun _ => of_mem_tidyLines

/-- A text that is cut where a line begins has the lines of the parts. -/
theorem tidyLines_append {before : List Char} (h : LineBegins before) (after : List Char) :
    tidyLines (before ++ after) = tidyLines before ++ tidyLines after := by
  rw [tidyLines, lines_append h, List.map_append, List.filter_append]
  rfl

/-- A line feed at the end of a text makes at most a blank line. -/
theorem tidyLines_concat (cs : List Char) : tidyLines (cs ++ ['\n']) = tidyLines cs := by
  induction cs using line_induction with
  | last cs hcs =>
    -- the last line has no end, or it has one
    have hreturn : trim (dropReturn cs) = trim cs := by
      rcases dropReturn_eq_or cs with heq | heq
      · rw [heq]
      · conv_rhs => rw [heq]
        rw [trim, trim, trimStart, trimStart, List.dropWhile_append]
        split
        · next hnil =>
          rw [List.isEmpty_iff] at hnil
          rw [hnil]
          rfl
        · exact (trimEnd_append_blanks (by decide) _).symm
    rw [tidyLines, tidyLines, lines_append_cons hcs, lines_of_not_mem hcs]
    split
    · next hnil =>
      subst hnil
      rfl
    · simp [hreturn, show lines [] = [] from rfl]
  | line l rest hl ih =>
    have hbegins : LineBegins (l ++ ['\n']) := lineBegins_concat l
    have hcons : l ++ '\n' :: rest = l ++ ['\n'] ++ rest := by simp
    rw [hcons, List.append_assoc, tidyLines_append hbegins, ih, ← tidyLines_append hbegins]

/-- A line feed between two texts keeps their lines apart. -/
theorem tidyLines_append_cons (before after : List Char) :
    tidyLines (before ++ '\n' :: after) = tidyLines before ++ tidyLines after := by
  have hcons : before ++ '\n' :: after = before ++ ['\n'] ++ after := by simp
  rw [hcons, tidyLines_append (lineBegins_concat before), tidyLines_concat]

/-! ## Tags -/

/-- A tag of an element as it is written. -/
structure Tag (name : List Char) where
  /-- The name of the element, in some letter case. -/
  word : List Char
  /-- What stands behind it: attributes, the slash of an element without contents, or nothing. -/
  more : List Char
  /-- It is the name of the element. -/
  word_eq : asciiLowerAll word = name
  /-- The tag does not come to an end earlier. -/
  plain : ∀ c ∈ more, c ≠ '<' ∧ c ≠ '>'
  /-- The name does not go on. -/
  ends : ∀ c ∈ more.head?, isAlphanumeric c = false

/-- The slash in front of the name of a closing tag. -/
def slash (closing : Bool) : List Char := if closing then ['/'] else []

/-- What stands between the signs of a tag. -/
def Tag.inner {name : List Char} (t : Tag name) (closing : Bool) : List Char :=
  slash closing ++ t.word ++ t.more

/-- The text of a tag. -/
def Tag.text {name : List Char} (t : Tag name) (closing : Bool) : List Char :=
  '<' :: (t.inner closing ++ ['>'])

/-- A name of an element has letters and digits. -/
def IsElementName (name : List Char) : Prop :=
  name ≠ [] ∧ ∀ c ∈ name, (isAsciiLetter c || isAsciiDigit c) = true

instance (name : List Char) : Decidable (IsElementName name) :=
  inferInstanceAs (Decidable (_ ∧ _))

namespace IsElementName

variable {name : List Char}

/-- The name of an element is ASCII. -/
theorem toNat_lt (h : IsElementName name) : ∀ c ∈ name, c.toNat < 128 := by
  intro c hc
  have hclass := h.2 c hc
  simp only [isAsciiLetter, isAsciiDigit, Bool.or_eq_true, Bool.and_eq_true, decide_eq_true_eq]
    at hclass
  omega

/-- There is no slash in it. -/
theorem slash_not_mem (h : IsElementName name) : '/' ∉ name := fun hmem =>
  absurd (h.2 '/' hmem) (by decide)

/-- A character of a name can stand in a name in capital letters, too. -/
theorem isNameChar_of_asciiLower (h : IsElementName name) {c : Char} (hc : asciiLower c ∈ name) :
    isNameChar c = true := by
  have hascii : c.toNat < 128 := toNat_lt_of_asciiLower (h.toNat_lt _ hc)
  have hclass : (isAsciiLetter c || isAsciiDigit c) = true := by
    have hlower := h.2 _ hc
    unfold asciiLower at hlower
    split at hlower
    · next hcapital =>
      rw [isAsciiLetter, hcapital]
      rfl
    · exact hlower
  rw [isNameChar, isAlphanumeric, isAlphabetic, if_pos hascii, isDigit, if_pos hascii, hclass]
  rfl

/-- Slashes in front of a name do not belong to it. -/
theorem dropWhile_slash (h : IsElementName name) (closing : Bool) (rest : List Char) :
    (slash closing ++ (name ++ rest)).dropWhile (· == '/') = name ++ rest := by
  obtain ⟨c, cs, rfl⟩ := List.exists_cons_of_ne_nil h.1
  have hc : (c == '/') = false := by
    rw [beq_eq_false_iff_ne]
    rintro rfl
    exact h.slash_not_mem List.mem_cons_self
  cases closing with
  | true => simp [slash, hc]
  | false => simp [slash, hc]

end IsElementName

namespace Tag

variable {name : List Char} (t : Tag name) (closing : Bool)

/-- A character of the tag's name is one of the element's. -/
theorem asciiLower_mem {c : Char} (hc : c ∈ t.word) : asciiLower c ∈ name := by
  have hmem : asciiLower c ∈ asciiLowerAll t.word := List.mem_map_of_mem hc
  rwa [t.word_eq] at hmem

/-- In lower case the name of a tag is that of the element, with its slash. -/
theorem asciiLowerAll_slash_append :
    asciiLowerAll (slash closing ++ t.word) = slash closing ++ name := by
  have hslash : asciiLowerAll (slash closing) = slash closing := by cases closing <;> rfl
  have hword := t.word_eq
  unfold asciiLowerAll at hslash hword ⊢
  rw [List.map_append, hslash, hword]

/-- The slash and the name can stand in the name of a tag. -/
theorem isNameChar_of_mem (h : IsElementName name) :
    ∀ c ∈ slash closing ++ t.word, isNameChar c = true := by
  have hslash : ∀ c ∈ slash closing, isNameChar c = true := by cases closing <;> decide
  intro c hc
  rcases List.mem_append.1 hc with hc | hc
  · exact hslash c hc
  · exact h.isNameChar_of_asciiLower (t.asciiLower_mem hc)

/-- A tag does not come to an end earlier. -/
theorem plain_inner (h : IsElementName name) : ∀ c ∈ t.inner closing, c ≠ '<' ∧ c ≠ '>' := by
  intro c hc
  rcases List.mem_append.1 hc with hc | hc
  · have hname := t.isNameChar_of_mem closing h c hc
    constructor
    · rintro rfl
      exact absurd hname (by decide)
    · rintro rfl
      exact absurd hname (by decide)
  · exact t.plain c hc

/-- No other tag begins inside a tag. -/
theorem lt_not_mem_inner (h : IsElementName name) : '<' ∉ t.inner closing := fun hmem =>
  (t.plain_inner closing h _ hmem).1 rfl

/-- Behind a tag comes what stands behind its sign. -/
theorem behindTag_inner (h : IsElementName name) (rest : List Char) :
    behindTag (t.inner closing ++ '>' :: rest) = rest := by
  rw [behindTag, dropWhile_append_stop (fun c hc => ?_) (by simp), List.tail_cons]
  simpa using (t.plain_inner closing h c hc).2

/-- The name of a tag is read with its slash, and with what follows it as far as that can stand in a
name. -/
theorem tagName_inner_append (h : IsElementName name) (rest : List Char) :
    tagName (t.inner closing ++ '>' :: rest)
      = slash closing ++ (name ++ lowerAfter (slash closing ++ t.word).reverse
          ((t.more ++ '>' :: rest).takeWhile isNameChar)) := by
  have hascii : ∀ c ∈ slash closing ++ t.word, c.toNat < 128 := by
    refine toNat_lt_of_asciiLowerAll_eq (t.asciiLowerAll_slash_append closing) fun c hc => ?_
    have hslash : ∀ c ∈ slash closing, c.toNat < 128 := by cases closing <;> decide
    rcases List.mem_append.1 hc with hc | hc
    · exact hslash c hc
    · exact h.toNat_lt c hc
  rw [tagName, inner, List.append_assoc (slash closing ++ t.word),
    List.takeWhile_append_of_pos (t.isNameChar_of_mem closing h), lowerAll_append hascii,
    asciiLowerAll_slash_append, List.append_assoc]

/-- The name of a tag is that of its element if no slash follows it. -/
theorem tagName_inner (h : IsElementName name) (hmore : t.more.head? ≠ some '/')
    (rest : List Char) : tagName (t.inner closing ++ '>' :: rest) = slash closing ++ name := by
  have hstop : (t.more ++ '>' :: rest).takeWhile isNameChar = [] := by
    have hends := t.ends
    cases hcons : t.more with
    | nil => simp [isNameChar_gt]
    | cons c cs =>
      rw [hcons, List.head?_cons] at hends hmore
      have hc : isNameChar c = false := by
        rw [isNameChar, hends c rfl, Bool.false_or, beq_eq_false_iff_ne]
        exact fun heq => hmore (congrArg some heq)
      rw [List.cons_append, List.takeWhile_cons, hc]
      rfl
  rw [tagName_inner_append t closing h, hstop, lowerAfter, List.append_nil]

/-- A slash that follows the name is taken into it. -/
theorem exists_tagName_inner (h : IsElementName name) (hmore : t.more.head? = some '/')
    (rest : List Char) :
    ∃ xs, tagName (t.inner closing ++ '>' :: rest) = slash closing ++ (name ++ '/' :: xs) := by
  obtain ⟨cs, hcs⟩ := List.head?_eq_some_iff.1 hmore
  have hslash : isNameChar '/' = true := by decide
  have hascii : ∀ c ∈ ['/'], c.toNat < 128 := by decide
  have hlower := lowerAfter_append hascii (slash closing ++ t.word).reverse
    ((cs ++ '>' :: rest).takeWhile isNameChar)
  rw [List.singleton_append] at hlower
  rw [tagName_inner_append t closing h, hcs, List.cons_append, List.takeWhile_cons, hslash,
    if_pos rfl, hlower]
  exact ⟨_, rfl⟩

end Tag

/-! ## Tags of block elements -/

/-- The names of blocks are names of elements. -/
theorem isElementName_of_mem_blockNames {name : List Char} (h : name ∈ blockNames) :
    IsElementName name := by
  have hnames : ∀ n ∈ blockNames, IsElementName n := by decide
  exact hnames name h

/-- A block element hides nothing, and a line feed stands for its tag. -/
theorem isBlock_slash_append {name : List Char} (h : name ∈ blockNames) (closing : Bool) :
    isBlock (slash closing ++ name) = true ∧
      (∀ hidden : Hidden, hidden.after (slash closing ++ name) = hidden) := by
  have hnames : ∀ n ∈ blockNames, ∀ closing : Bool, isBlock (slash closing ++ n) = true ∧
      ∀ m ∈ ["script", "/script", "style", "/style"].map String.toList, slash closing ++ n ≠ m := by
    decide
  obtain ⟨hblock, hne⟩ := hnames name h closing
  refine ⟨hblock, fun hidden => ?_⟩
  simp only [List.map_cons, List.map_nil, List.forall_mem_cons] at hne
  obtain ⟨h₁, h₂, h₃, h₄, -⟩ := hne
  rw [Hidden.after, if_neg h₁, if_neg h₂, if_neg h₃, if_neg h₄]

/-- A tag with a slash in its name is of no known element: it is dropped, and hides nothing. -/
theorem isBlock_eq_false_of_slash {n : List Char} (h : '/' ∈ n.dropWhile (· == '/')) :
    isBlock n = false ∧ ∀ hidden : Hidden, hidden.after n = hidden := by
  have hblock : ∀ m ∈ blockNames, '/' ∉ m := fun m hm =>
    (isElementName_of_mem_blockNames hm).slash_not_mem
  have hne : ∀ m : List Char, '/' ∉ m.dropWhile (· == '/') → n ≠ m := by
    rintro m hm rfl
    exact hm h
  constructor
  · rw [isBlock, Bool.eq_false_iff]
    intro hcontains
    exact hblock _ (List.contains_iff_mem.1 hcontains) h
  · intro hidden
    rw [Hidden.after, if_neg (hne _ (by decide)), if_neg (hne _ (by decide)),
      if_neg (hne _ (by decide)), if_neg (hne _ (by decide))]

/-- A tag in a text stands for a line feed or for nothing, unless it hides what follows it. -/
theorem withoutTags_tag_append {name : List Char} (h : IsElementName name) (t : Tag name)
    (closing : Bool) {before after : List Char} (hbefore : '<' ∉ before) (hafter : '<' ∉ after)
    (hhidden : ({} : Hidden).after (tagName (t.inner closing ++ '>' :: after)) = {}) :
    withoutTags {} .text (before ++ t.text closing ++ after)
      = before ++ ((if isBlock (tagName (t.inner closing ++ '>' :: after)) then ['\n'] else []) ++
          after) := by
  have hpage : before ++ t.text closing ++ after
      = before ++ '<' :: (t.inner closing ++ '>' :: after) := by simp [Tag.text]
  have hpiece : '<' ∉ t.inner closing ++ '>' :: after := by
    simp [t.lt_not_mem_inner closing h, hafter]
  rw [hpage, withoutTags_append_cons hbefore, splitOn_of_forall (beq_eq_false_of_not_mem hpiece)]
  simp [piecesText, pieceText, tagText, Hidden.behind, t.behindTag_inner closing h, hhidden,
    Hidden.any]

/-- The tag of a block element keeps the text in front of it and the text behind it apart: the page
shows the lines of the one and then the lines of the other. Only where a slash directly follows the
name the tag is dropped, and the two texts are one. -/
theorem separated_textOf {name : List Char} (hname : name ∈ blockNames) (t : Tag name)
    (closing : Bool) {before after : List Char} (hbefore : '<' ∉ before ∧ '&' ∉ before)
    (hafter : '<' ∉ after ∧ '&' ∉ after) :
    let shown :=
      if t.more.head? = some '/' then tidyLines (before ++ after)
      else tidyLines before ++ tidyLines after
    textOf (before ++ t.text closing ++ after) = List.intercalate ['\n'] shown ∧
      lines (textOf (before ++ t.text closing ++ after)) = shown := by
  intro shown
  have h := isElementName_of_mem_blockNames hname
  have hdecode : ∀ cs : List Char, '&' ∉ cs → '&' ∉ before ++ (cs ++ after) := by
    intro cs hcs
    simp [hbefore.2, hcs, hafter.2]
  have hshown : tidyLines (decodeEntities (withoutTags {} .text
      (before ++ t.text closing ++ after))) = shown := by
    by_cases hmore : t.more.head? = some '/'
    · -- the slash gets into the name, which is no name of a block then
      obtain ⟨xs, hxs⟩ := t.exists_tagName_inner closing h hmore after
      have hslash : '/' ∈ (tagName (t.inner closing ++ '>' :: after)).dropWhile (· == '/') := by
        rw [hxs, h.dropWhile_slash]
        simp
      obtain ⟨hblock, hhidden⟩ := isBlock_eq_false_of_slash hslash
      rw [withoutTags_tag_append h t closing hbefore.1 hafter.1 (hhidden {}), hblock,
        decodeEntities_of_not_mem (hdecode _ (by decide))]
      simp [shown, hmore]
    · -- the name is read as it is, and a line feed takes the place of the tag
      have hread := t.tagName_inner closing h hmore after
      obtain ⟨hblock, hhidden⟩ := isBlock_slash_append hname closing
      rw [withoutTags_tag_append h t closing hbefore.1 hafter.1 (hread ▸ hhidden {}), hread, hblock,
        decodeEntities_of_not_mem (hdecode _ (by decide)), if_pos rfl, List.singleton_append,
        tidyLines_append_cons]
      simp [shown, hmore]
  exact ⟨by rw [textOf, hshown], by rw [lines_textOf, hshown]⟩

/-- A line break in capital letters, with a blank in front of its slash. -/
def spacedBreak : Tag "br".toList where
  word := "BR".toList
  more := " /".toList
  word_eq := by decide
  plain := by decide
  ends := by decide

/-- It keeps two words apart. -/
theorem separated_textOf_spacedBreak :
    "br".toList ∈ blockNames ∧ ('<' ∉ "anvils".toList ∧ '&' ∉ "anvils".toList) ∧
      ('<' ∉ "rockets".toList ∧ '&' ∉ "rockets".toList) ∧
      lines (textOf ("anvils".toList ++ spacedBreak.text false ++ "rockets".toList))
        = tidyLines "anvils".toList ++ tidyLines "rockets".toList :=
  ⟨by decide, by decide, by decide,
    (separated_textOf (by decide) spacedBreak false (by decide) (by decide)).2⟩

/-- A line break with a slash directly behind its name. -/
def tightBreak : Tag "br".toList where
  word := "br".toList
  more := "/".toList
  word_eq := by decide
  plain := by decide
  ends := by decide

/-- It does not keep them apart. -/
theorem not_separated_br :
    tightBreak.text false = "<br/>".toList ∧
      textOf ("anvils".toList ++ tightBreak.text false ++ "rockets".toList)
        = "anvilsrockets".toList ∧
      textOf ("anvils".toList ++ tightBreak.text false ++ "rockets".toList)
        ≠ List.intercalate ['\n'] (tidyLines "anvils".toList ++ tidyLines "rockets".toList) := by
  decide +kernel

end CitedReport.Html
