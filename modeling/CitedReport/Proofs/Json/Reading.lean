import CitedReport.Proofs.Json.Tokens

/-!
# The reader and the grammar

The reader takes exactly the texts of the grammar (`parse?_isSome_iff`): whatever it reads is an
element with nothing behind it, and it reads every element, however deep its brackets nest, because
its fuel is twice the length of the text.
-/

namespace CitedReport.Json

open Chars

/-! ## Blanks -/

/-- What is skipped in front is blanks. -/
theorem exists_skipSpace_eq (cs : List Char) :
    ∃ front, cs = front ++ skipSpace cs ∧ IsSpaces front :=
  ⟨_, List.takeWhile_append_dropWhile.symm, fun _ => List.mem_takeWhile_imp⟩

/-- Blanks are skipped up to the first character that is none. -/
theorem skipSpace_append {front rest : List Char} (h : IsSpaces front)
    (hrest : ∀ c, rest.head? = some c → isSpace c = false) : skipSpace (front ++ rest) = rest :=
  dropWhile_append_stop h hrest

/-! ## What is read -/

/-- What is read with some fuel is of the grammar. -/
structure Sound (fuel : Nat) : Prop where
  /-- A value is read behind blanks. -/
  value : ∀ {depth : Nat} {cs rest : List Char} {v : Json},
    readValue fuel depth cs = some (v, rest) →
      ∃ front text, cs = front ++ text ++ rest ∧ IsSpaces front ∧ IsPart .value text
  /-- Elements are read up to the bracket that closes an array. -/
  items : ∀ {depth : Nat} {cs rest : List Char} {vs : List Json},
    readItems fuel depth cs = some (vs, rest) →
      ∃ text, cs = text ++ ']' :: rest ∧ IsPart .elements text
  /-- Members are read up to the bracket that closes an object. -/
  members : ∀ {depth : Nat} {cs rest : List Char} {ms : List (List Char × Json)},
    readMembers fuel depth cs = some (ms, rest) →
      ∃ text, cs = text ++ '}' :: rest ∧ IsPart .members text

namespace Sound

variable {fuel : Nat}

/-- A value that is read is of the grammar if its parts, which are read with less fuel, are. -/
theorem readValue_succ (ih : Sound fuel) {depth : Nat} {cs rest : List Char} {v : Json}
    (h : readValue (fuel + 1) depth cs = some (v, rest)) :
    ∃ front text, cs = front ++ text ++ rest ∧ IsSpaces front ∧ IsPart .value text := by
  obtain ⟨front, hcs, hfront⟩ := exists_skipSpace_eq cs
  -- blanks in front belong to no value, and the cases are those of the reader behind them
  suffices htext : ∃ text, skipSpace cs = text ++ rest ∧ IsPart .value text by
    obtain ⟨text, htext, hvalue⟩ := htext
    exact ⟨front, text, by rw [List.append_assoc, ← htext, ← hcs], hfront, hvalue⟩
  rw [readValue] at h
  generalize skipSpace cs = body at h
  split at h
  · obtain ⟨-, rfl⟩ := Prod.mk.inj (Option.some.inj h)
    exact ⟨"null".toList, rfl, .word (by decide)⟩
  · obtain ⟨-, rfl⟩ := Prod.mk.inj (Option.some.inj h)
    exact ⟨"true".toList, rfl, .word (by decide)⟩
  · obtain ⟨-, rfl⟩ := Prod.mk.inj (Option.some.inj h)
    exact ⟨"false".toList, rfl, .word (by decide)⟩
  · obtain ⟨written, hscan, -⟩ := exists_of_map_eq_some h fun _ => rfl
    obtain ⟨rfl, hstring⟩ := eq_append_of_scanString hscan
    exact ⟨_, by simp, .string hstring⟩
  · next inner =>
    obtain ⟨spaces, hinner, hspaces⟩ := exists_skipSpace_eq inner
    split at h
    · next after hclose =>
      obtain ⟨-, rfl⟩ := Prod.mk.inj (Option.some.inj h)
      rw [hclose] at hinner
      exact ⟨_, by rw [hinner]; simp, .emptyArray hspaces⟩
    · obtain ⟨vs, hread, -⟩ := exists_of_map_eq_some h fun _ => rfl
      obtain ⟨text, rfl, hitems⟩ := ih.items hread
      exact ⟨_, by simp, .array hitems⟩
  · next inner =>
    obtain ⟨spaces, hinner, hspaces⟩ := exists_skipSpace_eq inner
    split at h
    · next after hclose =>
      obtain ⟨-, rfl⟩ := Prod.mk.inj (Option.some.inj h)
      rw [hclose] at hinner
      exact ⟨_, by rw [hinner]; simp, .object (.emptyBraces hspaces)⟩
    · obtain ⟨ms, hread, -⟩ := exists_of_map_eq_some h fun _ => rfl
      obtain ⟨text, rfl, hmembers⟩ := ih.members hread
      exact ⟨_, by simp, .object (.braces hmembers)⟩
  · have hafter : afterNumber? body = some rest := by rw [← map_snd_readNumber, h]; rfl
    obtain ⟨text, rfl, hnumber⟩ := exists_of_afterNumber? hafter
    exact ⟨text, rfl, .number hnumber⟩

/-- So are the items of an array up to its bracket. -/
theorem readItems_succ (ih : Sound fuel) {depth : Nat} {cs rest : List Char} {vs : List Json}
    (h : readItems (fuel + 1) depth cs = some (vs, rest)) :
    ∃ text, cs = text ++ ']' :: rest ∧ IsPart .elements text := by
  rw [readItems] at h
  split at h
  · cases h
  next v behind hread =>
  obtain ⟨front, text, rfl, hfront, hvalue⟩ := ih.value hread
  obtain ⟨back, hbehind, hback⟩ := exists_skipSpace_eq behind
  have helement := IsPart.element hfront hvalue hback
  split at h
  · next after hcomma =>
    obtain ⟨vs', hrest, -⟩ := exists_of_map_eq_some h fun _ => rfl
    obtain ⟨more, rfl, hmore⟩ := ih.items hrest
    exact ⟨_, by rw [hbehind, hcomma]; simp, .moreElements helement hmore⟩
  · next after hclose =>
    obtain ⟨-, rfl⟩ := Prod.mk.inj (Option.some.inj h)
    exact ⟨_, by rw [hbehind, hclose]; simp, .lastElement helement⟩
  · cases h

/-- So are the members of an object up to its brace. -/
theorem readMembers_succ (ih : Sound fuel) {depth : Nat} {cs rest : List Char}
    {ms : List (List Char × Json)} (h : readMembers (fuel + 1) depth cs = some (ms, rest)) :
    ∃ text, cs = text ++ '}' :: rest ∧ IsPart .members text := by
  obtain ⟨spaces, hcs, hspaces⟩ := exists_skipSpace_eq cs
  rw [readMembers] at h
  split at h
  · next quoted hquote =>
    split at h
    · cases h
    next key behindKey hscan =>
    obtain ⟨rfl, hkey⟩ := eq_append_of_scanString hscan
    obtain ⟨between, hbetween, hspaces'⟩ := exists_skipSpace_eq behindKey
    split at h
    · next behindColon hcolon =>
      split at h
      · cases h
      next v behind hread =>
      obtain ⟨front, text, rfl, hfront, hvalue⟩ := ih.value hread
      obtain ⟨back, hbehind, hback⟩ := exists_skipSpace_eq behind
      -- a key, a colon and a value are read; what follows says whether it is the last member
      have hmember := IsPart.member hspaces hkey hspaces' (.element hfront hvalue hback)
      split at h
      · next after hcomma =>
        obtain ⟨ms', hrest, -⟩ := exists_of_map_eq_some h fun _ => rfl
        obtain ⟨more, rfl, hmore⟩ := ih.members hrest
        refine ⟨_, ?_, .moreMembers hmember hmore⟩
        rw [hcs, hquote, hbetween, hcolon, hbehind, hcomma]
        simp
      · next after hclose =>
        obtain ⟨-, rfl⟩ := Prod.mk.inj (Option.some.inj h)
        refine ⟨_, ?_, .lastMember hmember⟩
        rw [hcs, hquote, hbetween, hcolon, hbehind, hclose]
        simp
      · cases h
    · cases h
  · cases h

end Sound

/-- Whatever is read is of the grammar, with any fuel. -/
theorem sound (fuel : Nat) : Sound fuel := by
  induction fuel with
  | zero =>
    refine ⟨fun h => ?_, fun h => ?_, fun h => ?_⟩
    · rw [readValue] at h
      cases h
    · rw [readItems] at h
      cases h
    · rw [readMembers] at h
      cases h
  | succ fuel ih => exact ⟨ih.readValue_succ, ih.readItems_succ, ih.readMembers_succ⟩

/-! ## What is of the grammar -/

/-- The characters that may come behind an element. -/
def delimiters : List Char := [',', ']', '}']

/-- A delimiter comes here, or the text ends. -/
def Delimited (rest : List Char) : Prop := ∀ c, rest.head? = some c → c ∈ delimiters

/-- A delimiter in front is one that comes here. -/
theorem delimited_cons {c : Char} (h : c ∈ delimiters) (rest : List Char) :
    Delimited (c :: rest) := by
  intro d hd
  obtain rfl := Option.some.inj hd
  exact h

/-- A text begins with blanks and something that is no delimiter. -/
def Opens (text : List Char) : Prop :=
  ∃ front c back, text = front ++ c :: back ∧ IsSpaces front ∧ isSpace c = false ∧ c ∉ delimiters

/-- A text opens with a character that is neither a blank nor a delimiter. -/
theorem opens_cons {c : Char} (hspace : isSpace c = false) (hdelimiter : c ∉ delimiters)
    (back : List Char) : Opens (c :: back) :=
  ⟨[], c, back, rfl, List.forall_mem_nil _, hspace, hdelimiter⟩

/-- It still does with blanks in front. -/
theorem Opens.append_left {text front : List Char} (h : Opens text) (hfront : IsSpaces front) :
    Opens (front ++ text) := by
  obtain ⟨front', c, back, rfl, hfront', hc⟩ := h
  refine ⟨front ++ front', c, back, (List.append_assoc ..).symm, fun d hd => ?_, hc⟩
  exact (List.mem_append.1 hd).elim (hfront d) (hfront' d)

/-- It still does with more text behind. -/
theorem Opens.append_right {text : List Char} (h : Opens text) (more : List Char) :
    Opens (text ++ more) := by
  obtain ⟨front, c, back, rfl, h⟩ := h
  exact ⟨front, c, back ++ more, by rw [List.append_assoc, List.cons_append], h⟩

/-- What is found behind the blanks is no delimiter. -/
theorem Opens.skipSpace_ne {text : List Char} (h : Opens text) {c : Char} (hc : c ∈ delimiters)
    (rest : List Char) : skipSpace text ≠ c :: rest := by
  obtain ⟨front, d, back, rfl, hfront, hspace, hdelimiter⟩ := h
  have hskip : skipSpace (front ++ d :: back) = d :: back := by
    refine skipSpace_append hfront fun e he => ?_
    obtain rfl := Option.some.inj he
    exact hspace
  rw [hskip]
  intro heq
  rw [(List.cons.inj heq).1] at hdelimiter
  exact hdelimiter hc

/-- A number does not go on with a blank. -/
theorem not_isNumeric_of_isSpace {c : Char} (h : isSpace c = true) : ¬ IsNumeric c := by
  simp only [isSpace, Bool.or_eq_true, beq_iff_eq] at h
  obtain ((rfl | rfl) | rfl) | rfl := h <;> decide

/-- A number begins with one of its characters. -/
theorem IsNumber.exists_cons {text : List Char} (h : IsNumber text) :
    ∃ c back, text = c :: back ∧ IsNumeric c := by
  have hnumeric := h.isNumeric
  have hne : text ≠ [] := by
    obtain @⟨sign, whole, fraction, exponent, -, hwhole, -, -⟩ := h
    simp [hwhole.isRun.ne_nil]
  obtain ⟨c, back, rfl⟩ := List.exists_cons_of_ne_nil hne
  exact ⟨c, back, rfl, hnumeric c List.mem_cons_self⟩

/-- Every part of the grammar opens a text. -/
theorem IsPart.opens {kind : Part} {text : List Char} (h : IsPart kind text) : Opens text := by
  induction h with
  | word h =>
    obtain rfl | rfl | rfl := mem_wordTexts_iff.1 h
    · exact opens_cons (by decide) (by decide) _
    · exact opens_cons (by decide) (by decide) _
    · exact opens_cons (by decide) (by decide) _
  | number h =>
    -- a number begins with one of its own characters, and those neither delimit nor are blank
    have hdelimiters : ∀ c ∈ delimiters, ¬ IsNumeric c := List.all_iff_forall_prop.1 (by decide)
    obtain ⟨c, back, rfl, hc⟩ := h.exists_cons
    refine opens_cons (Bool.eq_false_iff.2 fun hspace => ?_) (fun hmem => ?_) back
    · exact not_isNumeric_of_isSpace hspace hc
    · exact hdelimiters c hmem hc
  | string => exact opens_cons (by decide) (by decide) _
  | emptyArray => exact opens_cons (by decide) (by decide) _
  | array => exact opens_cons (by decide) (by decide) _
  | object _ ih => exact ih
  | emptyBraces => exact opens_cons (by decide) (by decide) _
  | braces => exact opens_cons (by decide) (by decide) _
  | element hfront _ _ ih => exact (ih.append_left hfront).append_right _
  | lastElement _ ih => exact ih
  | moreElements _ _ ih => exact ih.append_right _
  | member hfront =>
    have hquote := opens_cons (c := '"') (by decide) (by decide)
    exact (((hquote _).append_left hfront).append_right _).append_right _
  | lastMember _ ih => exact ih
  | moreMembers _ _ ih => exact ih.append_right _

/-- What is read where a member is followed by a comma and others or by the closing bracket. -/
def withMember (fuel depth : Nat) (m : List Char × Json) :
    List Char → Option (List (List Char × Json) × List Char)
  | ',' :: rest => (readMembers fuel depth rest).map fun r => (m :: r.1, r.2)
  | '}' :: rest => some ([m], rest)
  | _ => none

/-- How a part is read, with fuel enough for its length, when what may follow it does. -/
def Reads : Part → List Char → Prop
  | .value, text | .object, text => ∀ fuel depth front rest, 2 * text.length ≤ fuel →
    IsSpaces front → NumberEnds rest →
      ∃ v, readValue fuel depth (front ++ text ++ rest) = some (v, rest)
  | .element, text => ∀ fuel depth rest, 2 * text.length ≤ fuel → Delimited rest →
      ∃ v behind, readValue fuel depth (text ++ rest) = some (v, behind) ∧ skipSpace behind = rest
  | .elements, text => ∀ fuel depth rest, 2 * text.length + 1 ≤ fuel →
      ∃ vs, readItems fuel depth (text ++ ']' :: rest) = some (vs, rest)
  | .member, text => ∀ fuel depth rest, 2 * text.length ≤ fuel → Delimited rest →
      ∃ m, readMembers (fuel + 1) depth (text ++ rest) = withMember fuel depth m rest
  | .members, text => ∀ fuel depth rest, 2 * text.length + 1 ≤ fuel →
      ∃ ms, readMembers fuel depth (text ++ '}' :: rest) = some (ms, rest)

/-- What delimits an element is no blank and ends a number. -/
theorem Delimited.of_blanks {back rest : List Char} (hback : IsSpaces back) (h : Delimited rest) :
    NumberEnds (back ++ rest) ∧ skipSpace (back ++ rest) = rest := by
  have hdelimiters : ∀ c ∈ delimiters, isSpace c = false ∧ ¬ IsNumeric c :=
    List.all_iff_forall_prop.1 (by decide)
  constructor
  · intro c hc
    cases back with
    | nil => exact (hdelimiters c (h c hc)).2
    | cons d back =>
      obtain rfl := Option.some.inj hc
      exact not_isNumeric_of_isSpace (hback d List.mem_cons_self)
  · exact skipSpace_append hback fun c hc => (hdelimiters c (h c hc)).1

/-- Blanks in front of a value are passed over. -/
theorem readValue_append {front body : List Char} (hfront : IsSpaces front)
    (hbody : ∀ c, body.head? = some c → isSpace c = false) (fuel depth : Nat) :
    readValue (fuel + 1) depth (front ++ body) = readValue (fuel + 1) depth body := by
  have hskip : skipSpace body = body := skipSpace_append (List.forall_mem_nil _) hbody
  rw [readValue, readValue, skipSpace_append hfront hbody, hskip]

/-- A value is read when it is read without blanks in front. -/
theorem reads_value {text : List Char} (hhead : ∃ c ∈ text.head?, isSpace c = false)
    (h : ∀ fuel depth rest, 2 * text.length ≤ fuel + 1 → NumberEnds rest →
      ∃ v, readValue (fuel + 1) depth (text ++ rest) = some (v, rest)) :
    Reads .value text := by
  obtain ⟨c, hc, hspace⟩ := hhead
  obtain ⟨back, rfl⟩ := List.head?_eq_some_iff.1 hc
  intro fuel depth front rest hfuel hfront hrest
  obtain ⟨fuel, rfl⟩ : ∃ f, fuel = f + 1 := by
    rw [List.length_cons] at hfuel
    exact ⟨fuel - 1, by omega⟩
  obtain ⟨v, hread⟩ := h fuel depth rest hfuel hrest
  refine ⟨v, ?_⟩
  rw [List.append_assoc, readValue_append hfront, hread]
  intro d hd
  obtain rfl := Option.some.inj hd
  exact hspace

/-- What begins with a number is read as a number. -/
theorem readValue_number {text : List Char} (h : IsNumber text) (fuel depth : Nat)
    (rest : List Char) : readValue (fuel + 1) depth (text ++ rest) = readNumber (text ++ rest) := by
  obtain ⟨c, back, rfl, hc⟩ := h.exists_cons
  have hspace : isSpace c = false :=
    Bool.eq_false_iff.2 fun hspace => not_isNumeric_of_isSpace hspace hc
  have hskip : skipSpace (c :: back ++ rest) = c :: back ++ rest :=
    List.dropWhile_cons_of_neg (by simp [hspace])
  rw [readValue, hskip, List.cons_append]
  -- no other value begins with a character of numbers
  have hother : ∀ d ∈ ['n', 't', 'f', '"', '[', '{'], ¬ IsNumeric d :=
    List.all_iff_forall_prop.1 (by decide)
  split
  all_goals first
    | rfl
    | next heq =>
      rw [(List.cons.inj heq).1] at hc
      exact absurd hc (hother _ (by decide))

/-- Numbers are read. -/
theorem reads_number {text : List Char} (h : IsNumber text) : Reads .value text := by
  obtain ⟨c, back, rfl, hc⟩ := h.exists_cons
  have hspace : isSpace c = false :=
    Bool.eq_false_iff.2 fun hspace => not_isNumeric_of_isSpace hspace hc
  refine reads_value ⟨c, rfl, hspace⟩ fun fuel depth rest _ hrest => ?_
  have hread := afterNumber?_append h hrest
  rw [← map_snd_readNumber, Option.map_eq_some_iff] at hread
  obtain ⟨⟨v, rest'⟩, hread, rfl⟩ := hread
  exact ⟨v, (readValue_number h fuel depth rest').trans hread⟩

/-- Strings are read. -/
theorem reads_string {body : List Char} (h : IsString body) :
    Reads .value ('"' :: body ++ ['"']) := by
  refine reads_value ⟨'"', rfl, by decide⟩ fun fuel depth rest _ _ => ⟨stringOf body, ?_⟩
  have hread : readValue (fuel + 1) depth ('"' :: (body ++ '"' :: rest))
      = (scanString (body ++ '"' :: rest)).map fun r => (stringOf r.1, r.2) := rfl
  rw [List.append_assoc, List.cons_append, List.singleton_append, hread, scanString_append h]
  rfl

/-! ### Arrays and objects -/

/-- Brackets with nothing but blanks between them are an empty array. -/
theorem readValue_emptyArray {inner rest : List Char} (h : skipSpace inner = ']' :: rest)
    (fuel depth : Nat) :
    readValue (fuel + 1) depth ('[' :: inner) = some (bracketed depth (.array []), rest) := by
  have hskip : skipSpace ('[' :: inner) = '[' :: inner := rfl
  rw [readValue, hskip]
  simp only [h]

/-- Behind any other bracket its items are read. -/
theorem readValue_array {inner : List Char} (h : ∀ rest, skipSpace inner ≠ ']' :: rest)
    (fuel depth : Nat) :
    readValue (fuel + 1) depth ('[' :: inner)
      = (readItems fuel (depth - 1) inner).map fun r => (bracketed depth (.array r.1), r.2) := by
  have hskip : skipSpace ('[' :: inner) = '[' :: inner := rfl
  rw [readValue, hskip]
  -- the alternative for a closing bracket is left out by `h`
  simp only []

/-- Braces with nothing but blanks between them are an empty object. -/
theorem readValue_emptyBraces {inner rest : List Char} (h : skipSpace inner = '}' :: rest)
    (fuel depth : Nat) :
    readValue (fuel + 1) depth ('{' :: inner) = some (bracketed depth (.object []), rest) := by
  have hskip : skipSpace ('{' :: inner) = '{' :: inner := rfl
  rw [readValue, hskip]
  simp only [h]

/-- Behind any other brace its members are read. -/
theorem readValue_braces {inner : List Char} (h : ∀ rest, skipSpace inner ≠ '}' :: rest)
    (fuel depth : Nat) :
    readValue (fuel + 1) depth ('{' :: inner)
      = (readMembers fuel (depth - 1) inner).map fun r =>
        (bracketed depth (objectOf r.1), r.2) := by
  have hskip : skipSpace ('{' :: inner) = '{' :: inner := rfl
  rw [readValue, hskip]
  -- the alternative for a closing bracket is left out by `h`
  simp only []

/-- What is found behind the blanks between brackets. -/
theorem skipSpace_closing {closing : Char} (hclosing : isSpace closing = false)
    {spaces : List Char} (h : IsSpaces spaces) (rest : List Char) :
    skipSpace (spaces ++ closing :: rest) = closing :: rest := by
  refine skipSpace_append h fun c hc => ?_
  obtain rfl := Option.some.inj hc
  exact hclosing

/-- Elements in brackets are read. -/
theorem Reads.array {inner : List Char} (h : Reads .elements inner) (hopens : Opens inner) :
    Reads .value ('[' :: inner ++ [']']) := by
  refine reads_value ⟨'[', rfl, by decide⟩ fun fuel depth rest hfuel _ => ?_
  simp only [List.length_append, List.length_cons, List.length_nil] at hfuel
  obtain ⟨vs, hread⟩ := h fuel (depth - 1) rest (by omega)
  have hne : ∀ behind, skipSpace (inner ++ ']' :: rest) ≠ ']' :: behind :=
    (hopens.append_right _).skipSpace_ne (by decide)
  refine ⟨bracketed depth (.array vs), ?_⟩
  rw [List.append_assoc, List.cons_append, List.singleton_append, readValue_array hne, hread]
  rfl

/-- Members in braces are read. -/
theorem Reads.braces {inner : List Char} (h : Reads .members inner) (hopens : Opens inner) :
    Reads .value ('{' :: inner ++ ['}']) := by
  refine reads_value ⟨'{', rfl, by decide⟩ fun fuel depth rest hfuel _ => ?_
  simp only [List.length_append, List.length_cons, List.length_nil] at hfuel
  obtain ⟨ms, hread⟩ := h fuel (depth - 1) rest (by omega)
  have hne : ∀ behind, skipSpace (inner ++ '}' :: rest) ≠ '}' :: behind :=
    (hopens.append_right _).skipSpace_ne (by decide)
  refine ⟨bracketed depth (objectOf ms), ?_⟩
  rw [List.append_assoc, List.cons_append, List.singleton_append, readValue_braces hne, hread]
  rfl

/-- A value is read with blanks around it. -/
theorem Reads.element {front text back : List Char} (h : Reads .value text)
    (hfront : IsSpaces front) (hback : IsSpaces back) :
    Reads .element (front ++ text ++ back) := by
  intro fuel depth rest hfuel hrest
  simp only [List.length_append] at hfuel
  obtain ⟨hends, hskip⟩ := hrest.of_blanks hback
  obtain ⟨v, hread⟩ := h fuel depth front (back ++ rest) (by omega) hfront hends
  exact ⟨v, back ++ rest, by rw [List.append_assoc, hread], hskip⟩

/-- One element is read as elements. -/
theorem Reads.lastElement {text : List Char} (h : Reads .element text) : Reads .elements text := by
  intro fuel depth rest hfuel
  obtain ⟨fuel, rfl⟩ : ∃ f, fuel = f + 1 := ⟨fuel - 1, by omega⟩
  obtain ⟨v, behind, hread, hskip⟩ :=
    h fuel depth (']' :: rest) (by omega) (delimited_cons (by decide) _)
  refine ⟨[v], ?_⟩
  rw [readItems, hread]
  simp only [hskip]

/-- An element is read with others behind a comma. -/
theorem Reads.moreElements {text more : List Char} (h : Reads .element text)
    (hmore : Reads .elements more) : Reads .elements (text ++ ',' :: more) := by
  intro fuel depth rest hfuel
  simp only [List.length_append, List.length_cons] at hfuel
  obtain ⟨fuel, rfl⟩ : ∃ f, fuel = f + 1 := ⟨fuel - 1, by omega⟩
  obtain ⟨v, behind, hread, hskip⟩ :=
    h fuel depth (',' :: (more ++ ']' :: rest)) (by omega) (delimited_cons (by decide) _)
  obtain ⟨vs, hrest⟩ := hmore fuel depth rest (by omega)
  refine ⟨v :: vs, ?_⟩
  rw [List.append_assoc, List.cons_append, readItems, hread]
  simp only [hskip, hrest]
  rfl

/-- A member is read: its key, a colon, and an element. -/
theorem Reads.member {front key back text : List Char} (h : Reads .element text)
    (hfront : IsSpaces front) (hkey : IsString key) (hback : IsSpaces back) :
    Reads .member (front ++ ('"' :: key ++ ['"']) ++ back ++ ':' :: text) := by
  intro fuel depth rest hfuel hrest
  simp only [List.length_append, List.length_cons] at hfuel
  obtain ⟨v, behind, hread, hskip⟩ := h fuel depth rest (by omega) hrest
  refine ⟨(key, v), ?_⟩
  have hquote : skipSpace (front ++ '"' :: (key ++ '"' :: (back ++ ':' :: (text ++ rest))))
      = '"' :: (key ++ '"' :: (back ++ ':' :: (text ++ rest))) :=
    skipSpace_closing (by decide) hfront _
  have hscan : scanString (key ++ '"' :: (back ++ ':' :: (text ++ rest)))
      = some (key, back ++ ':' :: (text ++ rest)) :=
    scanString_append hkey _
  have hcolon : skipSpace (back ++ ':' :: (text ++ rest)) = ':' :: (text ++ rest) :=
    skipSpace_closing (by decide) hback _
  simp only [List.append_assoc, List.cons_append, List.nil_append]
  rw [readMembers, hquote]
  simp only [hscan, hcolon, hread, hskip]
  rfl

/-- One member is read as members. -/
theorem Reads.lastMember {text : List Char} (h : Reads .member text) : Reads .members text := by
  intro fuel depth rest hfuel
  obtain ⟨fuel, rfl⟩ : ∃ f, fuel = f + 1 := ⟨fuel - 1, by omega⟩
  obtain ⟨m, hread⟩ := h fuel depth ('}' :: rest) (by omega) (delimited_cons (by decide) _)
  exact ⟨[m], hread⟩

/-- A member is read with others behind a comma. -/
theorem Reads.moreMembers {text more : List Char} (h : Reads .member text)
    (hmore : Reads .members more) : Reads .members (text ++ ',' :: more) := by
  intro fuel depth rest hfuel
  simp only [List.length_append, List.length_cons] at hfuel
  obtain ⟨fuel, rfl⟩ : ∃ f, fuel = f + 1 := ⟨fuel - 1, by omega⟩
  obtain ⟨m, hread⟩ :=
    h fuel depth (',' :: (more ++ '}' :: rest)) (by omega) (delimited_cons (by decide) _)
  obtain ⟨ms, hrest⟩ := hmore fuel depth rest (by omega)
  refine ⟨m :: ms, ?_⟩
  rw [List.append_assoc, List.cons_append, hread, withMember, hrest]
  rfl

/-- Every part is read. -/
theorem reads {kind : Part} {text : List Char} (h : IsPart kind text) : Reads kind text := by
  -- each rule of the grammar is a lemma on what it makes of parts that are read
  induction h with
  | word h =>
    obtain rfl | rfl | rfl := mem_wordTexts_iff.1 h
    · exact reads_value ⟨'n', by decide, by decide⟩ fun _ _ _ _ _ => ⟨.null, rfl⟩
    · exact reads_value ⟨'t', by decide, by decide⟩ fun _ _ _ _ _ => ⟨.bool true, rfl⟩
    · exact reads_value ⟨'f', by decide, by decide⟩ fun _ _ _ _ _ => ⟨.bool false, rfl⟩
  | number h => exact reads_number h
  | string h => exact reads_string h
  | emptyArray h =>
    refine reads_value ⟨'[', rfl, by decide⟩ fun fuel depth rest _ _ =>
      ⟨bracketed depth (.array []), ?_⟩
    rw [List.append_assoc, List.cons_append, List.singleton_append]
    exact readValue_emptyArray (skipSpace_closing (by decide) h rest) fuel depth
  | array hinner ih => exact ih.array hinner.opens
  | object _ ih => exact ih
  | emptyBraces h =>
    refine reads_value ⟨'{', rfl, by decide⟩ fun fuel depth rest _ _ =>
      ⟨bracketed depth (.object []), ?_⟩
    rw [List.append_assoc, List.cons_append, List.singleton_append]
    exact readValue_emptyBraces (skipSpace_closing (by decide) h rest) fuel depth
  | braces hinner ih => exact ih.braces hinner.opens
  | element hfront _ hback ih => exact ih.element hfront hback
  | lastElement _ ih => exact ih.lastElement
  | moreElements _ _ ih ih' => exact ih.moreElements ih'
  | member hfront hkey hback _ ih => exact ih.member hfront hkey hback
  | lastMember _ ih => exact ih.lastMember
  | moreMembers _ _ ih ih' => exact ih.moreMembers ih'

/-- A text is read when it is an element of the grammar, and only then. -/
theorem parse?_isSome_iff (s : String) : (parse? s).isSome ↔ IsPart .element s.toList := by
  constructor
  · intro h
    obtain ⟨v, hv⟩ := Option.isSome_iff_exists.1 h
    simp only [parse?] at hv
    split at hv
    · next w rest hread =>
      split at hv
      · next hrest =>
        obtain ⟨front, text, hcs, hfront, hvalue⟩ := (sound _).value hread
        obtain ⟨back, hback, hspaces⟩ := exists_skipSpace_eq rest
        rw [hrest, List.append_nil] at hback
        rw [hcs, hback]
        exact .element hfront hvalue hspaces
      · cases hv
    · cases hv
  · intro h
    obtain ⟨v, behind, hread, hskip⟩ := reads h (2 * s.toList.length + 2) maxDepth []
      (Nat.le_add_right _ _) (fun c hc => by cases hc)
    rw [List.append_nil] at hread
    simp only [parse?, hread, hskip]
    rfl

/-- What reaches from one bracket of an object to the other, and is read, is an object. -/
theorem isPart_object_of_parse? {text : List Char} (hread : (parse? (String.ofList text)).isSome)
    (hopening : text.head? = some '{') (hclosing : text.getLast? = some '}') :
    IsPart .object text := by
  rw [parse?_isSome_iff, String.toList_ofList] at hread
  have hspace : ∀ c ∈ ['{', '}'], ¬ isSpace c = true := List.all_iff_forall_prop.1 (by decide)
  cases hread with
  | @element front text back hfront hvalue hback =>
  -- the brackets leave no room for blanks around the value
  obtain rfl : front = [] := by
    cases front with
    | nil => rfl
    | cons c front =>
      obtain rfl := Option.some.inj hopening
      exact absurd (hfront '{' List.mem_cons_self) (hspace '{' (by decide))
  obtain rfl : back = [] := by
    rcases List.eq_nil_or_concat back with rfl | ⟨front, c, rfl⟩
    · rfl
    · rw [List.concat_eq_append, ← List.append_assoc, List.getLast?_concat] at hclosing
      obtain rfl := Option.some.inj hclosing
      exact absurd (hback '}' (by simp)) (hspace '}' (by decide))
  rw [List.nil_append, List.append_nil] at hopening ⊢
  -- and of the values only an object begins with that bracket
  cases hvalue with
  | word h =>
    have hwords : ∀ text ∈ wordTexts, text.head? ≠ some '{' := by decide
    exact absurd hopening (hwords _ h)
  | number h =>
    obtain ⟨c, rest, rfl, hc⟩ := h.exists_cons
    obtain rfl := Option.some.inj hopening
    exact absurd hc (by decide)
  | string => cases hopening
  | emptyArray => cases hopening
  | array => cases hopening
  | object h => exact h

end CitedReport.Json
