import CitedReport.Proofs.Citation.Rereading

/-!
# Renumbering a marker in one pass over its text

A marker is renumbered number by number. Here the same is said of its text alone: `runs` cuts any
text into its runs of digits, and `rewrite?` goes through these once, with the output so far and
whether anything has changed in hand. `rewrites_renumber` says what comes of it: the text stays when
the digits that are left are those from before, nothing is left when no run is, and otherwise there
is one marker again, with the runs that are left behind the separators that stood before them.
-/

namespace CitedReport.Citation

/-! ## The runs of digits of a text -/

/-- The runs of digits of a text, each with what stands between it and the run before. -/
def runs : List Char → List (List Char × List Char)
  | [] => []
  | c :: cs =>
    if Chars.isDigit c then
      match runs cs with
      -- with nothing in front of it, the next run goes on from here
      | ([], digits) :: more => ([], c :: digits) :: more
      | more => ([], [c]) :: more
    else
      match runs cs with
      | (gap, digits) :: more => (c :: gap, digits) :: more
      | [] => []

/-- A text whose first run has nothing in front of it begins with a digit. -/
theorem isDigit_head?_of_runs {cs digits : List Char} {more : List (List Char × List Char)}
    (h : runs cs = ([], digits) :: more) : ∃ c, cs.head? = some c ∧ Chars.isDigit c = true := by
  cases cs with
  | nil => simp [runs] at h
  | cons c cs =>
    refine ⟨c, rfl, ?_⟩
    by_contra hc
    rw [runs, if_neg hc] at h
    split at h
    · simp at h
    · simp at h

/-- A character that is no digit comes in front of the first run. -/
theorem runs_cons_of_not_isDigit {c : Char} (hc : Chars.isDigit c = false) {cs : List Char}
    {gap digits : List Char} {more : List (List Char × List Char)}
    (h : runs cs = (gap, digits) :: more) : runs (c :: cs) = (c :: gap, digits) :: more := by
  rw [runs, if_neg (by simp [hc]), h]

/-- Digits up to something else are the first run. -/
theorem runs_digits_append {digits rest : List Char} (hd : IsDigits digits)
    (hrest : ∀ c, rest.head? = some c → Chars.isDigit c = false) :
    runs (digits ++ rest) = ([], digits) :: runs rest := by
  obtain ⟨hne, hall⟩ := hd
  induction digits with
  | nil => exact absurd rfl hne
  | cons c ds ih =>
    have hc : Chars.isDigit c = true := hall c List.mem_cons_self
    cases ds with
    | nil =>
      rw [List.singleton_append, runs, if_pos hc]
      split
      · next digits more hruns =>
        -- what follows would begin with a digit
        obtain ⟨d, hd, hdigit⟩ := isDigit_head?_of_runs hruns
        rw [hrest d hd] at hdigit
        cases hdigit
      · rfl
    | cons d ds =>
      have hds := ih (List.cons_ne_nil d ds) fun e he => hall e (List.mem_cons_of_mem c he)
      rw [List.cons_append, runs, if_pos hc, hds]

/-- The first run of a text and what stands in front of it. -/
theorem runs_append {gap digits rest : List Char}
    (hgap : ∀ c ∈ gap, Chars.isDigit c = false) (hd : IsDigits digits)
    (hrest : ∀ c, rest.head? = some c → Chars.isDigit c = false) :
    runs (gap ++ digits ++ rest) = (gap, digits) :: runs rest := by
  induction gap with
  | nil => exact runs_digits_append hd hrest
  | cons c gap ih =>
    have hcs := ih fun d hdmem => hgap d (List.mem_cons_of_mem c hdmem)
    exact runs_cons_of_not_isDigit (hgap c List.mem_cons_self) hcs

/-- A separator has no digits. -/
theorem isDigit_eq_false_of_mem_separator {sep : List Char} (h : IsSeparator sep) {c : Char}
    (hc : c ∈ sep) : Chars.isDigit c = false := by
  obtain ⟨before, after, rfl, hb, ha⟩ := h
  rcases List.mem_append.1 hc with hc | hc
  · exact Chars.isDigit_eq_false_of_isBlank (hb c hc)
  · rcases List.mem_cons.1 hc with rfl | hc
    · decide
    · exact Chars.isDigit_eq_false_of_isBlank (ha c hc)

namespace Marker

/-- The runs of further numbers are these numbers. -/
theorem runs_moreText {more : List (List Char × List Char)}
    (h : ∀ t ∈ more, IsSeparator t.1 ∧ IsDigits t.2) : runs (moreText more ++ [']']) = more := by
  induction more with
  | nil => rfl
  | cons t more ih =>
    obtain ⟨hs, hd⟩ := h t List.mem_cons_self
    have hmore : ∀ u ∈ more, IsSeparator u.1 ∧ IsDigits u.2 := fun u hu =>
      h u (List.mem_cons_of_mem t hu)
    have hstop : ∀ c, (moreText more ++ [']']).head? = some c → Chars.isDigit c = false :=
      fun c => isDigit_of_head?_moreText hmore
    have hgap : ∀ c ∈ t.1, Chars.isDigit c = false := fun c =>
      isDigit_eq_false_of_mem_separator hs
    rw [moreText_cons, List.append_assoc (t.1 ++ t.2), runs_append hgap hd hstop, ih hmore]

/-- The runs of a marker are its numbers. -/
theorem runs_text {m : Marker} (h : m.WellFormed) : runs m.text = (['['], m.first) :: m.more := by
  have hstop : ∀ c, (moreText m.more ++ [']']).head? = some c → Chars.isDigit c = false :=
    fun c => isDigit_of_head?_moreText h.more
  have hgap : ∀ c ∈ ['['], Chars.isDigit c = false := by decide
  have htext : m.text = ['['] ++ m.first ++ (moreText m.more ++ [']']) := by simp [text_eq]
  rw [htext, runs_append hgap h.first hstop, runs_moreText h.more]

end Marker

/-! ## The runs that are left -/

section

variable (resolve : Nat → Resolution)

/-- What becomes of a run of digits, if it does not go. -/
inductive Becomes : List Char → Option (List Char) → Prop where
  /-- The digits stand for no number, and stay as written. -/
  | unreadable {digits : List Char} (h : index? digits = none) : Becomes digits (some digits)
  /-- The number is kept, and stays as written. -/
  | kept {digits : List Char} {n : Nat} (h : index? digits = some n) (hn : resolve n = .keep) :
    Becomes digits (some digits)
  /-- The number is replaced by another, in decimal digits. -/
  | renumbered {digits : List Char} {n k : Nat} (h : index? digits = some n)
    (hn : resolve n = .renumber k) : Becomes digits (some (indexText k))
  /-- The number is dropped. -/
  | dropped {digits : List Char} {n : Nat} (h : index? digits = some n) (hn : resolve n = .drop) :
    Becomes digits none

/-- Resolving digits gives what becomes of them. -/
theorem becomes_resolveDigits (digits : List Char) :
    Becomes resolve digits (resolveDigits resolve digits) := by
  rw [resolveDigits]
  cases h : index? digits with
  | none => exact .unreadable h
  | some n =>
    simp only
    cases hn : resolve n with
    | keep => exact .kept h hn
    | renumber k => exact .renumbered h hn
    | drop => exact .dropped h hn

/-- The runs that are left, each with what stood in front of it. -/
def runsLeft (ts : List (List Char × List Char)) : List (List Char × List Char) :=
  ts.filterMap fun t => (resolveDigits resolve t.2).map fun d => (t.1, d)

end

variable {resolve : Nat → Resolution}

/-- There are not more runs left than there were. -/
theorem length_runsLeft_le (resolve : Nat → Resolution) (ts : List (List Char × List Char)) :
    (runsLeft resolve ts).length ≤ ts.length :=
  List.length_filterMap_le _ _

/-- The runs that are left are digits. -/
theorem isDigits_of_mem_runsLeft {ts : List (List Char × List Char)} (h : ∀ t ∈ ts, IsDigits t.2)
    {t : List Char × List Char} (ht : t ∈ runsLeft resolve ts) : IsDigits t.2 := by
  obtain ⟨u, hu, hut⟩ := List.mem_filterMap.1 ht
  obtain ⟨digits, hdigits, rfl⟩ := Option.map_eq_some_iff.1 hut
  exact isDigits_of_resolveDigits (h u hu) hdigits

/-! ## One pass -/

/-- What a pass over the runs of a marker has in hand. -/
structure Pass where
  /-- The text between the brackets so far. -/
  out : List Char := []
  /-- Whether a run has gone or become another. -/
  changed : Bool := false

/-- Takes in the next run. Only behind other output does it keep what stood in front of it. -/
def Pass.next (resolve : Nat → Resolution) (p : Pass) (t : List Char × List Char) : Pass :=
  match resolveDigits resolve t.2 with
  | none => { p with changed := true }
  | some digits =>
    { out := if p.out = [] then digits else p.out ++ t.1 ++ digits
      changed := p.changed || digits ≠ t.2 }

/-- The text that takes the place of a marker's, in one pass over its runs of digits; `none` when
nothing changes. -/
def rewrite? (resolve : Nat → Resolution) (cs : List Char) : Option (List Char) :=
  let p := (runs cs).foldl (Pass.next resolve) {}
  if p.changed then some (if p.out = [] then [] else '[' :: (p.out ++ [']'])) else none

/-- What stands between the brackets of a marker with these numbers. -/
def innerText : List (List Char × List Char) → List Char
  | [] => []
  | (_, digits) :: more => digits ++ Marker.moreText more

/-- Nothing stands between the brackets only when no run is left. -/
theorem innerText_eq_nil_iff {left : List (List Char × List Char)}
    (h : ∀ t ∈ left, IsDigits t.2) : innerText left = [] ↔ left = [] := by
  cases left with
  | nil => simp [innerText]
  | cons t more => simp [innerText, (h t List.mem_cons_self).1]

/-- A further number goes behind its separator, except for the first. -/
theorem innerText_concat (left : List (List Char × List Char)) (t : List Char × List Char) :
    innerText (left ++ [t]) = if left = [] then t.2 else innerText left ++ t.1 ++ t.2 := by
  cases left with
  | nil => simp [innerText]
  | cons u more => simp [innerText, Marker.moreText]

/-- After the runs `ts`, a pass has written what is left of them, and knows whether that is all of
them as they were. -/
structure Pass.After (resolve : Nat → Resolution) (p : Pass)
    (ts : List (List Char × List Char)) : Prop where
  /-- What is left is written. -/
  out : p.out = innerText (runsLeft resolve ts)
  /-- A change is noticed. -/
  changed : p.changed = true ↔ (runsLeft resolve ts).map Prod.snd ≠ ts.map Prod.snd

/-- A pass that has come to a run goes on to the next one. -/
theorem Pass.After.next {p : Pass} {ts : List (List Char × List Char)} {t : List Char × List Char}
    (h : p.After resolve ts) (hts : ∀ u ∈ ts, IsDigits u.2) :
    (p.next resolve t).After resolve (ts ++ [t]) := by
  have hempty : p.out = [] ↔ runsLeft resolve ts = [] := by
    rw [h.out, innerText_eq_nil_iff fun u hu => isDigits_of_mem_runsLeft hts hu]
  cases hd : resolveDigits resolve t.2 with
  | none =>
    have hleft : runsLeft resolve (ts ++ [t]) = runsLeft resolve ts := by
      simp [runsLeft, hd]
    have hnext : p.next resolve t = { p with changed := true } := by simp [Pass.next, hd]
    rw [hnext]
    refine ⟨by rw [hleft]; exact h.out, ?_⟩
    -- a run is missing, so these are not all of them
    have hlen := length_runsLeft_le resolve ts
    rw [hleft]
    refine iff_of_true rfl fun heq => ?_
    have := congrArg List.length heq
    simp only [List.length_map, List.length_append, List.length_singleton] at this
    omega
  | some digits =>
    have hleft : runsLeft resolve (ts ++ [t]) = runsLeft resolve ts ++ [(t.1, digits)] := by
      simp [runsLeft, hd]
    have hnext : p.next resolve t
        = ⟨if p.out = [] then digits else p.out ++ t.1 ++ digits, p.changed || digits ≠ t.2⟩ := by
      simp [Pass.next, hd]
    rw [hnext]
    constructor
    · rw [hleft, innerText_concat, h.out]
      simp only [← h.out, hempty]
    · rw [hleft, Bool.or_eq_true, h.changed, decide_eq_true_eq]
      simp only [List.map_append, List.map_singleton, ne_eq, List.append_singleton_inj, not_and_or]

/-- The pass comes to what is left of all runs. -/
theorem after_foldl_next (resolve : Nat → Resolution) (ts : List (List Char × List Char))
    (h : ∀ t ∈ ts, IsDigits t.2) :
    (ts.foldl (Pass.next resolve) {}).After resolve ts := by
  induction ts using List.reverseRecOn with
  | nil => exact ⟨rfl, by simp [runsLeft]⟩
  | append_singleton ts t ih =>
    have hts : ∀ u ∈ ts, IsDigits u.2 := fun u hu => h u (List.mem_append_left _ hu)
    rw [List.foldl_append]
    exact (ih hts).next hts

/-! ## What becomes of the text of a marker -/

/-- The text that takes the place of a marker's; `none` when nothing changes. -/
def Renumbered.text? : Renumbered → Option (List Char)
  | .unchanged => none
  | .removed => some []
  | .changed m => some m.text

/-- How a marker with the runs `ts` is rewritten when these runs are left. -/
structure Rewrites (ts left : List (List Char × List Char)) (result : Option (List Char)) :
    Prop where
  /-- Nothing changes when the digits that are left are those from before. -/
  unchanged : result = none ↔ left.map Prod.snd = ts.map Prod.snd
  /-- Nothing stays when no run is left. -/
  removed : result = some [] ↔ left = []
  /-- Otherwise there is one marker from end to end. Its runs are those that are left, each behind
  what stood in front of it, except for the first, which comes behind the bracket. -/
  changed {sep digits : List Char} {more : List (List Char × List Char)}
    (hleft : left = (sep, digits) :: more) (hne : left.map Prod.snd ≠ ts.map Prod.snd) :
    ∃ m : Marker, result = some m.text ∧ Marker.read? m.text = some m ∧
      runs m.text = (['['], digits) :: more

section Marker

variable {m : Marker}

/-- What is left of the runs of a marker's text is what is left of its numbers; only what stands in
front of the first differs. -/
theorem Marker.runsLeft_runs_text (h : m.WellFormed) (resolve : Nat → Resolution) :
    ofTokens? (runsLeft resolve (runs m.text)) = ofTokens? (m.survivors resolve) ∧
      (runsLeft resolve (runs m.text)).map Prod.snd = (m.survivors resolve).map Prod.snd := by
  rw [runs_text h, survivors, tokens, runsLeft]
  cases hd : resolveDigits resolve m.first with
  | none => simp [hd]
  | some digits => simp [hd, ofTokens?]

/-- The runs that are left make up a marker. -/
theorem Marker.wellFormed_of_runsLeft (h : m.WellFormed) {sep digits : List Char}
    {more : List (List Char × List Char)}
    (hleft : runsLeft resolve (runs m.text) = (sep, digits) :: more) :
    (Marker.mk digits more).WellFormed := by
  have hmarker := (runsLeft_runs_text h resolve).1
  rw [hleft] at hmarker
  cases hsurvivors : m.survivors resolve with
  | nil =>
    rw [hsurvivors] at hmarker
    cases hmarker
  | cons t ts =>
    rw [hsurvivors] at hmarker
    rw [Option.some.inj hmarker]
    exact h.of_survivors hsurvivors

/-- What is put in brackets stands between them. -/
theorem bracketed_eq_innerText {left : List (List Char × List Char)} (h : left ≠ []) :
    bracketed left = '[' :: (innerText left ++ [']']) := by
  obtain ⟨t, more, rfl⟩ := List.exists_cons_of_ne_nil h
  simp [bracketed, innerText, Marker.text_eq]

/-- What takes the place of the text of a marker, by its runs and those that are left. -/
theorem Renumbered.text?_renumber_eq (h : m.WellFormed) :
    (m.renumber resolve).text?
      = if (runsLeft resolve (runs m.text)).map Prod.snd = (runs m.text).map Prod.snd then none
        else some (bracketed (runsLeft resolve (runs m.text))) := by
  obtain ⟨hmarker, hleft⟩ := Marker.runsLeft_runs_text h resolve
  have htokens : (runs m.text).map Prod.snd = m.tokens.map Prod.snd := by
    rw [Marker.runs_text h, Marker.tokens, List.map_cons, List.map_cons]
  rw [hleft, htokens, bracketed_eq, hmarker, ← bracketed_eq, Marker.renumber]
  split
  · rfl
  · cases m.survivors resolve with
    | nil => rfl
    | cons t more => rfl

/-- One pass over the text of a marker comes to the same as renumbering the marker. -/
theorem rewrite?_text (h : m.WellFormed) :
    rewrite? resolve m.text = (m.renumber resolve).text? := by
  have hdigits : ∀ t ∈ runs m.text, IsDigits t.2 := by
    rw [Marker.runs_text h]
    exact List.forall_mem_cons.2 ⟨h.first, fun t ht => (h.more t ht).2⟩
  have hafter := after_foldl_next resolve (runs m.text) hdigits
  have hempty : innerText (runsLeft resolve (runs m.text)) = [] ↔
      runsLeft resolve (runs m.text) = [] :=
    innerText_eq_nil_iff fun t ht => isDigits_of_mem_runsLeft hdigits ht
  rw [rewrite?, Renumbered.text?_renumber_eq h]
  simp only [hafter.changed, hafter.out, ne_eq, ite_not]
  split
  · rfl
  · split
    · next hnil => rw [hempty.1 hnil, bracketed]
    · next hne => rw [bracketed_eq_innerText fun hnil => hne (hempty.2 hnil)]

/-- A marker is rewritten by what is left of its runs. -/
theorem rewrites_text?_renumber (h : m.WellFormed) :
    Rewrites (runs m.text) (runsLeft resolve (runs m.text)) (m.renumber resolve).text? := by
  have hruns : runs m.text ≠ [] := by simp [Marker.runs_text h]
  rw [Renumbered.text?_renumber_eq h]
  refine ⟨by simp, ?_, ?_⟩
  · cases hleft : runsLeft resolve (runs m.text) with
    | nil => simp [bracketed, hruns]
    | cons t more => simp [bracketed, Marker.text_ne_nil]
  · intro sep digits more hleft hne
    have hwf := Marker.wellFormed_of_runsLeft h hleft
    refine ⟨⟨digits, more⟩, ?_, ?_, Marker.runs_text hwf⟩
    · rw [if_neg hne, hleft, bracketed]
    · simpa using Marker.read?_text_append hwf []

end Marker

/-- What becomes of a text that is a marker from end to end: of its runs of digits those are left
that are not dropped, and the marker is rewritten accordingly, as one pass over its text does it. -/
theorem rewrites_renumber (resolve : Nat → Resolution) {cs : List Char} {m : Marker}
    (hread : Marker.read? cs = some m) (hwhole : m.text = cs) :
    ∃ left, Left (Becomes resolve) (runs cs) left ∧
      Rewrites (runs cs) left (m.renumber resolve).text? ∧
      rewrite? resolve cs = (m.renumber resolve).text? := by
  obtain ⟨hm, -⟩ := Marker.read?_eq_some_iff.1 hread
  subst hwhole
  exact ⟨_, left_filterMap (becomes_resolveDigits resolve) _, rewrites_text?_renumber hm,
    rewrite?_text hm⟩

/-- A rule that drops one number and raises the others. -/
def raise (n : Nat) : Resolution := if n = 9 then .drop else .renumber (n + 1)

/-- A marker of four numbers is rewritten, one of them in digits of another script and one that
goes. -/
theorem rewrites_renumber_raise :
    Marker.read? "[01, \u0663,9 , 2]".toList
        = some ⟨['0', '1'], [([',', ' '], ['\u0663']), ([','], ['9']), ([' ', ',', ' '], ['2'])]⟩ ∧
      rewrite? raise "[01, \u0663,9 , 2]".toList = some "[2, \u0663 , 3]".toList ∧
      ∃ left, Left (Becomes raise) (runs "[01, \u0663,9 , 2]".toList) left ∧
        Rewrites (runs "[01, \u0663,9 , 2]".toList) left (some "[2, \u0663 , 3]".toList) := by
  have hread : Marker.read? "[01, \u0663,9 , 2]".toList = some
      ⟨['0', '1'], [([',', ' '], ['\u0663']), ([','], ['9']), ([' ', ',', ' '], ['2'])]⟩ := by
    decide +kernel
  have hrewrite : rewrite? raise "[01, \u0663,9 , 2]".toList = some "[2, \u0663 , 3]".toList := by
    decide +kernel
  obtain ⟨left, hleft, hrewrites, hpass⟩ := rewrites_renumber raise hread (by decide)
  rw [← hpass, hrewrite] at hrewrites
  exact ⟨hread, hrewrite, left, hleft, hrewrites⟩

end CitedReport.Citation
