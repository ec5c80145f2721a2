import CitedReport.Proofs.Json.Grammar

/-!
# Reading strings and numbers

A string is read up to the quote that closes it, and a number up to where none goes on. What is read
is of the grammar, and what is of the grammar is read.
-/

namespace CitedReport.Json

open Chars

/-- What is made of something that is read leaves behind it what that left. -/
theorem exists_of_map_eq_some {α β : Type} {read : Option (α × List Char)}
    {f : α × List Char → β × List Char} {b : β} {rest : List Char}
    (h : read.map f = some (b, rest)) (hf : ∀ r, (f r).2 = r.2) :
    ∃ a, read = some (a, rest) ∧ (f (a, rest)).1 = b := by
  obtain ⟨⟨a, rest'⟩, hread, heq⟩ := Option.map_eq_some_iff.1 h
  obtain rfl : rest = rest' := by
    have hrest := hf (a, rest')
    rwa [heq] at hrest
  exact ⟨a, hread, by rw [heq]⟩

/-! ## Strings -/

/-- What is read as a string is one, up to its closing quote. -/
theorem eq_append_of_scanString {cs body rest : List Char} (h : scanString cs = some (body, rest)) :
    cs = body ++ '"' :: rest ∧ IsString body := by
  fun_induction scanString cs generalizing body rest with
  | case1 => cases h
  | case2 after =>
    obtain ⟨rfl, rfl⟩ := Prod.mk.inj (Option.some.inj h)
    exact ⟨rfl, .nil⟩
  | case3 a b c d after hdigits => cases h
  | case4 a b c d after n hdigits ih =>
    obtain ⟨body', hscan, rfl⟩ := exists_of_map_eq_some h fun _ => rfl
    obtain ⟨rfl, hbody⟩ := ih hscan
    exact ⟨rfl, .unicode (by rw [hdigits]; rfl) hbody⟩
  | case5 c after _ hc => cases h
  | case6 c after _ e hc ih =>
    obtain ⟨body', hscan, rfl⟩ := exists_of_map_eq_some h fun _ => rfl
    obtain ⟨rfl, hbody⟩ := ih hscan
    exact ⟨rfl, .escape (by rw [hc]; rfl) hbody⟩
  | case7 c after _ _ _ hcontrol => cases h
  | case8 c after hquote _ hbackslash hcontrol ih =>
    obtain ⟨body', hscan, rfl⟩ := exists_of_map_eq_some h fun _ => rfl
    obtain ⟨rfl, hbody⟩ := ih hscan
    -- a backslash would have something behind it
    have hne : c ≠ '\\' := by
      intro hc
      cases body' with
      | nil => exact hbackslash _ _ hc rfl
      | cons d body' => exact hbackslash _ _ hc rfl
    exact ⟨rfl, .plain (Nat.not_lt.1 hcontrol) hquote hne hbody⟩

/-- A string is read up to its closing quote. -/
theorem scanString_append {body : List Char} (h : IsString body) (rest : List Char) :
    scanString (body ++ '"' :: rest) = some (body, rest) := by
  induction h with
  | nil => rfl
  | @plain c cs hcontrol hquote hbackslash _ ih =>
    rw [List.cons_append, scanString, if_neg (Nat.not_lt.2 hcontrol), ih]
    · rfl
    · exact hquote
    · exact fun _ _ _ _ _ hc _ => hbackslash hc
    · exact fun _ _ hc _ => hbackslash hc
  | @escape c cs hc _ ih =>
    obtain ⟨e, he⟩ := Option.isSome_iff_exists.1 hc
    rw [List.cons_append, List.cons_append, scanString, he]
    · simp only [ih]
      rfl
    · -- the letter for a code point is not among those of the other escapes
      rintro _ _ _ _ _ rfl -
      exact absurd hc (by decide)
  | @unicode a b c d cs hdigits _ ih =>
    obtain ⟨n, hn⟩ := Option.isSome_iff_exists.1 hdigits
    simp only [List.cons_append]
    rw [scanString, hn]
    simp only [ih]
    rfl

/-! ## Numbers

Whether a number is read, and what is left behind it, does not depend on its value. -/

/-- What is left behind at least one digit. -/
def afterDigits? (cs : List Char) : Option (List Char) :=
  if cs.takeWhile isAsciiDigit = [] then none else some (cs.dropWhile isAsciiDigit)

/-- What is left behind one of some signs, if one comes first. -/
def afterSign (signs : List Char) : List Char → List Char
  | [] => []
  | c :: cs => if c ∈ signs then cs else c :: cs

/-- Where there is no sign, nothing is passed over. -/
theorem afterSign_eq_self {signs cs : List Char} (h : ∀ c ∈ signs, ∀ rest, cs ≠ c :: rest) :
    afterSign signs cs = cs := by
  cases cs with
  | nil => rfl
  | cons c cs => exact if_neg fun hc => h c hc cs rfl

/-- What is left behind an exponent, if one comes first. -/
def afterExponent? : List Char → Option (List Char)
  | 'e' :: cs => afterDigits? (afterSign ['+', '-'] cs)
  | 'E' :: cs => afterDigits? (afterSign ['+', '-'] cs)
  | cs => some cs

/-- What is left behind a fraction and an exponent, if they come first. -/
def afterFraction? : List Char → Option (List Char)
  | '.' :: cs => (afterDigits? cs).bind afterExponent?
  | cs => afterExponent? cs

/-- What is left behind a number. -/
def afterNumber? (cs : List Char) : Option (List Char) :=
  let unsigned := afterSign ['-'] cs
  match unsigned.takeWhile isAsciiDigit with
  | [] => none
  | '0' :: _ :: _ => none
  | _ => afterFraction? (unsigned.dropWhile isAsciiDigit)

/-- Behind the letter of an exponent a sign and digits are read. -/
theorem map_snd_readExponent (negative : Bool) (significand : Nat) (exponent : Int)
    (cs : List Char) :
    (readExponent negative significand exponent cs).map Prod.snd
      = afterDigits? (afterSign ['+', '-'] cs) := by
  unfold readExponent
  split
  next minus rest hsign =>
  have hrest : rest = afterSign ['+', '-'] cs := by
    split at hsign
    · exact (Prod.mk.inj hsign).2.symm
    · exact (Prod.mk.inj hsign).2.symm
    · next hplus hminus =>
      have hsigns : ∀ c ∈ ['+', '-'], ∀ rest, cs ≠ c :: rest := by simpa using ⟨hplus, hminus⟩
      rw [← (Prod.mk.inj hsign).2, afterSign_eq_self hsigns]
  rw [← hrest, afterDigits?]
  simp only []
  split
  · rfl
  · split <;> rfl

/-- Behind the point digits are read, and perhaps an exponent. -/
theorem map_snd_readFraction (negative : Bool) (significand dropped : Nat) (cs : List Char) :
    (readFraction negative significand dropped cs).map Prod.snd = afterFraction? cs := by
  -- the cases are those of the reader: a point, the letter of an exponent, or neither
  unfold readFraction
  split
  · next rest =>
    rw [afterFraction?, afterDigits?]
    simp only []
    split
    · rfl
    · rw [Option.bind_some]
      split
      · next after hrest => rw [hrest, map_snd_readExponent, afterExponent?]
      · next after hrest => rw [hrest, map_snd_readExponent, afterExponent?]
      · next hlower hupper =>
        rw [afterExponent?]
        · rfl
        · exact hlower
        · exact hupper
  · next rest => exact map_snd_readExponent _ _ _ _
  · next rest => exact map_snd_readExponent _ _ _ _
  · next hpoint hlower hupper =>
    rw [afterFraction?, afterExponent?]
    · split
      · split
        · rfl
        · split <;> rfl
      · rfl
    · exact hlower
    · exact hupper
    · exact hpoint

/-- Reading a number and passing over it come to the same place. -/
theorem map_snd_readNumber (cs : List Char) : (readNumber cs).map Prod.snd = afterNumber? cs := by
  unfold readNumber
  split
  next negative unsigned hsign =>
  have hunsigned : unsigned = afterSign ['-'] cs := by
    split at hsign
    · exact (Prod.mk.inj hsign).2.symm
    · next hminus =>
      have hsigns : ∀ c ∈ ['-'], ∀ rest, cs ≠ c :: rest := by simpa using hminus
      rw [← (Prod.mk.inj hsign).2, afterSign_eq_self hsigns]
  simp only []
  split
  · next hdigits =>
    rw [afterNumber?, ← hunsigned, hdigits]
    rfl
  · next d digits hdigits =>
    rw [afterNumber?, ← hunsigned, hdigits]
    rfl
  · next hnil hzero =>
    rw [map_snd_readFraction, afterNumber?, ← hunsigned]
    split
    · next hdigits => exact (hnil hdigits).elim
    · next d digits hdigits => exact (hzero _ _ hdigits).elim
    · rfl

/-! ## What is left behind the parts of a number -/

/-- What is passed over as digits is a run of digits. -/
theorem exists_of_afterDigits? {cs rest : List Char} (h : afterDigits? cs = some rest) :
    ∃ digits, cs = digits ++ rest ∧ IsRun isAsciiDigit digits := by
  rw [afterDigits?] at h
  split at h
  · cases h
  · next hne =>
    obtain rfl := Option.some.inj h
    exact ⟨_, List.takeWhile_append_dropWhile.symm, hne, fun _ => List.mem_takeWhile_imp⟩

/-- A run of digits is passed over when no digit follows. -/
theorem afterDigits?_append {digits rest : List Char} (h : IsRun isAsciiDigit digits)
    (hrest : ∀ c, rest.head? = some c → isAsciiDigit c = false) :
    afterDigits? (digits ++ rest) = some rest := by
  rw [afterDigits?, takeWhile_append_stop h.all hrest, if_neg h.ne_nil, h.dropWhile_append hrest]

/-- What is passed over as a sign is one of the signs, or nothing. -/
theorem exists_afterSign_eq (signs cs : List Char) :
    ∃ sign, cs = sign ++ afterSign signs cs ∧ IsSign signs sign := by
  cases cs with
  | nil => exact ⟨[], rfl, .inl rfl⟩
  | cons c cs =>
    rw [afterSign]
    split
    · next hc => exact ⟨[c], rfl, .inr ⟨c, hc, rfl⟩⟩
    · exact ⟨[], rfl, .inl rfl⟩

/-- A sign is taken off digits, which do not begin with one. -/
theorem afterSign_append {signs sign digits : List Char} (h : IsSign signs sign)
    (hsigns : ∀ c ∈ signs, isAsciiDigit c = false) (hdigits : IsRun isAsciiDigit digits)
    (rest : List Char) : afterSign signs (sign ++ (digits ++ rest)) = digits ++ rest := by
  rcases h with rfl | ⟨c, hc, rfl⟩
  · obtain ⟨d, digits, rfl, hd⟩ := hdigits.exists_cons
    refine if_neg fun hmem => ?_
    rw [hsigns d hmem] at hd
    cases hd
  · exact if_pos hc

/-- What is passed over as an exponent is one. -/
theorem exists_of_afterExponent? {cs rest : List Char} (h : afterExponent? cs = some rest) :
    ∃ exponent, cs = exponent ++ rest ∧ IsExponent exponent := by
  have hletter : ∀ {e : Char} {cs : List Char}, e = 'e' ∨ e = 'E' →
      afterDigits? (afterSign ['+', '-'] cs) = some rest →
      ∃ exponent, e :: cs = exponent ++ rest ∧ IsExponent exponent := by
    intro e cs he h
    obtain ⟨sign, hcs, hsign⟩ := exists_afterSign_eq ['+', '-'] cs
    obtain ⟨digits, hdigits, hrun⟩ := exists_of_afterDigits? h
    refine ⟨e :: sign ++ digits, ?_, .digits he hsign hrun⟩
    rw [List.cons_append, List.cons_append, List.append_assoc, ← hdigits, ← hcs]
  unfold afterExponent? at h
  split at h
  · exact hletter (.inl rfl) h
  · exact hletter (.inr rfl) h
  · exact ⟨[], Option.some.inj h, .nil⟩

/-- What is passed over as a fraction is one, with an exponent behind it. -/
theorem exists_of_afterFraction? {cs rest : List Char} (h : afterFraction? cs = some rest) :
    ∃ fraction exponent, cs = fraction ++ exponent ++ rest ∧ IsFraction fraction ∧
      IsExponent exponent := by
  unfold afterFraction? at h
  split at h
  · next behind =>
    obtain ⟨after, hafter, hrest⟩ := Option.bind_eq_some_iff.1 h
    obtain ⟨digits, rfl, hdigits⟩ := exists_of_afterDigits? hafter
    obtain ⟨exponent, rfl, hexponent⟩ := exists_of_afterExponent? hrest
    exact ⟨'.' :: digits, exponent, by simp, .digits hdigits, hexponent⟩
  · obtain ⟨exponent, rfl, hexponent⟩ := exists_of_afterExponent? h
    exact ⟨[], exponent, rfl, .nil, hexponent⟩

/-- What is read as a number is one. -/
theorem exists_of_afterNumber? {cs rest : List Char} (h : afterNumber? cs = some rest) :
    ∃ text, cs = text ++ rest ∧ IsNumber text := by
  obtain ⟨sign, hcs, hsign⟩ := exists_afterSign_eq ['-'] cs
  have hsplit := List.takeWhile_append_dropWhile (p := isAsciiDigit) (l := afterSign ['-'] cs)
  have hall : ∀ c ∈ (afterSign ['-'] cs).takeWhile isAsciiDigit, isAsciiDigit c = true :=
    fun _ => List.mem_takeWhile_imp
  simp only [afterNumber?] at h
  generalize (afterSign ['-'] cs).takeWhile isAsciiDigit = whole at h hsplit hall
  split at h
  · cases h
  · cases h
  · next hnil hzero =>
    obtain ⟨fraction, exponent, hrest, hfraction, hexponent⟩ := exists_of_afterFraction? h
    have hwhole : IsWhole whole := by
      refine ⟨⟨fun h => hnil h, hall⟩, fun rest hrest => ?_⟩
      cases rest with
      | nil => rfl
      | cons d rest => exact (hzero d rest hrest).elim
    refine ⟨_, ?_, .parts hsign hwhole hfraction hexponent⟩
    rw [hcs, ← hsplit, hrest]
    simp only [List.append_assoc]

/-- No number goes on here. -/
def NumberEnds (rest : List Char) : Prop := ∀ c, rest.head? = some c → ¬ IsNumeric c

/-- Behind digits neither a digit nor a point comes where an exponent or the end of a number is. -/
theorem IsExponent.head? {exponent rest : List Char} (h : IsExponent exponent)
    (hrest : NumberEnds rest) :
    ∀ c, (exponent ++ rest).head? = some c → isAsciiDigit c = false ∧ c ≠ '.' := by
  intro c hc
  cases h with
  | nil =>
    have hnot := hrest c hc
    rw [IsNumeric, not_or, Bool.not_eq_true] at hnot
    refine ⟨hnot.1, ?_⟩
    rintro rfl
    exact hnot.2 (by decide)
  | digits he =>
    obtain rfl := Option.some.inj hc
    rcases he with rfl | rfl <;> decide

/-- An exponent is passed over when no number goes on. -/
theorem afterExponent?_append {exponent rest : List Char} (h : IsExponent exponent)
    (hrest : NumberEnds rest) : afterExponent? (exponent ++ rest) = some rest := by
  have hdigit : ∀ c, rest.head? = some c → isAsciiDigit c = false := fun c hc =>
    Bool.eq_false_iff.2 fun hdigit => hrest c hc (.inl hdigit)
  cases h with
  | nil =>
    rw [List.nil_append, afterExponent?]
    · rintro _ rfl
      exact hrest 'e' rfl (by decide)
    · rintro _ rfl
      exact hrest 'E' rfl (by decide)
  | @digits e sign digits he hsign h =>
    have hafter : afterDigits? (afterSign ['+', '-'] (sign ++ (digits ++ rest))) = some rest := by
      rw [afterSign_append hsign (List.all_iff_forall_prop.1 (by decide)) h,
          afterDigits?_append h hdigit]
    rw [List.cons_append, List.cons_append, List.append_assoc]
    rcases he with rfl | rfl
    · exact hafter
    · exact hafter

/-- A fraction and an exponent are passed over when no number goes on. -/
theorem afterFraction?_append {fraction exponent rest : List Char} (h : IsFraction fraction)
    (hexponent : IsExponent exponent) (hrest : NumberEnds rest) :
    afterFraction? (fraction ++ (exponent ++ rest)) = some rest := by
  have hhead := hexponent.head? hrest
  cases h with
  | nil =>
    rw [List.nil_append, afterFraction?]
    · exact afterExponent?_append hexponent hrest
    · intro cs hcs
      rw [hcs] at hhead
      exact (hhead '.' rfl).2 rfl
  | digits h =>
    rw [List.cons_append, afterFraction?, afterDigits?_append h fun c hc => (hhead c hc).1]
    exact afterExponent?_append hexponent hrest

/-- A number is read to its end. -/
theorem afterNumber?_append {text rest : List Char} (h : IsNumber text) (hrest : NumberEnds rest) :
    afterNumber? (text ++ rest) = some rest := by
  obtain @⟨sign, whole, fraction, exponent, hsign, hwhole, hfraction, hexponent⟩ := h
  have hhead : ∀ c, (fraction ++ (exponent ++ rest)).head? = some c → isAsciiDigit c = false := by
    intro c hc
    cases hfraction with
    | nil => exact (hexponent.head? hrest c hc).1
    | digits =>
      obtain rfl := Option.some.inj hc
      decide
  have hunsigned : afterSign ['-'] (sign ++ whole ++ fraction ++ exponent ++ rest)
      = whole ++ (fraction ++ (exponent ++ rest)) := by
    simp only [List.append_assoc]
    exact afterSign_append hsign (List.all_iff_forall_prop.1 (by decide)) hwhole.isRun _
  rw [afterNumber?, hunsigned]
  rw [takeWhile_append_stop hwhole.isRun.all hhead, hwhole.isRun.dropWhile_append hhead]
  split
  · exact (hwhole.isRun.ne_nil rfl).elim
  · cases hwhole.noZero _ rfl
  · exact afterFraction?_append hfraction hexponent hrest

end CitedReport.Json
