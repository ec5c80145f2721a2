import CitedReport.Proofs.Chars.Lines
import CitedReport.Proofs.Plan.Merging

/-!
# What a plan keeps of a brief

A brief with headings is cut at those of one level. The sections are whole: between two of them no
line is lost, and what is dropped at the ends of a section is blank. Groups over the cap are only
ever joined with the next one (`Joined`), so they still say the same in the same order, and they
still begin and end in text. So the planned groups say what the brief says from its first section
on (`planned`); what stands in front of that is its preamble and no group.
-/

namespace CitedReport.Plan

open Chars

/-! ## Groups that are joined -/

/-- A group is text from its first character to its last. -/
def Clean (g : String) : Prop := g ≠ "" ∧ Text.trim g = g

/-- What groups say one after the other, without blanks. -/
def said (groups : List String) : List Char := withoutBlanks (groups.flatMap String.toList)

/-- What is left of groups when now and then a group is joined with the next one. -/
inductive Joined (groups : List String) : List String → Prop where
  | refl : Joined groups groups
  | join {front back : List String} {a b : String} (h : Joined groups (front ++ a :: b :: back)) :
    Joined groups (front ++ joinPair a b :: back)

/-- Joining a group with the next one leaves joined groups. -/
theorem joined_joinAt {groups front rest : List String} {i : Nat}
    (h : Joined groups (front ++ rest)) : Joined groups (front ++ joinAt i rest) := by
  fun_induction joinAt i rest generalizing front with
  | case1 a b rest => exact h.join
  | case2 i a rest ih =>
    have hcons : front ++ a :: joinAt i rest = (front ++ [a]) ++ joinAt i rest := by simp
    rw [hcons]
    exact ih (by simpa using h)
  | case3 => exact h

/-- So does joining the shortest pairs so many times. -/
theorem joined_mergeTimes {groups groups' : List String} (n : Nat) (h : Joined groups groups') :
    Joined groups (mergeTimes n groups') := by
  induction n generalizing groups' with
  | zero => exact h
  | succ n ih =>
    rw [mergeTimes]
    split
    · next i size hpair =>
      have hjoin : Joined groups ([] ++ joinAt i groups') := joined_joinAt h
      exact ih hjoin
    · exact h

/-- So does joining the last groups into one. -/
theorem joined_foldl {groups front rest : List String} {a : String}
    (h : Joined groups (front ++ a :: rest)) :
    Joined groups (front ++ [rest.foldl joinPair a]) := by
  induction rest generalizing a with
  | nil => exact h
  | cons b rest ih => exact ih h.join

/-- So are groups of which the tail is folded. -/
theorem joined_foldTail (groups : List String) (cap : Nat) :
    Joined groups (foldTail groups cap) := by
  unfold foldTail
  simp only
  split
  · exact .refl
  · next hover =>
    have hsplit := List.take_append_drop (max 1 cap - 1) groups
    cases hdrop : groups.drop (max 1 cap - 1) with
    | nil =>
      have hlength := List.drop_eq_nil_iff.1 hdrop
      omega
    | cons a rest =>
      rw [hdrop] at hsplit
      exact joined_foldl (hsplit.symm ▸ .refl)

/-- All that a plan does to the groups of a brief is to join them. -/
theorem joined_plan (policy : MergePolicy) (cap : Nat) (brief : String) :
    Joined (groups brief) (plan policy cap brief) := by
  unfold plan
  cases policy with
  | mergeSmallest => exact joined_mergeTimes _ .refl
  | foldTail => exact joined_foldTail _ _

/-- A group is clean if it starts and ends in text. -/
theorem clean_iff {g : String} : Clean g ↔ StartsInText g.toList ∧ EndsInText g.toList := by
  constructor
  · rintro ⟨hne, htrim⟩
    have htext : trim g.toList = g.toList := by
      have hlist := congrArg String.toList htrim
      rwa [Text.trim, String.toList_ofList] at hlist
    have hne' : trim g.toList ≠ [] := by
      rw [htext]
      exact fun hnil => hne (String.toList_eq_nil_iff.1 hnil)
    rw [← htext]
    exact ⟨startsInText_trim hne', endsInText_trim hne'⟩
  · rintro ⟨hstart, hend⟩
    refine ⟨?_, ?_⟩
    · rintro rfl
      obtain ⟨c, back, hnil, -⟩ := hstart
      cases hnil
    · rw [Text.trim, trim_eq_self hstart hend, String.ofList_toList]

/-- A trimmed text of which something is left is clean. -/
theorem clean_ofList_trim {cs : List Char} (h : trim cs ≠ []) :
    Clean (String.ofList (trim cs)) := by
  rw [clean_iff, String.toList_ofList]
  exact ⟨startsInText_trim h, endsInText_trim h⟩

/-- Of a text that is not blank something is left. -/
theorem clean_trim {text : String} (h : Text.isBlank text = false) : Clean (Text.trim text) := by
  refine clean_ofList_trim fun hnil => ?_
  rw [Text.isBlank, allBlank_of_trim_eq_nil hnil] at h
  cases h

/-- Joining keeps groups clean. -/
theorem Joined.clean {groups groups' : List String} (h : Joined groups groups')
    (hclean : ∀ g ∈ groups, Clean g) : ∀ g ∈ groups', Clean g := by
  induction h with
  | refl => exact hclean
  | @join front back a b h ih =>
    have ha := clean_iff.1 (ih a (by simp))
    have hb := clean_iff.1 (ih b (by simp))
    have hpair : Clean (joinPair a b) := by
      rw [clean_iff, joinPair, String.toList_append, String.toList_append, List.append_assoc]
      exact ⟨ha.1.append_right _, (hb.2.append_left _).append_left _⟩
    intro g hg
    rcases List.mem_append.1 hg with hg | hg
    · exact ih g (List.mem_append_left _ hg)
    · rcases List.mem_cons.1 hg with rfl | hg
      · exact hpair
      · exact ih g (by simp [hg])

/-- Nothing but blanks is put between groups that are joined. -/
theorem Joined.said_eq {groups groups' : List String} (h : Joined groups groups') :
    said groups' = said groups := by
  induction h with
  | refl => rfl
  | @join front back a b h ih =>
    have hblank : withoutBlanks "\n\n".toList = [] := by decide +kernel
    have hpair : withoutBlanks (joinPair a b).toList
        = withoutBlanks a.toList ++ withoutBlanks b.toList := by
      rw [joinPair, String.toList_append, String.toList_append, withoutBlanks_append,
        withoutBlanks_append, hblank, List.append_nil]
    rw [← ih]
    simp only [said, List.flatMap_append, List.flatMap_cons, withoutBlanks_append, hpair,
      List.append_assoc]

/-- One group is not joined with anything. -/
theorem Joined.eq_singleton {g : String} {groups : List String} (h : Joined [g] groups) :
    groups = [g] := by
  induction h with
  | refl => rfl
  | @join front back a b h ih =>
    have hlength := congrArg List.length ih
    simp only [List.length_append, List.length_cons, List.length_nil] at hlength
    omega

/-! ## The sections of a brief -/

/-- The levels of the headings of a brief, in their order. -/
def levels (brief : String) : List Nat := (lines brief.toList).filterMap headingLevel?

/-- The level at which a brief with these levels is cut: the shallowest that more than one heading
has, or, where each level is there once at most, the shallowest that is there. -/
inductive CutLevel (levels : List Nat) (level : Nat) : Prop where
  | shared (hcount : 1 < levels.count level) (hleast : ∀ l < level, levels.count l ≤ 1)
  | single (hcount : ∀ l, levels.count l ≤ 1) (hmem : level ∈ levels)
    (hleast : ∀ l ∈ levels, level ≤ l)

/-- There is only one such level. -/
theorem CutLevel.unique {levels : List Nat} {level level' : Nat} (h : CutLevel levels level)
    (h' : CutLevel levels level') : level = level' := by
  cases h with
  | shared hcount hleast =>
    cases h' with
    | shared hcount' hleast' =>
      rcases Nat.lt_trichotomy level level' with hlt | heq | hlt
      · have := hleast' level hlt
        omega
      · exact heq
      · have := hleast level' hlt
        omega
    | single hcount' =>
      have := hcount' level
      omega
  | single hcount hmem hleast =>
    cases h' with
    | shared hcount' =>
      have := hcount level'
      omega
    | single hcount' hmem' hleast' => exact Nat.le_antisymm (hleast _ hmem') (hleast' _ hmem)

/-- A heading has one to six hash signs. -/
theorem headingLevel?_bounds {line : List Char} {level : Nat}
    (h : headingLevel? line = some level) : 1 ≤ level ∧ level ≤ 6 := by
  unfold headingLevel? at h
  simp only at h
  split at h
  · next hfits =>
    obtain rfl := Option.some.inj h
    exact ⟨hfits.2.1, hfits.2.2.1⟩
  · cases h

/-- Headings have one to six hash signs. -/
theorem levels_bounds {brief : String} {level : Nat} (h : level ∈ levels brief) :
    1 ≤ level ∧ level ≤ 6 := by
  obtain ⟨line, -, hline⟩ := List.mem_filterMap.1 h
  exact headingLevel?_bounds hline

/-- A heading line has text. -/
theorem exists_text_of_headingLevel? {line : List Char} {level : Nat}
    (h : headingLevel? line = some level) : ∃ c ∈ line, isBlank c = false := by
  unfold headingLevel? at h
  simp only at h
  split at h
  · next hfits =>
    have hne : (line.dropWhile (· == ' ')).takeWhile (· == '#') ≠ [] :=
      List.length_pos_iff.1 hfits.2.1
    obtain ⟨c, rest, hcons⟩ := List.exists_cons_of_ne_nil hne
    have hmem : c ∈ (line.dropWhile (· == ' ')).takeWhile (· == '#') := by simp [hcons]
    obtain rfl : c = '#' := by simpa using List.mem_takeWhile_imp hmem
    refine ⟨'#', ?_, by decide⟩
    exact (List.dropWhile_sublist _).subset ((List.takeWhile_sublist _).subset hmem)
  · cases h

/-- The level of the sections is the one at which the brief is to be cut. -/
theorem cutLevel_of_sectionLevel? {levels : List Nat} {level : Nat}
    (hbounds : ∀ l ∈ levels, 1 ≤ l ∧ l ≤ 6) (h : sectionLevel? levels = some level) :
    CutLevel levels level := by
  have hrange : ∀ l, 1 < levels.count l → l ∈ [1, 2, 3, 4, 5, 6] := by
    intro l hl
    have hmem : l ∈ levels := List.count_pos_iff.1 (by omega)
    have := hbounds l hmem
    simp only [List.mem_cons, List.not_mem_nil, or_false]
    omega
  unfold sectionLevel? at h
  split at h
  · cases h
  · next shallowest hmin =>
    obtain ⟨hmem, hleast⟩ := List.min?_eq_some_iff.1 hmin
    obtain rfl := Option.some.inj h
    -- it is the first level that several headings share, or the shallowest if there is none
    cases hfind : [1, 2, 3, 4, 5, 6].find? fun l => decide (1 < levels.count l) with
    | none =>
      rw [Option.getD_none]
      refine .single (fun l => ?_) hmem hleast
      by_contra hcount
      have hl := List.find?_eq_none.1 hfind l (hrange l (by omega))
      simp only [decide_eq_true_eq] at hl
      omega
    | some found =>
      rw [Option.getD_some]
      obtain ⟨hfound, before, after, hsplit, hbefore⟩ := List.find?_eq_some_iff_append.1 hfind
      refine .shared (by simpa using hfound) fun l hl => ?_
      by_contra hcount
      have hin : l ∈ before ++ found :: after := hsplit ▸ hrange l (by omega)
      have hsorted : (before ++ found :: after).Pairwise (· ≤ ·) := hsplit ▸ by decide
      -- no level before the one that is found is shared, and those behind it are deeper
      rcases List.mem_append.1 hin with hin | hin
      · have hcount' := hbefore l hin
        simp only [Bool.not_eq_eq_eq_not, Bool.not_true, decide_eq_false_iff_not] at hcount'
        omega
      · rcases List.mem_cons.1 hin with rfl | hin
        · omega
        · have := List.rel_of_pairwise_cons (List.pairwise_append.1 hsorted).2.1 hin
          omega

/-- Where there is a heading, the brief is cut at some level. -/
theorem exists_sectionLevel? {levels : List Nat} (h : levels ≠ []) :
    ∃ level, sectionLevel? levels = some level := by
  obtain ⟨least, hleast⟩ := Option.ne_none_iff_exists'.1 (List.min?_eq_none_iff.not.2 h)
  exact ⟨_, by rw [sectionLevel?, hleast]⟩

/-- Only lines in front of the first section are in none. -/
theorem flatten_cutAt (starts : List Char → Bool) (ls : List (List Char)) :
    (cutAt starts ls).flatten = ls.dropWhile fun l => !starts l := by
  fun_induction cutAt starts ls with
  | case1 => rfl
  | case2 line rest h ih =>
    rw [List.flatten_cons, ih, List.dropWhile_cons_of_neg (by simp [h]), List.cons_append,
      List.takeWhile_append_dropWhile]
  | case3 line rest h ih => rw [ih, List.dropWhile_cons_of_pos (by simp [h])]

/-- There is one section for each line that starts one. -/
theorem length_cutAt (starts : List Char → Bool) (ls : List (List Char)) :
    (cutAt starts ls).length = ls.countP starts := by
  fun_induction cutAt starts ls with
  | case1 => rfl
  | case2 line rest h ih => rw [List.length_cons, ih, List.countP_cons_of_pos h]
  | case3 line rest h ih => rw [ih, List.countP_cons_of_neg h]

/-- A section has the line that starts it. -/
theorem exists_of_mem_cutAt {starts : List Char → Bool} {ls group : List (List Char)}
    (h : group ∈ cutAt starts ls) : ∃ line ∈ group, starts line = true := by
  fun_induction cutAt starts ls with
  | case1 => cases h
  | case2 line rest hstarts ih =>
    rcases List.mem_cons.1 h with rfl | hgroup
    · exact ⟨line, List.mem_cons_self, hstarts⟩
    · exact ih hgroup
  | case3 line rest hstarts ih => exact ih h

/-- A group says what its lines say. -/
theorem withoutBlanks_groupText (group : List (List Char)) :
    withoutBlanks (groupText group) = withoutBlanks group.flatten := by
  rw [groupText, withoutBlanks_trim, withoutBlanks_intercalate]

/-- A group with a heading is not empty. -/
theorem groupText_ne_nil {group : List (List Char)} {line : List Char} (hline : line ∈ group)
    {c : Char} (hc : c ∈ line) (hblank : isBlank c = false) : groupText group ≠ [] := by
  intro hnil
  have hsaid := withoutBlanks_groupText group
  rw [hnil] at hsaid
  have hmem : c ∈ withoutBlanks group.flatten :=
    List.mem_filter.2 ⟨List.mem_flatten_of_mem hline hc, by simp [hblank]⟩
  rw [← hsaid] at hmem
  cases hmem

/-- No section is left out. -/
theorem sections_eq {ls : List (List Char)} {level : Nat}
    (h : sectionLevel? (ls.filterMap headingLevel?) = some level) :
    sections ls = (cutAt (fun l => headingLevel? l = some level) ls).map groupText := by
  rw [sections, h]
  refine List.filter_eq_self.2 fun text htext => ?_
  obtain ⟨group, hgroup, rfl⟩ := List.mem_map.1 htext
  obtain ⟨line, hline, hstarts⟩ := exists_of_mem_cutAt hgroup
  obtain ⟨c, hc, hblank⟩ := exists_text_of_headingLevel? (of_decide_eq_true hstarts)
  simpa using groupText_ne_nil hline hc hblank

/-! ## What is planned -/

/-- A brief is cut in front of its first heading of a level. -/
structure FirstSection (level : Nat) (brief : String) (before after : List Char) : Prop where
  /-- The brief is what stands in front of the cut and what stands behind it. -/
  brief_eq : brief.toList = before ++ after
  /-- A line begins there. -/
  lineBegins : LineBegins before
  /-- No line in front of it is a heading of the level. -/
  none_before : ∀ line ∈ lines before, headingLevel? line ≠ some level
  /-- The first line behind it is one. -/
  first : ∃ line rest, lines after = line :: rest ∧ headingLevel? line = some level

/-- Groups say together what all their lines say. -/
theorem said_map_groupText (gs : List (List (List Char))) :
    said ((gs.map groupText).map String.ofList) = withoutBlanks gs.flatten.flatten := by
  unfold said
  induction gs with
  | nil => rfl
  | cons group gs ih =>
    rw [List.map_cons, List.map_cons, List.flatMap_cons, withoutBlanks_append, ih,
      String.toList_ofList, withoutBlanks_groupText, List.flatten_cons, List.flatten_append,
      withoutBlanks_append]

/-- A brief is cut at a level of its headings. -/
theorem CutLevel.mem {levels : List Nat} {level : Nat} (h : CutLevel levels level) :
    level ∈ levels := by
  cases h with
  | shared hcount => exact List.count_pos_iff.1 (by omega)
  | single hcount hmem => exact hmem

/-- Some line begins a section there. -/
theorem dropWhile_lines_ne_nil {brief : String} {level : Nat} (h : level ∈ levels brief) :
    (lines brief.toList).dropWhile (fun l => !decide (headingLevel? l = some level)) ≠ [] := by
  intro hnil
  obtain ⟨line, hline, hlevel⟩ := List.mem_filterMap.1 h
  have hno := List.dropWhile_eq_nil_iff.1 hnil line hline
  simp [hlevel] at hno

/-- The groups of a brief with headings are its sections. -/
theorem groups_eq_sections {brief : String} {level : Nat} (h : CutLevel (levels brief) level) :
    groups brief = ((cutAt (fun l => headingLevel? l = some level)
      (lines brief.toList)).map groupText).map String.ofList := by
  obtain ⟨level', hlevel'⟩ := exists_sectionLevel? (List.ne_nil_of_mem h.mem)
  obtain rfl := (cutLevel_of_sectionLevel? (fun l => levels_bounds) hlevel').unique h
  have hsome := dropWhile_lines_ne_nil h.mem
  rw [← flatten_cutAt] at hsome
  unfold groups
  simp only [sections_eq hlevel']
  split
  · next hnil =>
    rw [List.map_eq_nil_iff.1 hnil] at hsome
    exact absurd rfl hsome
  · rfl

/-- The groups of a brief with headings say what it says from its first section on, and there is one
for each heading of that level. -/
theorem exists_firstSection {brief : String} {level : Nat} (h : CutLevel (levels brief) level) :
    ∃ before after, FirstSection level brief before after ∧
      said (groups brief) = withoutBlanks after ∧
      (groups brief).length = (levels brief).count level := by
  have hne := dropWhile_lines_ne_nil h.mem
  have hgroups := groups_eq_sections h
  -- the lines in front of the first heading of the level, and the others
  set starts : List Char → Bool := fun l => headingLevel? l = some level with hstarts
  obtain ⟨before, after, hbrief, hbegins, hbefore, hafter⟩ :=
    exists_append_of_lines (List.takeWhile_append_dropWhile (p := fun l => !starts l)).symm hne
  refine ⟨before, after, ⟨hbrief, hbegins, ?_, ?_⟩, ?_, ?_⟩
  · intro line hline hlevel
    rw [hbefore] at hline
    have hno := List.mem_takeWhile_imp hline
    simp [hstarts, hlevel] at hno
  · obtain ⟨line, rest, hcons⟩ := List.exists_cons_of_ne_nil hne
    have hfirst := List.head_dropWhile_not (fun l => !starts l) hne
    refine ⟨line, rest, hafter.trans hcons, ?_⟩
    simp only [hstarts, hcons, List.head_cons] at hfirst
    simpa using hfirst
  · rw [hgroups, said_map_groupText, flatten_cutAt, ← hafter, withoutBlanks_flatten_lines]
  · rw [hgroups, List.length_map, List.length_map, length_cutAt, levels, List.count,
      List.countP_filterMap]
    refine List.countP_congr fun line _ => ?_
    cases hlevel : headingLevel? line with
    | none => simp [hstarts, hlevel]
    | some l => simp [hstarts, hlevel]

/-- A group of lines of which something is left is clean. -/
theorem clean_of_mem_filter {gs : List (List (List Char))} {g : String}
    (h : g ∈ ((gs.map groupText).filter (· ≠ [])).map String.ofList) : Clean g := by
  obtain ⟨text, htext, rfl⟩ := List.mem_map.1 h
  obtain ⟨hmem, hne⟩ := List.mem_filter.1 htext
  obtain ⟨group, -, rfl⟩ := List.mem_map.1 hmem
  exact clean_ofList_trim (of_decide_eq_true hne)

/-- Every section becomes a clean group. -/
theorem clean_of_mem_sections {ls : List (List Char)} {g : String}
    (h : g ∈ (sections ls).map String.ofList) : Clean g := by
  unfold sections at h
  split at h
  · cases h
  · exact clean_of_mem_filter h

/-- So is the group that stands for a brief without headings and list items. -/
theorem clean_whole (brief : String) : Clean ((Text.trimmed? brief).getD fallbackGroup) := by
  unfold Text.trimmed?
  simp only
  split
  · rw [Option.getD_none]
    exact ⟨by decide, by decide +kernel⟩
  · next hne =>
    rw [Option.getD_some]
    exact clean_ofList_trim fun hnil => hne (by rw [Text.trim, hnil])

/-- The groups of every brief are clean, and there is one at least. -/
theorem groups_clean (brief : String) : groups brief ≠ [] ∧ ∀ g ∈ groups brief, Clean g := by
  unfold groups
  simp only
  split
  · split
    · refine ⟨List.cons_ne_nil _ _, fun g hg => ?_⟩
      rw [List.mem_singleton.1 hg]
      exact clean_whole brief
    · next hitems =>
      exact ⟨fun hnil => hitems (List.map_eq_nil_iff.1 hnil), fun g => clean_of_mem_filter⟩
  · next hsections =>
    exact ⟨fun hnil => hsections (List.map_eq_nil_iff.1 hnil), fun g => clean_of_mem_sections⟩

/-- A brief without headings and list items is one group. -/
theorem groups_eq_singleton {brief : String} (hlevels : levels brief = [])
    (hitems : ∀ line ∈ lines brief.toList, isListItem line = false)
    (htext : ∃ c ∈ brief.toList, isBlank c = false) : groups brief = [Text.trim brief] := by
  have hsections : sections (lines brief.toList) = [] := by
    rw [sections, ← levels, hlevels]
    rfl
  have hlist : ∀ ls : List (List Char), (∀ line ∈ ls, isListItem line = false) →
      itemLines ls = [] := by
    intro ls hls
    induction ls with
    | nil => rfl
    | cons line ls ih =>
      have hline : isListItem line = false := hls line List.mem_cons_self
      rw [itemLines, hline]
      exact ih fun l hl => hls l (List.mem_cons_of_mem line hl)
  have hnone : listItems (lines brief.toList) = [] := by
    rw [listItems, hlist _ hitems]
    rfl
  have hwhole : Text.trimmed? brief = some (Text.trim brief) := by
    obtain ⟨c, hc, hblank⟩ := htext
    have hne : Text.trim brief ≠ "" := by
      intro hnil
      have hall := allBlank_of_trim_eq_nil (String.ofList_eq_empty_iff.1 hnil)
      have hcblank := List.all_eq_true.1 hall c hc
      rw [hblank] at hcblank
      cases hcblank
    rw [Text.trimmed?, if_neg hne]
  -- neither sections nor items, so that the whole brief is taken
  unfold groups
  simp only [hsections, hnone, hwhole, Option.getD_some]

/-- There is always something to research. -/
theorem one_le_length_plan (policy : MergePolicy) (cap : Nat) (brief : String) :
    1 ≤ (plan policy cap brief).length := by
  have hpos := List.length_pos_iff.2 (groups_clean brief).1
  rw [length_plan]
  omega

/-- What is planned for a brief. -/
structure Planned (policy : MergePolicy) (cap : Nat) (brief : String) : Prop where
  /-- There is a group, and there are no more than the cap allows. -/
  size : 1 ≤ (plan policy cap brief).length ∧ (plan policy cap brief).length ≤ max 1 cap
  /-- No group is empty, and none begins or ends in blanks. -/
  clean : ∀ g ∈ plan policy cap brief, Clean g
  /-- A brief with headings is cut at those of some level. -/
  cut : levels brief ≠ [] → ∃ level, CutLevel (levels brief) level
  /-- Its groups say together what it says from the first of these headings on, and before any are
  joined there is one for each of them. -/
  sections : ∀ level, CutLevel (levels brief) level → ∃ before after,
    FirstSection level brief before after ∧
    said (plan policy cap brief) = withoutBlanks after ∧
    (groups brief).length = (levels brief).count level
  /-- A brief without headings and list items is one group. -/
  whole : levels brief = [] → (∀ line ∈ lines brief.toList, isListItem line = false) →
    (∃ c ∈ brief.toList, isBlank c = false) → plan policy cap brief = [Text.trim brief]

/-- Planning leaves nothing out behind the first section, and keeps to the cap. -/
theorem planned (policy : MergePolicy) (cap : Nat) (brief : String) : Planned policy cap brief := by
  have hjoined := joined_plan policy cap brief
  refine ⟨⟨one_le_length_plan policy cap brief, length_plan_le policy cap brief⟩,
    hjoined.clean (groups_clean brief).2, fun hlevels => ?_, fun level hlevel => ?_,
    fun hlevels hitems htext => ?_⟩
  · obtain ⟨level, hlevel⟩ := exists_sectionLevel? hlevels
    exact ⟨level, cutLevel_of_sectionLevel? (fun l => levels_bounds) hlevel⟩
  · obtain ⟨before, after, hfirst, hsaid, hlength⟩ := exists_firstSection hlevel
    exact ⟨before, after, hfirst, hjoined.said_eq.trans hsaid, hlength⟩
  · rw [groups_eq_singleton hlevels hitems htext] at hjoined
    exact hjoined.eq_singleton

end CitedReport.Plan
