import Mathlib.Data.List.Forall2
import CitedReport.WebSearch

/-!
# The hits of a search

The hits of a search are the first of its candidates with distinct addresses. What the candidates of
an answer are is said apart from the functions that read them, for any JSON value whatever
(`Candidates`), and which of them are the first of their address by their places among the others
(`firsts`). `firstOfEach_hits` shows that the hits are these, and that taking up one entry after the
other until there are enough comes to the same.
-/

namespace CitedReport.WebSearch

/-! ## The first of each address -/

/-- Candidates whose address is not among those of the candidates before them. -/
def firsts (cs : List SearchHit) : List SearchHit :=
  (cs.zipIdx.filter fun p => p.1.url ∉ (cs.take p.2).map SearchHit.url).map Prod.fst

/-- The first candidate of each address that is not among those seen. -/
def unseen (seen cs : List SearchHit) : List SearchHit :=
  (distinct cs).filter fun h => h.url ∉ seen.map SearchHit.url

/-- When nothing is seen all distinct candidates are unseen. -/
theorem unseen_nil (cs : List SearchHit) : unseen [] cs = distinct cs := by simp [unseen]

/-- A candidate that is passed over leaves the others as they are. -/
theorem unseen_cons_of_mem {seen : List SearchHit} {h : SearchHit}
    (hseen : h.url ∈ seen.map SearchHit.url) (cs : List SearchHit) :
    unseen seen (h :: cs) = unseen seen cs := by
  rw [unseen, distinct, List.filter_cons_of_neg (by simpa using hseen), List.filter_filter, unseen]
  refine List.filter_congr fun h' _ => ?_
  -- what has the address of `h` is seen anyway
  by_cases heq : h'.url = h.url
  · simp only [heq, hseen, not_true_eq_false, decide_false, Bool.false_and]
  · simp only [ne_eq, heq, not_false_eq_true, decide_true, Bool.and_true]

/-- A candidate that is taken up is seen from then on. -/
theorem unseen_cons_of_not_mem {seen : List SearchHit} {h : SearchHit}
    (hnew : h.url ∉ seen.map SearchHit.url) (cs : List SearchHit) :
    unseen seen (h :: cs) = h :: unseen (seen ++ [h]) cs := by
  rw [unseen, distinct, List.filter_cons_of_pos (by simpa using hnew), List.filter_filter, unseen]
  congr 1
  refine List.filter_congr fun h' _ => ?_
  simp only [List.map_append, List.map_singleton, List.mem_append, List.mem_singleton, not_or,
    Bool.decide_and, ne_eq]

/-- What has the address of a candidate that is seen does not change what is unseen. -/
theorem unseen_concat_of_mem {seen : List SearchHit} {h : SearchHit}
    (hseen : h.url ∈ seen.map SearchHit.url) (cs : List SearchHit) :
    unseen (seen ++ [h]) cs = unseen seen cs := by
  refine List.filter_congr fun h' _ => ?_
  by_cases heq : h'.url = h.url
  · simp [heq, hseen]
  · simp [heq]

/-- The first candidates of their addresses, when some candidates come before. -/
theorem firsts_behind (seen cs : List SearchHit) :
    ((cs.zipIdx seen.length).filter fun p =>
        p.1.url ∉ ((seen ++ cs).take p.2).map SearchHit.url).map Prod.fst = unseen seen cs := by
  induction cs generalizing seen with
  | nil => rfl
  | cons h cs ih =>
    have hbefore : (seen ++ h :: cs).take seen.length = seen := List.take_left
    have hlength : (seen ++ [h]).length = seen.length + 1 := by simp
    have hbehind := ih (seen ++ [h])
    rw [List.append_assoc, List.singleton_append, hlength] at hbehind
    rw [List.zipIdx_cons, List.filter_cons]
    simp only [hbefore]
    by_cases hseen : h.url ∈ seen.map SearchHit.url
    · rw [if_neg (by simpa using hseen), hbehind, unseen_concat_of_mem hseen,
        unseen_cons_of_mem hseen]
    · rw [if_pos (by simpa using hseen), List.map_cons, hbehind, unseen_cons_of_not_mem hseen]

/-- The distinct candidates are the first ones of their addresses. -/
theorem distinct_eq_firsts (cs : List SearchHit) : distinct cs = firsts cs := by
  rw [← unseen_nil, ← firsts_behind [] cs]
  rfl

/-- No two of them have the same address. -/
theorem pairwise_distinct (cs : List SearchHit) :
    (distinct cs).Pairwise fun a b => a.url ≠ b.url := by
  induction cs with
  | nil => exact .nil
  | cons h cs ih =>
    rw [distinct, List.pairwise_cons]
    refine ⟨fun h' hmem => ?_, ih.filter _⟩
    have hne : h'.url ≠ h.url := by simpa using (List.mem_filter.1 hmem).2
    exact hne.symm

/-! ## One entry after the other -/

/-- Takes up the entries with a new address, until there are enough. -/
def collect (most : Nat) : List SearchHit → List Json → List SearchHit
  | found, [] => found
  | found, entry :: rest =>
    if most ≤ found.length then found
    else
      match topic? entry with
      | none => collect most found rest
      | some h =>
        if h.url ∈ found.map SearchHit.url then collect most found rest
        else collect most (found ++ [h]) rest

/-- With some hits found, the entries add the first candidates of their addresses. -/
theorem take_collect (most : Nat) (found : List SearchHit) (entries : List Json) :
    (collect most found entries).take most
      = (found ++ unseen found (entries.filterMap topic?)).take most := by
  induction entries generalizing found with
  | nil => simp [collect, unseen, distinct]
  | cons entry rest ih =>
    rw [collect]
    split
    · next henough => rw [List.take_append_of_le_length henough]
    · cases hentry : topic? entry with
      | none =>
        rw [List.filterMap_cons_none hentry]
        exact ih found
      | some h =>
        rw [List.filterMap_cons_some hentry]
        simp only
        split
        · next hseen => rw [ih, unseen_cons_of_mem hseen]
        · next hnew =>
          rw [ih, unseen_cons_of_not_mem hnew, List.append_assoc, List.singleton_append]

/-! ## The candidates of an answer -/

/-- The text that a value has at a key, without the blanks around it, of which something is left. -/
def HasText (j : Json) (key text : String) : Prop :=
  ∃ s, j.member? key = some (.string s) ∧ text = Text.trim s ∧ text ≠ ""

/-- A member with a text is one that has it. -/
theorem textMember?_eq_some_iff {j : Json} {key text : String} :
    textMember? j key = some text ↔ HasText j key text := by
  have htrimmed : ∀ s, Text.trimmed? s = some text ↔ text = Text.trim s ∧ text ≠ "" := by
    intro s
    unfold Text.trimmed?
    simp only
    split
    · next hempty => simp [hempty]
    · next hne =>
      rw [Option.some.injEq, eq_comm]
      exact ⟨fun h => ⟨h, h ▸ hne⟩, And.left⟩
  rw [textMember?, HasText]
  constructor
  · intro h
    obtain ⟨s, hs, htext⟩ := Option.bind_eq_some_iff.1 h
    obtain ⟨v, hv, hstring⟩ := Option.bind_eq_some_iff.1 hs
    cases v with
    | string s' =>
      obtain rfl := Option.some.inj hstring
      exact ⟨_, hv, (htrimmed _).1 htext⟩
    | _ => cases hstring
  · rintro ⟨s, hs, htext⟩
    rw [hs]
    exact (htrimmed s).2 htext

/-- The candidate that a value is: one if it has a text and an address at the two keys. -/
inductive Offers (read : Json → Option SearchHit) (textKey urlKey : String) (j : Json) :
    List SearchHit → Prop where
  /-- It has both. -/
  | hit {h : SearchHit} (hread : read j = some h) (htext : HasText j textKey h.text)
    (hurl : HasText j urlKey h.url) : Offers read textKey urlKey j [h]
  /-- It lacks one of them. -/
  | nothing (hread : read j = none)
    (hlacks : ∀ text url, HasText j textKey text → ¬ HasText j urlKey url) :
    Offers read textKey urlKey j []

/-- The items of the array at a key, and none if there is no array. -/
inductive ItemsAt (j : Json) (key : String) : List Json → Prop where
  /-- There is an array. -/
  | array {items : List Json} (h : j.member? key = some (.array items)) : ItemsAt j key items
  /-- There is none. -/
  | absent (h : ∀ items, j.member? key ≠ some (.array items)) : ItemsAt j key []

/-- The entries for which a topic stands: those of its array of topics, or itself. -/
inductive StandsFor (topic : Json) : List Json → Prop where
  /-- It is a group. -/
  | group {items : List Json} (h : topic.member? "Topics" = some (.array items)) :
    StandsFor topic items
  /-- It stands for itself. -/
  | alone (h : ∀ items, topic.member? "Topics" ≠ some (.array items)) : StandsFor topic [topic]

/-- The candidates of an answer: the abstract, then what the related topics stand for, then what the
results stand for, without what lacks a text or an address. -/
structure Candidates (body : Json) (cs : List SearchHit) : Prop where
  /-- They come from these parts of the answer. -/
  exists_parts : ∃ (summary : List SearchHit) (related results : List Json)
    (groups : List (List Json)) (offers : List (List SearchHit)),
    Offers abstract? "AbstractText" "AbstractURL" body summary ∧
      ItemsAt body "RelatedTopics" related ∧ ItemsAt body "Results" results ∧
      List.Forall₂ StandsFor (related ++ results) groups ∧
      List.Forall₂ (Offers topic? "Text" "FirstURL") groups.flatten offers ∧
      cs = summary ++ offers.flatten

/-- A reader of a text and an address, whatever title it gives. -/
theorem offers_of_bind {read : Json → Option SearchHit} {textKey urlKey : String} {j : Json}
    (title : String → Option String)
    (h : read j = (textMember? j textKey).bind fun text => (textMember? j urlKey).bind fun url =>
      some ⟨title text, text, url⟩) :
    Offers read textKey urlKey j (read j).toList := by
  cases htext : textMember? j textKey with
  | none =>
    have hread : read j = none := by rw [h, htext]; rfl
    rw [hread]
    refine .nothing hread fun text url hhas => ?_
    rw [textMember?_eq_some_iff.2 hhas] at htext
    cases htext
  | some text =>
    cases hurl : textMember? j urlKey with
    | none =>
      have hread : read j = none := by rw [h, htext, hurl]; rfl
      rw [hread]
      refine .nothing hread fun _ url _ hhas => ?_
      rw [textMember?_eq_some_iff.2 hhas] at hurl
      cases hurl
    | some url =>
      have hread : read j = some ⟨title text, text, url⟩ := by rw [h, htext, hurl]; rfl
      rw [hread]
      exact .hit hread (textMember?_eq_some_iff.1 htext) (textMember?_eq_some_iff.1 hurl)

/-- The abstract of an answer is a candidate if it has a text and an address. -/
theorem offers_abstract? (body : Json) :
    Offers abstract? "AbstractText" "AbstractURL" body (abstract? body).toList :=
  offers_of_bind (fun _ => _) rfl

/-- So is a topic. -/
theorem offers_topic? (entry : Json) :
    Offers topic? "Text" "FirstURL" entry (topic? entry).toList :=
  offers_of_bind _ rfl

/-- The items of a member are those of its array. -/
theorem itemsAt_listMember (j : Json) (key : String) : ItemsAt j key (listMember j key) := by
  rw [listMember]
  cases h : j.member? key with
  | none => exact .absent (by simp [h])
  | some v =>
    cases v with
    | array items => exact .array h
    | _ => exact .absent (by simp [h])

/-- A topic is replaced by the entries that it stands for. -/
theorem standsFor_ungroup (topic : Json) : StandsFor topic (ungroup topic) := by
  rw [ungroup]
  cases h : topic.member? "Topics" with
  | none => exact .alone (by simp [h])
  | some v =>
    cases v with
    | array items => exact .group h
    | _ => exact .alone (by simp [h])

/-- The entries of an answer, in the order in which they are taken up. -/
def entriesOf (body : Json) : List Json :=
  (listMember body "RelatedTopics" ++ listMember body "Results").flatMap ungroup

/-- The candidates of an answer are read off it as they should. -/
theorem candidates_candidates (body : Json) : Candidates body (candidates body) := by
  refine ⟨(abstract? body).toList, _, _,
    (listMember body "RelatedTopics" ++ listMember body "Results").map ungroup,
    (entriesOf body).map fun entry => (topic? entry).toList, offers_abstract? body,
    itemsAt_listMember body _, itemsAt_listMember body _, ?_, ?_, ?_⟩
  · rw [List.forall₂_map_right_iff, List.forall₂_same]
    exact fun topic _ => standsFor_ungroup topic
  · rw [← List.flatMap_def, List.forall₂_map_right_iff, entriesOf, List.forall₂_same]
    exact fun entry _ => offers_topic? entry
  · rw [candidates, ← List.flatMap_def, entriesOf, List.filterMap_eq_flatMap_toList]

/-! ## The hits -/

/-- How hits, for each limit, come from candidates. -/
structure FirstOfEach (cs : List SearchHit) (taken : Nat → List SearchHit) : Prop where
  /-- They are the first of the candidates without those whose address occurred before. -/
  eq_take (most : Nat) : taken most = (firsts cs).take most
  /-- No address is there twice. -/
  pairwise (most : Nat) : (taken most).Pairwise fun a b => a.url ≠ b.url
  /-- A larger limit adds hits at the end. -/
  begins {m n : Nat} (h : m ≤ n) : taken m <+: taken n

/-- The hits of an answer are the first of its candidates with distinct addresses; so they are when
the entries are taken up one after the other behind the abstract, until there are enough. -/
theorem firstOfEach_hits (body : Json) :
    ∃ cs, Candidates body cs ∧ FirstOfEach cs (hits body) ∧
      ∀ most, hits body most
        = (collect most (abstract? body).toList (entriesOf body)).take most := by
  refine ⟨candidates body, candidates_candidates body, ⟨fun most => ?_, fun most => ?_, ?_⟩,
    fun most => ?_⟩
  · rw [hits, distinct_eq_firsts]
  · exact (pairwise_distinct _).sublist (List.take_sublist _ _)
  · exact fun h => List.take_prefix_take_left h
  · rw [take_collect, hits, candidates]
    cases abstract? body with
    | none => rw [Option.toList_none, unseen_nil]; rfl
    | some h =>
      rw [Option.toList_some, List.singleton_append, ← unseen_nil,
        unseen_cons_of_not_mem (by simp)]
      rfl

end CitedReport.WebSearch
