import Mathlib.Data.String.Basic
import CitedReport.Proofs.WebAddress.Reading

/-!
# Finding a web address in a query

The address that is found in a query cuts it into three: what stands before it, the address, and
what stands after it (`cuts_of_findFrom`). It is an address by itself, too: looked for in its
own text, it is found there as a whole (`find?_url`). A query is a text in UTF-8, in which an address
is given by two positions, counted in bytes; they lie between characters, whatever the characters
before the address are (`stands_of_find?`).
-/

namespace CitedReport.WebAddress

open Chars

/-! ## The address at the beginning -/

/-- What an address at the beginning is like. -/
theorem address?_eq_some {cs url : List Char} (h : address? cs = some url) :
    url <+: cs ∧ url ≠ [] ∧ isAddress url = true ∧ read? url = some url ∧
      (∀ c ∈ url, isBlank c = false) ∧ dropEndWhile isClosing url = url := by
  rw [address?, Option.bind_eq_some_iff] at h
  obtain ⟨text, hread, h⟩ := h
  simp only at h
  split at h
  · next haddress =>
    obtain rfl := Option.some.inj h
    obtain ⟨hbegins, hblank, hagain⟩ := read?_dropEndWhile hread
    exact ⟨hbegins, haddress.1, haddress.2, hagain, hblank, List.rdropWhile_idempotent isClosing text⟩
  · cases h

/-- An address is an address by itself. -/
theorem address?_url {cs url : List Char} (h : address? cs = some url) :
    address? url = some url := by
  obtain ⟨-, hne, haddress, hread, -, hdrop⟩ := address?_eq_some h
  simp only [address?, hread, Option.bind_some, hdrop]
  rw [if_pos ⟨hne, haddress⟩]

/-! ## The first address -/

namespace Found

/-- The text is cut into what stands before an address, the address, and what stands after it. -/
structure Cuts (f : Found) (cs : List Char) : Prop where
  /-- The three parts are the text. -/
  parts : cs = f.before ++ (f.url ++ f.after)
  /-- The address is the one that is read where it stands. -/
  address : address? (f.url ++ f.after) = some f.url

/-- A character that is passed over stands before the address. -/
theorem Cuts.cons {f : Found} {cs : List Char} (h : f.Cuts cs) (c : Char) :
    Cuts { f with before := c :: f.before } (c :: cs) where
  parts := congrArg (c :: ·) h.parts
  address := h.address

end Found

/-- What is found cuts the text. -/
theorem cuts_of_findFrom {skip : Nat} {last : Option Char} {cs : List Char} {f : Found}
    (h : findFrom skip last cs = some f) : f.Cuts cs := by
  fun_induction findFrom skip last cs generalizing f with
  | case1 => cases h
  | case2 skip last c cs ih =>
    obtain ⟨g, hg, rfl⟩ := Option.map_eq_some_iff.1 h
    exact (ih hg).cons c
  | case3 last c cs hread ih =>
    obtain ⟨g, hg, rfl⟩ := Option.map_eq_some_iff.1 h
    exact (ih hg).cons c
  | case4 last c cs text hread url haddress =>
    obtain rfl := Option.some.inj h
    have hsplit := List.prefix_iff_eq_append.1 (address?_eq_some haddress).1
    exact ⟨hsplit.symm, by rw [hsplit, haddress]⟩
  | case5 last c cs text hread haddress ih =>
    obtain ⟨g, hg, rfl⟩ := Option.map_eq_some_iff.1 h
    exact (ih hg).cons c

/-- In its own text, an address is found as a whole. -/
theorem find?_url {cs url : List Char} (h : address? cs = some url) :
    find? (String.ofList url) = some ⟨[], url, []⟩ := by
  have haddress := address?_url h
  obtain ⟨-, hne, -, hread, -, -⟩ := address?_eq_some h
  obtain ⟨c, rest, rfl⟩ := List.exists_cons_of_ne_nil hne
  have hstart : Relationship.wordStart none = true := rfl
  rw [find?, String.toList_ofList, findFrom, if_pos hstart, hread]
  simp only [haddress, List.drop_length]

namespace Found

variable (query : String) (f : Found)

/-- Where the address begins, in bytes. -/
def start : String.Pos.Raw := (String.ofList f.before).rawEndPos

/-- Where it ends. -/
def stop : String.Pos.Raw := (String.ofList (f.before ++ f.url)).rawEndPos

/-- The address is a part of the query between two positions, and is found alone, too. -/
structure Stands : Prop where
  /-- It is not empty. -/
  start_lt_stop : f.start < f.stop
  /-- It ends within the query. -/
  stop_le : f.stop ≤ query.rawEndPos
  /-- It begins between two characters. -/
  isValid_start : f.start.IsValid query
  /-- It ends between two characters. -/
  isValid_stop : f.stop.IsValid query
  /-- What stands before it. -/
  extract_before : String.Pos.Raw.extract query 0 f.start = String.ofList f.before
  /-- What stands there. -/
  extract_url : String.Pos.Raw.extract query f.start f.stop = String.ofList f.url
  /-- What stands after it. -/
  extract_after : String.Pos.Raw.extract query f.stop query.rawEndPos = String.ofList f.after
  /-- It has no blanks. -/
  noBlank : ∀ c ∈ f.url, isBlank c = false
  /-- It does not end in punctuation. -/
  notClosing : ∀ c ∈ f.url.getLast?, isClosing c = false
  /-- In its own text, it is found from the beginning to the end. -/
  alone : ∃ g, find? (String.ofList f.url) = some g ∧ g.url = f.url ∧ g.start = 0 ∧
    g.stop = (String.ofList f.url).rawEndPos

end Found

/-- A text between two others is what is extracted from where it begins to where it ends. -/
theorem extract_ofList_append (before text after : List Char) :
    String.Pos.Raw.extract (String.ofList (before ++ text ++ after))
      (String.ofList before).rawEndPos (String.ofList (before ++ text)).rawEndPos
      = String.ofList text := by
  rw [String.rawEndPos_ofList, String.rawEndPos_ofList, String.utf8Len_append]
  exact String.extract_of_valid before text after

/-- What is found in a query stands in it. -/
theorem stands_of_find? {query : String} {f : Found} (h : find? query = some f) :
    f.Stands query := by
  obtain ⟨hparts, haddress⟩ := cuts_of_findFrom h
  obtain ⟨-, hne, -, -, hblank, hclosing⟩ := address?_eq_some haddress
  -- the query is the text in front, the address and the text behind
  obtain rfl : query = String.ofList (f.before ++ (f.url ++ f.after)) := by
    rw [← hparts, String.ofList_toList]
  have hassoc := List.append_assoc f.before f.url f.after
  have hpos : 0 < String.utf8Len f.url :=
    Nat.pos_of_ne_zero fun hzero => hne (String.utf8Len_eq_zero.1 hzero)
  refine
    { start_lt_stop := ?_
      stop_le := ?_
      isValid_start := ?_
      isValid_stop := ?_
      extract_before := extract_ofList_append [] f.before (f.url ++ f.after)
      extract_url := hassoc ▸ extract_ofList_append f.before f.url f.after
      extract_after := ?_
      noBlank := hblank
      notClosing := ?_
      alone := ⟨_, find?_url haddress, rfl, rfl, rfl⟩ }
  · rw [Found.start, Found.stop, String.rawEndPos_ofList, String.rawEndPos_ofList,
      String.utf8Len_append]
    exact Nat.lt_add_of_pos_right hpos
  · rw [Found.stop, ← hassoc, String.rawEndPos_ofList, String.rawEndPos_ofList,
      String.utf8Len_append (f.before ++ f.url)]
    exact Nat.le_add_right _ _
  · exact String.Pos.Raw.isValid_iff_exists_append.2
      ⟨String.ofList f.before, String.ofList (f.url ++ f.after), String.ofList_append, rfl⟩
  · exact String.Pos.Raw.isValid_iff_exists_append.2
      ⟨String.ofList (f.before ++ f.url), String.ofList f.after,
        by rw [← String.ofList_append, hassoc], rfl⟩
  · have hafter := extract_ofList_append (f.before ++ f.url) f.after []
    rwa [List.append_nil, hassoc] at hafter
  · intro c hc
    have hlast := List.rdropWhile_eq_self_iff.1 hclosing hne
    rw [List.getLast?_eq_some_getLast hne] at hc
    rw [← Option.some.inj hc]
    exact Bool.eq_false_iff.2 hlast

-- the letter with two dots takes two bytes
example : (find? "Wer führt acme.io?").map (fun f => (f.start, f.stop)) = some (⟨11⟩, ⟨18⟩) := by
  decide +kernel

end CitedReport.WebAddress
