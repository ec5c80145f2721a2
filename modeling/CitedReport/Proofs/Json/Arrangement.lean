import Mathlib.Data.List.Nodup
import CitedReport.Json.Record

/-!
# Members in another order

An object means the same in whatever order its members stand, as long as no key is repeated. What
holds of members that are looked up by their keys comes first. A way of arranging a value
(`Arranges`) keeps all that there is to be looked up; leaving the value as it is and sorting it are
two of them. A record that is written in members with distinct keys is then read back from every
arrangement of them: `Rearranged` says what becomes of the members, and the lemmas about it follow
the functions by which records and alternatives are read.
-/

namespace CitedReport.Json

/-! ## Members by their keys -/

/-- The keys of members. -/
def keys (members : List (String × Json)) : List String := members.map Prod.fst

/-- No members have no keys. -/
@[simp] theorem keys_nil : keys [] = [] := rfl

/-- The key of the first member comes first. -/
@[simp] theorem keys_cons (m : String × Json) (members : List (String × Json)) :
    keys (m :: members) = m.1 :: keys members := rfl

/-- The keys of members come in their order. -/
@[simp] theorem keys_append (before after : List (String × Json)) :
    keys (before ++ after) = keys before ++ keys after := List.map_append

/-- The first member is looked at last. -/
theorem lookup_cons (key : String) (m : String × Json) (members : List (String × Json)) :
    lookup key (m :: members) = (lookup key members).or (if m.1 = key then some m.2 else none) :=
  rfl

/-- Members behind are looked at before those in front. -/
theorem lookup_append (key : String) (before after : List (String × Json)) :
    lookup key (before ++ after) = (lookup key after).or (lookup key before) := by
  induction before with
  | nil => exact (Option.or_none).symm
  | cons m before ih => rw [List.cons_append, lookup_cons, ih, lookup_cons, Option.or_assoc]

/-- What is looked up is a member. -/
theorem mem_of_lookup {key : String} {v : Json} {members : List (String × Json)}
    (h : lookup key members = some v) : (key, v) ∈ members := by
  induction members with
  | nil => cases h
  | cons m members ih =>
    rw [lookup_cons, Option.or_eq_some_iff] at h
    rcases h with hrest | ⟨-, hfirst⟩
    · exact List.mem_cons_of_mem m (ih hrest)
    · split at hfirst
      · next hkey =>
        cases hfirst
        rw [← hkey]
        exact List.mem_cons_self
      · cases hfirst

/-- A key that no member has is not found. -/
theorem lookup_eq_none_iff {key : String} {members : List (String × Json)} :
    lookup key members = none ↔ key ∉ keys members := by
  induction members with
  | nil => simp [lookup]
  | cons m members ih =>
    rw [lookup_cons, Option.or_eq_none_iff, ih, keys_cons, List.mem_cons, not_or, and_comm,
      eq_comm (a := key)]
    simp

/-- Leaving out the members of one key does not change what the other keys have. -/
theorem lookup_filter_ne {key tag : String} (h : key ≠ tag) (members : List (String × Json)) :
    lookup key (members.filter fun m => m.1 ≠ tag) = lookup key members := by
  induction members with
  | nil => rfl
  | cons m members ih =>
    rw [List.filter_cons, lookup_cons]
    by_cases htag : m.1 = tag
    · have hkey : m.1 ≠ key := fun hkey => h (hkey.symm.trans htag)
      rw [if_neg (by simpa using htag), ih, if_neg hkey, Option.or_none]
    · rw [if_pos (by simpa using htag), lookup_cons, ih]

/-- The one member with a key, when no key is repeated. -/
theorem filter_eq_of_lookup {tag : String} {v : Json} {members : List (String × Json)}
    (hdistinct : (keys members).Nodup) (h : lookup tag members = some v) :
    members.filter (fun m => m.1 = tag) = [(tag, v)] := by
  induction members with
  | nil => cases h
  | cons m members ih =>
    obtain ⟨hfirst, hrest⟩ := List.nodup_cons.1 hdistinct
    rw [List.filter_cons]
    by_cases htag : m.1 = tag
    · -- the others have other keys
      rw [htag] at hfirst
      rw [lookup_cons, lookup_eq_none_iff.2 hfirst, if_pos htag, Option.none_or] at h
      have hnone : members.filter (fun m => m.1 = tag) = [] := by
        rw [List.filter_eq_nil_iff]
        intro m' hm' hkey
        have hkey' : m'.1 = tag := by simpa using hkey
        exact hfirst (hkey' ▸ List.mem_map_of_mem hm')
      rw [if_pos (by simpa using htag), hnone, ← htag, ← Option.some.inj h]
    · rw [lookup_cons, if_neg htag, Option.or_none] at h
      rw [if_neg (by simpa using htag), ih hrest h]

/-- No member has a key that is not among the keys. -/
theorem any_key_eq_false {key : String} {members : List (String × Json)}
    (h : key ∉ keys members) : members.any (fun m => m.1 = key) = false := by
  rw [List.any_eq_false]
  intro m hm hkey
  have hkey' : m.1 = key := by simpa using hkey
  exact h (hkey' ▸ List.mem_map_of_mem hm)

/-- Keys that are not repeated are distinct for any record. -/
theorem distinctKeys_of_nodup {members : List (String × Json)} (h : (keys members).Nodup)
    (declared : List String) : distinctKeys declared members = true := by
  induction members with
  | nil => rfl
  | cons m members ih =>
    obtain ⟨hfirst, hrest⟩ := List.nodup_cons.1 h
    rw [distinctKeys, any_key_eq_false hfirst, Bool.and_false, Bool.not_false, Bool.true_and,
      ih hrest]

/-- They stay so when members are left out. -/
theorem nodup_keys_filter {members : List (String × Json)} (h : (keys members).Nodup)
    (test : String × Json → Bool) : (keys (members.filter test)).Nodup :=
  h.sublist (List.filter_sublist.map Prod.fst)

/-! ## One more member -/

section

variable {key : String} {before after : List (String × Json)}

/-- A member with a new key is found under its key, and no other one is hidden by it. -/
theorem lookup_insert (hnew : key ∉ keys (before ++ after)) (k : String) (v : Json) :
    lookup k (before ++ (key, v) :: after)
      = if k = key then some v else lookup k (before ++ after) := by
  rw [keys_append, List.mem_append, not_or] at hnew
  rw [lookup_append, lookup_cons, lookup_append]
  by_cases hk : k = key
  · -- the new member is the only one with its key
    rw [if_pos hk, hk, lookup_eq_none_iff.2 hnew.2, lookup_eq_none_iff.2 hnew.1, if_pos rfl]
    rfl
  · rw [if_neg hk, if_neg (Ne.symm hk), Option.or_none]

/-- A member with a new key is no repetition. -/
theorem distinctKeys_insert (hnew : key ∉ keys (before ++ after)) (v : Json)
    (declared : List String) :
    distinctKeys declared (before ++ (key, v) :: after)
      = distinctKeys declared (before ++ after) := by
  induction before with
  | nil =>
    rw [List.nil_append] at hnew ⊢
    rw [distinctKeys, any_key_eq_false hnew, Bool.and_false, Bool.not_false, Bool.true_and,
      List.nil_append]
  | cons m before ih =>
    rw [List.cons_append, keys_cons, List.mem_cons, not_or] at hnew
    have hany : (before ++ (key, v) :: after).any (fun m' => m'.1 = m.1)
        = (before ++ after).any fun m' => m'.1 = m.1 := by
      rw [List.any_append, List.any_cons, List.any_append, decide_eq_false hnew.1, Bool.false_or]
    rw [List.cons_append, distinctKeys, hany, ih hnew.2, List.cons_append, distinctKeys]

end

section

variable {α : Type} {name : String} {members : List (String × Json)} (write : α → Json)

/-- An optional member is found if it is there. -/
theorem lookup_optionalMember (h : name ∉ keys members) (a? : Option α) :
    lookup name (members ++ optionalMember name write a?) = a?.map write := by
  rw [lookup_append, lookup_eq_none_iff.2 h, Option.or_none]
  cases a? with
  | none => rfl
  | some a => simp [optionalMember, lookup]

/-- Other keys are looked up as without it. -/
theorem lookup_append_optionalMember {key : String} (h : key ≠ name) (a? : Option α) :
    lookup key (members ++ optionalMember name write a?) = lookup key members := by
  have hnone : lookup key (optionalMember name write a?) = none := by
    cases a? with
    | none => rfl
    | some a => simp [optionalMember, lookup, Ne.symm h]
  rw [lookup_append, hnone, Option.none_or]

/-- An optional member with a new key repeats none. -/
theorem nodup_keys_optionalMember (hdistinct : (keys members).Nodup) (h : name ∉ keys members)
    (a? : Option α) : (keys (members ++ optionalMember name write a?)).Nodup := by
  cases a? with
  | none => rwa [optionalMember, List.append_nil]
  | some a =>
    have hdisjoint : ∀ k ∈ keys members, ∀ k' ∈ [name], k ≠ k' := by
      intro k hk k' hk' heq
      rw [List.mem_singleton] at hk'
      exact h (hk' ▸ heq ▸ hk)
    rw [keys_append]
    exact List.nodup_append.2 ⟨hdistinct, List.nodup_singleton name, hdisjoint⟩

end

/-! ## Sorting -/

/-- A member that is put in its place does not count against one that is there already. -/
theorem lookup_place (key k : String) (v : Json) (members : List (String × Json)) :
    lookup key (place k v members)
      = (lookup key members).or (if k = key then some v else none) := by
  induction members with
  | nil => rfl
  | cons m members ih =>
    rw [place]
    split
    · rfl
    · split
      · next hk =>
        -- whatever is in front for the key `k` is hidden
        rw [lookup_cons, Option.or_assoc, hk]
        split <;> rfl
      · rw [lookup_cons, ih, lookup_cons, Option.or_assoc, Option.or_assoc]
        congr 1
        by_cases hm : m.1 = key <;> by_cases hk : k = key <;> simp_all

/-- Sorting keeps the value of every key. -/
theorem lookup_sortedMembers (key : String) (members : List (String × Json)) :
    lookup key (sortedMembers members) = (lookup key members).map sorted := by
  induction members with
  | nil => rfl
  | cons m members ih =>
    rw [sortedMembers, lookup_place, ih, lookup_cons]
    cases lookup key members with
    | some v => rfl
    | none =>
      simp only [Option.map_none, Option.none_or]
      split <;> rfl

/-- The members of a sorted object are the sorted members. -/
theorem member?_sorted (key : String) (j : Json) :
    j.sorted.member? key = (j.member? key).map sorted := by
  cases j with
  | object members => exact lookup_sortedMembers key members
  | _ => rfl

/-- The items of an array are sorted one by one. -/
theorem sortedItems_eq_map (items : List Json) : sortedItems items = items.map sorted := by
  induction items with
  | nil => rfl
  | cons v items ih => rw [sortedItems, ih, List.map_cons]

/-- A string is sorted. -/
theorem string?_sorted (j : Json) : j.sorted.string? = j.string? := by cases j <;> rfl

/-- Sorted members all come after what precedes them. -/
theorem lt_of_mem_keys {k key : String} {members : List (String × Json)}
    (hsorted : membersSorted members = true) (hfirst : precedes k members = true)
    (h : key ∈ keys members) : k < key := by
  induction members generalizing k with
  | nil => cases h
  | cons m members ih =>
    simp only [precedes, decide_eq_true_eq] at hfirst
    simp only [membersSorted, Bool.and_eq_true] at hsorted
    rcases List.mem_cons.1 h with rfl | hrest
    · exact hfirst
    · exact String.lt_trans hfirst (ih hsorted.2 hsorted.1.1 hrest)

/-- Sorted members do not repeat a key. -/
theorem nodup_keys_of_membersSorted {members : List (String × Json)}
    (h : membersSorted members = true) : (keys members).Nodup := by
  induction members with
  | nil => exact List.nodup_nil
  | cons m members ih =>
    simp only [membersSorted, Bool.and_eq_true] at h
    refine List.nodup_cons.2 ⟨fun hmem => ?_, ih h.2⟩
    -- a key that came again would come before itself
    exact String.lt_irrefl _ (lt_of_mem_keys h.2 h.1.1 hmem)

mutual

/-- All of a value in sorted form can be had. -/
theorem isReadable_of_isSorted : (j : Json) → j.isSorted = true → j.isReadable = true
  | .null, _ => rfl
  | .bool _, _ => rfl
  | .number _, _ => rfl
  | .string _, _ => rfl
  | .unreadable, h => h
  | .array items, h => allReadable_of_allSorted items h
  | .object members, h => membersReadable_of_membersSorted members h

/-- All of sorted items can be had. -/
theorem allReadable_of_allSorted :
    (items : List Json) → allSorted items = true → allReadable items = true
  | [], _ => rfl
  | v :: rest, h => by
    simp only [allSorted, Bool.and_eq_true] at h
    simp only [allReadable, Bool.and_eq_true]
    exact ⟨isReadable_of_isSorted v h.1, allReadable_of_allSorted rest h.2⟩

/-- All of sorted members can be had. -/
theorem membersReadable_of_membersSorted : (members : List (String × Json)) →
    membersSorted members = true → membersReadable members = true
  | [], _ => rfl
  | (_, v) :: rest, h => by
    simp only [membersSorted, Bool.and_eq_true] at h
    simp only [membersReadable, Bool.and_eq_true]
    exact ⟨isReadable_of_isSorted v h.1.2, membersReadable_of_membersSorted rest h.2⟩

end

/-- All of some written items can be had if all of each of them can. -/
theorem allReadable_map {α : Type} {write : α → Json} {items : List α}
    (h : ∀ a ∈ items, (write a).isReadable = true) : allReadable (items.map write) = true := by
  induction items with
  | nil => rfl
  | cons a items ih =>
    rw [List.map_cons, allReadable, h a List.mem_cons_self,
      ih fun b hb => h b (List.mem_cons_of_mem a hb), Bool.and_self]

/-! ## What is inside a value nests less deep -/

/-- An item nests less deep than its array. -/
theorem nesting_lt_of_mem {v : Json} {items : List Json} (h : v ∈ items) :
    v.nesting < (Json.array items).nesting := by
  rw [nesting, Nat.lt_succ_iff]
  induction items with
  | nil => cases h
  | cons w items ih =>
    rw [nestingOfItems]
    rcases List.mem_cons.1 h with rfl | hrest
    · exact Nat.le_max_left _ _
    · exact Nat.le_trans (ih hrest) (Nat.le_max_right _ _)

/-- A member nests less deep than its object. -/
theorem nesting_lt_of_lookup {key : String} {v : Json} {members : List (String × Json)}
    (h : lookup key members = some v) : v.nesting < (Json.object members).nesting := by
  have hmem := mem_of_lookup h
  clear h
  rw [nesting, Nat.lt_succ_iff]
  induction members with
  | nil => cases hmem
  | cons m members ih =>
    rw [nestingOfMembers]
    rcases List.mem_cons.1 hmem with rfl | hrest
    · exact Nat.le_max_left _ _
    · exact Nat.le_trans (ih hrest) (Nat.le_max_right _ _)

/-! ## Arranging -/

/-- Members with distinct keys that have, for every key, the arranged value of that key among the
members they stand for. -/
structure Rearranged (arrange : Json → Json) (members members' : List (String × Json)) : Prop where
  /-- No key is repeated. -/
  distinct : (keys members').Nodup
  /-- The keys and their values stay. -/
  lookup_eq : ∀ key, lookup key members' = (lookup key members).map arrange

/-- A way of arranging values that keeps what can be looked up in them. -/
structure Arranges (arrange : Json → Json) : Prop where
  /-- Strings stay as they are. -/
  string : ∀ s, arrange (.string s) = .string s
  /-- Truth words stay as they are. -/
  bool : ∀ b, arrange (.bool b) = .bool b
  /-- Numbers stay as they are. -/
  number : ∀ n, arrange (.number n) = .number n
  /-- Items keep their order. -/
  array : ∀ items, arrange (.array items) = .array (items.map arrange)
  /-- Members may change their order. -/
  object : ∀ members, (keys members).Nodup →
    ∃ members', arrange (.object members) = .object members' ∧ Rearranged arrange members members'
  /-- Nothing is lost. -/
  isReadable : ∀ j, j.isReadable = true → (arrange j).isReadable = true
  /-- The sorted form is the same. -/
  sorted : ∀ j, (arrange j).sorted = j.sorted

/-- A value may stay as it is. -/
theorem arranges_id : Arranges id where
  string _ := rfl
  bool _ := rfl
  number _ := rfl
  array items := by rw [List.map_id, id]
  object members h := ⟨members, rfl, h, fun key => (Option.map_id_apply).symm⟩
  isReadable _ h := h
  sorted _ := rfl

/-- A value may be sorted. -/
theorem arranges_sorted : Arranges sorted where
  string _ := rfl
  bool _ := rfl
  number _ := rfl
  array items := by rw [Json.sorted, sortedItems_eq_map]
  object members _ := ⟨sortedMembers members, rfl,
    nodup_keys_of_membersSorted (membersSorted_sortedMembers members),
    fun key => lookup_sortedMembers key members⟩
  isReadable j _ := isReadable_of_isSorted j.sorted (sorted_isSorted j)
  sorted j := sorted_of_isSorted j.sorted (sorted_isSorted j)

section Reading

variable {α : Type} {arrange : Json → Json} {members members' : List (String × Json)}

/-- What is written is read back from its arrangement. -/
def ReadsBack (arrange : Json → Json) (write : α → Json) (read : Json → Option α) : Prop :=
  ∀ a, read (arrange (write a)) = some a

/-- Strings are read back from any arrangement. -/
theorem Arranges.readsBack_string (h : Arranges arrange) : ReadsBack arrange .string string? :=
  fun s => by rw [h.string, string?]

/-- So are truth words. -/
theorem Arranges.readsBack_bool (h : Arranges arrange) : ReadsBack arrange .bool bool? :=
  fun b => by rw [h.bool, bool?]

/-- So are whole numbers. -/
theorem Arranges.readsBack_nat (h : Arranges arrange) : ReadsBack arrange nat nat? :=
  fun n => by rw [nat, h.number, nat?]

/-- A value of no fixed form is read back. -/
theorem Arranges.readsBack_json (h : Arranges arrange) :
    ReadsBack arrange Sorted.json Sorted.of? := by
  intro v
  have hof : Sorted.of (arrange v.json) = v := calc
    Sorted.of (arrange v.json) = Sorted.of v.json := by simp only [Sorted.of, h.sorted]
    _ = v := Sorted.of_json v
  rw [Sorted.of?, if_pos (h.isReadable _ (isReadable_of_isSorted _ v.isSorted)), hof]

/-- The items of a list are read back if each of them is. -/
theorem Arranges.listOf_ofList (h : Arranges arrange) {write : α → Json} {read : Json → Option α}
    {items : List α} (hread : ∀ a ∈ items, read (arrange (write a)) = some a) :
    listOf read (arrange (ofList write items)) = some items := by
  rw [ofList, h.array, List.map_map, listOf]
  induction items with
  | nil => rfl
  | cons a items ih =>
    rw [List.map_cons, List.mapM_cons, Function.comp_apply, hread a List.mem_cons_self,
      ih fun b hb => hread b (List.mem_cons_of_mem a hb)]
    rfl

/-- So are lists of values that are. -/
theorem Arranges.readsBack_ofList (h : Arranges arrange) {write : α → Json}
    {read : Json → Option α} (hread : ReadsBack arrange write read) :
    ReadsBack arrange (ofList write) (listOf read) :=
  fun _ => h.listOf_ofList fun a _ => hread a

namespace Rearranged

/-- Rearranged members make a record of any fields. -/
theorem record? (h : Rearranged arrange members members') (declared : List String) :
    Json.record? declared (.object members') = some ⟨false, members'⟩ :=
  if_pos (distinctKeys_of_nodup h.distinct declared)

/-- A field that is written is read back. -/
theorem required (h : Rearranged arrange members members') (key : String) {j : Json}
    {read : Json → Option α} {a : α} (hfield : lookup key members = some j)
    (hread : read (arrange j) = some a) :
    Record.required ⟨false, members'⟩ key read = some a := by
  rw [Record.required, Record.value?, h.lookup_eq, hfield]
  exact hread

/-- A field with a default that is written is read back. -/
theorem withDefault (h : Rearranged arrange members members') (key : String) {j : Json}
    {default : α} {read : Json → Option α} {a : α} (hfield : lookup key members = some j)
    (hread : read (arrange j) = some a) :
    Record.withDefault ⟨false, members'⟩ key default read = some a := by
  rw [Record.withDefault, Record.value?, h.lookup_eq, hfield]
  exact hread

/-- An optional text is read back, be it there or not. -/
theorem optionalText (h : Rearranged arrange members members') (harrange : Arranges arrange)
    (key : String) {text : Option String} (hfield : lookup key members = text.map Json.string) :
    Record.withDefault ⟨false, members'⟩ key none (nullable string?) = some text := by
  rw [Record.withDefault, Record.value?, h.lookup_eq, hfield]
  cases text with
  | none => rfl
  | some t => simp [harrange.string, nullable, string?]

/-- The alternative that is named by a first member, with the other members. -/
theorem taggedBy? {tag name : String} (h : Rearranged arrange ((tag, .string name) :: members)
      members') (harrange : Arranges arrange) (htag : tag ∉ keys members)
    (hreadable : membersReadable members' = true) {name? : Json → Option String}
    (hname : name? (.string name) = some name) :
    ∃ rest, Json.taggedBy? name? tag (.object members') = some (name, .object rest) ∧
      Rearranged arrange members rest := by
  have hfound : lookup tag members' = some (.string name) := by
    rw [h.lookup_eq, lookup_cons, lookup_eq_none_iff.2 htag, if_pos rfl, Option.none_or,
      Option.map_some, harrange.string]
  refine ⟨members'.filter fun m => m.1 ≠ tag, ?_, nodup_keys_filter h.distinct _, fun key => ?_⟩
  · rw [Json.taggedBy?, hreadable, filter_eq_of_lookup h.distinct hfound]
    simp only [hname, Option.map_some]
  · by_cases hkey : key = tag
    · -- neither what is left nor what was written behind the tag has it
      have hnone : tag ∉ keys (members'.filter fun m => m.1 ≠ tag) := by simp [keys]
      rw [hkey, lookup_eq_none_iff.2 hnone, lookup_eq_none_iff.2 htag, Option.map_none]
    · rw [lookup_filter_ne hkey, h.lookup_eq, lookup_cons, if_neg (Ne.symm hkey), Option.or_none]

end Rearranged

end Reading

end CitedReport.Json
