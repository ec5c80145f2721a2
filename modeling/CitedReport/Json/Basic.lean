import CitedReport.Number.Binary

/-!
# JSON values

The value of a JSON document. An object keeps its members as they are written, a repeated key
included, because a record must notice the repetition. Where a document carries a value of no fixed
form, such as the arguments of a tool call, that value is kept as a `Json.Sorted`: the keys of its
objects are distinct and increasing, and of two members with one key the later one counts.
`sorted_isSorted` says that sorting reaches that form and `sorted_of_isSorted` that it changes
nothing there.
-/

namespace CitedReport

/-- A number: whole numbers of 64 bits are kept exactly, everything else that is read as a 64-bit
float. A 32-bit float can be written too. -/
inductive JsonNumber where
  /-- A whole number from zero up. -/
  | natural (n : Nat)
  /-- The negative of a positive whole number. -/
  | negative (n : Nat)
  /-- Any other number. -/
  | double (x : Double)
  /-- A number that is held in 32 bits. -/
  | single (x : Single)
deriving DecidableEq, Repr

/-- A JSON value. -/
inductive Json where
  /-- The word `null`. -/
  | null
  /-- One of the words `true` and `false`. -/
  | bool (b : Bool)
  /-- A number. -/
  | number (n : JsonNumber)
  /-- A string. -/
  | string (s : String)
  /-- An array. -/
  | array (items : List Json)
  /-- An object, with its members in written order. -/
  | object (members : List (String × Json))
  /-- A well-formed value that cannot be had: a number that is too large, a string with half a
  surrogate pair, or brackets that nest too deep. It does no harm where nobody looks at it. -/
  | unreadable
deriving Inhabited, Repr

namespace Json

/-- The whole number `n` as a value. -/
def nat (n : Nat) : Json := .number (.natural n)

/-- The whole number `n`, which may be negative, as a value. -/
def int (n : Int) : Json :=
  if 0 ≤ n then .number (.natural n.toNat) else .number (.negative (-n).toNat)

/-- The value of the last member with a key. -/
def lookup (key : String) : List (String × Json) → Option Json
  | [] => none
  | (k, v) :: rest => (lookup key rest).or (if k = key then some v else none)

/-- A member of an object. -/
def member? (key : String) : Json → Option Json
  | .object members => lookup key members
  | _ => none

/-- The text of a string. -/
def string? : Json → Option String
  | .string s => some s
  | _ => none

/-- The value of a truth word. -/
def bool? : Json → Option Bool
  | .bool b => some b
  | _ => none

/-- A whole number from zero up. -/
def nat? : Json → Option Nat
  | .number (.natural n) => some n
  | _ => none

/-- A whole number from zero up that a word holds. -/
def word? (j : Json) : Option UInt64 :=
  j.nat?.bind fun n => if n < Word.size then some (n : UInt64) else none

/-- The items of an array. -/
def items? : Json → Option (List Json)
  | .array items => some items
  | _ => none

mutual

/-- How deep the brackets of a value nest. -/
def nesting : Json → Nat
  | .array items => nestingOfItems items + 1
  | .object members => nestingOfMembers members + 1
  | _ => 0

/-- The deepest nesting among items. -/
def nestingOfItems : List Json → Nat
  | [] => 0
  | v :: rest => max v.nesting (nestingOfItems rest)

/-- The deepest nesting among members. -/
def nestingOfMembers : List (String × Json) → Nat
  | [] => 0
  | (_, v) :: rest => max v.nesting (nestingOfMembers rest)

end

mutual

/-- Whether all of a value can be had. -/
def isReadable : Json → Bool
  | .unreadable => false
  | .array items => allReadable items
  | .object members => membersReadable members
  | _ => true

/-- Whether all of every item can be had. -/
def allReadable : List Json → Bool
  | [] => true
  | v :: rest => v.isReadable && allReadable rest

/-- Whether all of every member can be had. -/
def membersReadable : List (String × Json) → Bool
  | [] => true
  | (_, v) :: rest => v.isReadable && membersReadable rest

end

/-- Puts a member in front of a list with increasing keys, unless its key is already there. -/
def place (k : String) (v : Json) : List (String × Json) → List (String × Json)
  | [] => [(k, v)]
  | (k', v') :: rest =>
    if k < k' then (k, v) :: (k', v') :: rest
    else if k = k' then (k', v') :: rest
    else (k', v') :: place k v rest

/-- Whether a key comes before the first key of a list of members. -/
def precedes (k : String) : List (String × Json) → Bool
  | [] => true
  | (k', _) :: _ => k < k'

mutual

/-- The same value with the members of every object in increasing order of their keys; of members
with one key the last is kept. What cannot be had becomes `null`. -/
def sorted : Json → Json
  | .unreadable => .null
  | .array items => .array (sortedItems items)
  | .object members => .object (sortedMembers members)
  | other => other

/-- `sorted` on every item. -/
def sortedItems : List Json → List Json
  | [] => []
  | v :: rest => v.sorted :: sortedItems rest

/-- `sorted` on every member, and the members in order. -/
def sortedMembers : List (String × Json) → List (String × Json)
  | [] => []
  | (k, v) :: rest => place k v.sorted (sortedMembers rest)

end

mutual

/-- Whether the keys of every object increase and all of the value can be had. -/
def isSorted : Json → Bool
  | .unreadable => false
  | .array items => allSorted items
  | .object members => membersSorted members
  | _ => true

/-- Whether every item is sorted. -/
def allSorted : List Json → Bool
  | [] => true
  | v :: rest => v.isSorted && allSorted rest

/-- Whether the keys increase and every member is sorted. -/
def membersSorted : List (String × Json) → Bool
  | [] => true
  | (k, v) :: rest => precedes k rest && v.isSorted && membersSorted rest

end

/-- A key that comes before all members and a new one comes before all of them. -/
theorem precedes_place {j k : String} {v : Json} {ms : List (String × Json)} (hj : j < k)
    (h : precedes j ms = true) : precedes j (place k v ms) = true := by
  cases ms with
  | nil => simpa [place, precedes] using hj
  | cons m rest =>
    obtain ⟨k', v'⟩ := m
    simp only [precedes, decide_eq_true_eq] at h
    unfold place
    split
    · simpa [precedes] using hj
    · split <;> simpa [precedes] using h

/-- Members in order stay in order when one is put in its place. -/
theorem membersSorted_place {k : String} {v : Json} {ms : List (String × Json)}
    (hv : v.isSorted = true) (h : membersSorted ms = true) :
    membersSorted (place k v ms) = true := by
  induction ms with
  | nil => simp [place, membersSorted, precedes, hv]
  | cons m rest ih =>
    obtain ⟨k', v'⟩ := m
    have hrest := h
    simp only [membersSorted, Bool.and_eq_true] at hrest
    unfold place
    split
    · next hlt =>
      simp only [membersSorted, precedes, Bool.and_eq_true, decide_eq_true_eq]
      exact ⟨⟨hlt, hv⟩, hrest⟩
    · split
      · exact h
      · next hnlt hne =>
        have hlt : k' < k := by
          rcases String.le_total k k' with hle | hle
          · exact absurd (String.le_antisymm hle (String.not_lt.1 hnlt)) hne
          · rcases Classical.em (k' < k) with hk | hk
            · exact hk
            · exact absurd (String.le_antisymm (String.not_lt.1 hk) hle) hne
        simp only [membersSorted, Bool.and_eq_true]
        exact ⟨⟨precedes_place hlt hrest.1.1, hrest.1.2⟩, ih hrest.2⟩

mutual

/-- Sorting reaches sorted form. -/
theorem sorted_isSorted : (j : Json) → j.sorted.isSorted = true
  | .null => rfl
  | .bool _ => rfl
  | .number _ => rfl
  | .string _ => rfl
  | .unreadable => rfl
  | .array items => by
    simp only [sorted, isSorted]
    exact allSorted_sortedItems items
  | .object members => by
    simp only [sorted, isSorted]
    exact membersSorted_sortedMembers members

/-- Sorted items are in order inside. -/
theorem allSorted_sortedItems : (items : List Json) → allSorted (sortedItems items) = true
  | [] => rfl
  | v :: rest => by
    simp only [sortedItems, allSorted, Bool.and_eq_true]
    exact ⟨sorted_isSorted v, allSorted_sortedItems rest⟩

/-- Sorted members are in order, also inside. -/
theorem membersSorted_sortedMembers :
    (members : List (String × Json)) → membersSorted (sortedMembers members) = true
  | [] => rfl
  | (_, v) :: rest => by
    simp only [sortedMembers]
    exact membersSorted_place (sorted_isSorted v) (membersSorted_sortedMembers rest)

end

/-- A member whose key comes before all others is put in front. -/
theorem place_of_precedes {k : String} {v : Json} {ms : List (String × Json)}
    (h : precedes k ms = true) : place k v ms = (k, v) :: ms := by
  cases ms with
  | nil => rfl
  | cons m rest =>
    obtain ⟨k', v'⟩ := m
    simp only [precedes, decide_eq_true_eq] at h
    simp [place, h]

mutual

/-- Sorting changes nothing in sorted form. -/
theorem sorted_of_isSorted : (j : Json) → j.isSorted = true → j.sorted = j
  | .null, _ => rfl
  | .bool _, _ => rfl
  | .number _, _ => rfl
  | .string _, _ => rfl
  | .unreadable, h => by simp [isSorted] at h
  | .array items, h => by
    simp only [sorted]
    rw [sortedItems_of_allSorted items (by simpa [isSorted] using h)]
  | .object members, h => by
    simp only [sorted]
    rw [sortedMembers_of_membersSorted members (by simpa [isSorted] using h)]

/-- Items that are in order inside stay as they are. -/
theorem sortedItems_of_allSorted :
    (items : List Json) → allSorted items = true → sortedItems items = items
  | [], _ => rfl
  | v :: rest, h => by
    simp only [allSorted, Bool.and_eq_true] at h
    simp only [sortedItems]
    rw [sorted_of_isSorted v h.1, sortedItems_of_allSorted rest h.2]

/-- Members that are in order stay as they are. -/
theorem sortedMembers_of_membersSorted : (members : List (String × Json)) →
    membersSorted members = true → sortedMembers members = members
  | [], _ => rfl
  | (_, v) :: rest, h => by
    simp only [membersSorted, Bool.and_eq_true] at h
    simp only [sortedMembers]
    rw [sorted_of_isSorted v h.1.2, sortedMembers_of_membersSorted rest h.2,
      place_of_precedes h.1.1]

end

/-- A value of no fixed form: the keys of its objects are distinct and increasing. -/
structure Sorted where
  /-- The value. -/
  json : Json
  /-- Its keys increase, and all of it can be had. -/
  isSorted : json.isSorted = true

/-- The sorted form of any value. -/
def Sorted.of (j : Json) : Sorted := ⟨j.sorted, sorted_isSorted j⟩

/-- The sorted form of a value that can be had. -/
def Sorted.of? (j : Json) : Option Sorted := if j.isReadable then some (Sorted.of j) else none

instance : Inhabited Sorted := ⟨.of .null⟩

/-- A sorted value is its own sorted form. -/
theorem Sorted.of_json (v : Sorted) : Sorted.of v.json = v := by
  cases v with
  | mk j h => simp [Sorted.of, sorted_of_isSorted j h]

end Json

end CitedReport
