import CitedReport.Json.Basic

/-!
# Tables in TOML

A document builds a tree of tables line by line. How a table came about decides what may still be
added to it: a table has at most one header, dotted keys do not add to a table that has one, and a
value is never replaced. What is refused is answered with `none`.
-/

namespace CitedReport.Toml

/-- How a table came about. -/
inductive Origin where
  /-- It has a header. -/
  | headed
  /-- It stands on the way to a table with a header. -/
  | implied
  /-- It was made by a dotted key. -/
  | dotted
deriving DecidableEq, Repr

/-- What a key in a table has. -/
inductive Item where
  /-- A value that is finished. -/
  | value (v : Json)
  /-- A table. -/
  | table (origin : Origin) (members : List (String × Item))
  /-- Tables that are numbered: those before the last, and the last. -/
  | rows (before : List (List (String × Item))) (last : List (String × Item))

/-- The items of a table by their keys. -/
abbrev Members := List (String × Item)

namespace Members

/-- The item of a key. -/
def find? (key : String) : Members → Option Item
  | [] => none
  | (k, item) :: rest => if k = key then some item else find? key rest

/-- Gives a key an item, in place of the one that it has. -/
def set (key : String) (item : Item) : Members → Members
  | [] => [(key, item)]
  | (k, old) :: rest => if k = key then (k, item) :: rest else (k, old) :: set key item rest

/-- Changes the table that a header's keys lead to. Tables on the way are made as they are needed,
and of numbered ones the last is meant. -/
def change : List String → (Members → Option Members) → Members → Option Members
  | [], f, m => f m
  | key :: keys, f, m =>
    match m.find? key with
    | none => (change keys f []).map fun inner => m.set key (.table .implied inner)
    | some (.value _) => none
    | some (.table origin inner) =>
      (change keys f inner).map fun inner => m.set key (.table origin inner)
    | some (.rows before last) => (change keys f last).map fun last => m.set key (.rows before last)

/-- Puts in a value under the last of some keys, the others leading to its table. -/
def put : List String → Json → Members → Option Members
  | [], _, _ => none
  | [key], v, m =>
    match m.find? key with
    | none => some (m.set key (.value v))
    | some _ => none
  | key :: next :: keys, v, m =>
    match m.find? key with
    | none => (put (next :: keys) v []).map fun inner => m.set key (.table .dotted inner)
    | some (.value _) => none
    | some (.table origin inner) =>
      -- dotted keys add to tables of their own making, not to those of a header
      if origin = .headed ∨ (keys = [] ∧ origin = .implied) then none
      else (put (next :: keys) v inner).map fun inner => m.set key (.table origin inner)
    | some (.rows before last) =>
      if keys = [] then none
      else (put (next :: keys) v last).map fun last => m.set key (.rows before last)

/-- Opens a table under its header's last key. -/
def openTable (key : String) (m : Members) : Option Members :=
  match m.find? key with
  | none => some (m.set key (.table .headed []))
  | some (.table .implied inner) => some (m.set key (.table .headed inner))
  | some _ => none

/-- Opens one more of the numbered tables under their header's last key. -/
def openRow (key : String) (m : Members) : Option Members :=
  match m.find? key with
  | none => some (m.set key (.rows [] []))
  | some (.rows before last) => some (m.set key (.rows (before ++ [last]) []))
  | some _ => none

end Members

mutual

/-- The value of an item. -/
def Item.toJson : Item → Json
  | .value v => v
  | .table _ members => .object (ofMembers members)
  | .rows before last => .array (ofRows before ++ [.object (ofMembers last)])

/-- The values of the items of a table. -/
def ofMembers : List (String × Item) → List (String × Json)
  | [] => []
  | (key, item) :: rest => (key, item.toJson) :: ofMembers rest

/-- The values of numbered tables. -/
def ofRows : List (List (String × Item)) → List Json
  | [] => []
  | row :: rest => .object (ofMembers row) :: ofRows rest

end

/-- The value of a table. -/
def Members.toJson (m : Members) : Json := .object (ofMembers m)

end CitedReport.Toml
