import CitedReport.Json.Basic

/-!
# Records in JSON

How a record with declared fields is read from a value: from an object, where other members are
passed over and a declared key must not be repeated, or from an array that gives the fields in their
order. A field may be required, optional (absent and `null` mean the same), or have a default.
-/

namespace CitedReport.Json

/-- The fields of a record as they were found. -/
structure Record where
  /-- Whether the fields were given by position, where an optional field cannot be left out. -/
  positional : Bool
  /-- The values found, by field. -/
  values : List (String × Json)

/-- Whether the declared fields among the keys are free of repetition. -/
def distinctKeys (declared : List String) : List (String × Json) → Bool
  | [] => true
  | (k, _) :: rest =>
    !(declared.contains k && rest.any (fun m => m.1 = k)) && distinctKeys declared rest

/-- Reads a value as a record with the declared fields. -/
def record? (declared : List String) : Json → Option Record
  | .object members => if distinctKeys declared members then some ⟨false, members⟩ else none
  | .array items => if items.length ≤ declared.length then some ⟨true, declared.zip items⟩ else none
  | _ => none

namespace Record

variable {α : Type}

/-- The value found for a field. -/
def value? (r : Record) (name : String) : Option Json := lookup name r.values

/-- A field that must be there. -/
def required (r : Record) (name : String) (read : Json → Option α) : Option α :=
  (r.value? name).bind read

/-- A field that may be absent or `null`. -/
def optional (r : Record) (name : String) (read : Json → Option α) : Option (Option α) :=
  match r.value? name with
  | none => if r.positional then none else some none
  | some .null => some none
  | some v => (read v).map some

/-- A field with a value for when it is absent. -/
def withDefault (r : Record) (name : String) (default : α) (read : Json → Option α) : Option α :=
  match r.value? name with
  | none => some default
  | some v => read v

end Record

/-- Reads a value that may be `null`. -/
def nullable {α : Type} (read : Json → Option α) : Json → Option (Option α)
  | .null => some none
  | v => (read v).map some

/-- Reads every item of an array. -/
def listOf {α : Type} (read : Json → Option α) : Json → Option (List α)
  | .array items => items.mapM read
  | _ => none

/-- The name that says which alternative a value is, with the value's other members, all of which
must be such that they can be had; `name?` says how the name is read. -/
def taggedBy? (name? : Json → Option String) (tag : String) : Json → Option (String × Json)
  | .object members =>
    match membersReadable members, members.filter (fun m => m.1 = tag) with
    | true, [(_, v)] =>
      (name? v).map fun name => (name, .object (members.filter (fun m => m.1 ≠ tag)))
    | _, _ => none
  | .array (v :: rest) =>
    if allReadable rest then (name? v).map fun name => (name, .array rest) else none
  | _ => none

/-- The same with a name that is a string. -/
def tagged? (tag : String) : Json → Option (String × Json) := taggedBy? string? tag

/-- A name inside a value that was set aside until its tag was found, where the position among the
names can stand for it. -/
def nameAside? (names : List String) : Json → Option String
  | .string s => some s
  | .number (.natural n) => names[n]?
  | _ => none

/-- The name of an alternative that carries nothing: a string, or an object with that name for a key
and `null` for its value. -/
def unitName? : Json → Option String
  | .string s => some s
  | .object [(name, .null)] => some name
  | _ => none

/-- The same inside a value that was set aside, where an empty object can stand for `null`. -/
def unitNameAside? : Json → Option String
  | .object [(name, .object [])] => some name
  | j => unitName? j

/-- Whether a tagged value has nothing besides its tag; members that nobody looks at do not
count. -/
def isBare : Json → Bool
  | .array items => items.isEmpty
  | _ => true

/-- A member for an optional value: none when it is absent. -/
def optionalMember {α : Type} (name : String) (write : α → Json) : Option α → List (String × Json)
  | none => []
  | some a => [(name, write a)]

/-- A value that is `null` when it is absent. -/
def orNull {α : Type} (write : α → Json) : Option α → Json
  | none => .null
  | some a => write a

/-- An array of values. -/
def ofList {α : Type} (write : α → Json) (items : List α) : Json := .array (items.map write)

end CitedReport.Json
