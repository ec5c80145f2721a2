import CitedReport.Json.Record

/-!
# Sections of a configuration

A section is a record whose settings are taken in one by one, over the values they have by default.
A value that does not fit is answered with the path of names that leads to it, so that the user can
be told which setting to mend.
-/

namespace CitedReport

/-!
## Trees of settings

Settings from several places are laid over one another as trees: where two objects meet, their
members are joined; anywhere else what lies above hides what lies below.
-/

namespace Tree

/-- Gives a key a value, in place of the one that it has. -/
def set (key : String) (v : Json) : List (String × Json) → List (String × Json)
  | [] => [(key, v)]
  | (k, old) :: rest => if k = key then (k, v) :: rest else (k, old) :: set key v rest

mutual

/-- A tree with another one laid over it. -/
def overlay (below : Json) : Json → Json
  | .object above =>
    match below with
    | .object members => .object (overlayMembers members above)
    | _ => .object (overlayMembers [] above)
  | other => other

/-- Members with others laid over them. -/
def overlayMembers (below : List (String × Json)) :
    List (String × Json) → List (String × Json)
  | [] => below
  | (key, v) :: rest =>
    overlayMembers (set key (overlay ((Json.lookup key below).getD .null) v) below) rest

end

/-- A value at the end of a path. -/
def nest (path : List String) (v : Json) : Json :=
  path.foldr (fun key inner => .object [(key, inner)]) v

end Tree

/-! ## Settings -/

/-- What becomes of the items of an array that a section has no settings for. -/
inductive Surplus where
  /-- They are passed over. -/
  | ignored
  /-- The array does not fit. -/
  | refused
deriving DecidableEq, Repr

/-- One setting of a section: its name, and how a value for it is taken in. A value that does not
fit is answered with the rest of the path to the place. -/
structure Setting (σ : Type) where
  /-- Its name. -/
  name : String
  /-- Takes in a value. -/
  take : Surplus → Json → σ → Except (List String) σ

namespace Setting

variable {σ α : Type}

/-- A setting with a value that is read as a whole. -/
def value (name : String) (read : Json → Option α) (put : α → σ → σ) : Setting σ :=
  { name
    take := fun _ j s =>
      match read j with
      | some a => .ok (put a s)
      | none => .error [] }

/-- A setting with a few values that go by names. A table in place of a name is wrong where it says
more than the name, at its first key. -/
def choice (name : String) (read : Json → Option α) (put : α → σ → σ) : Setting σ :=
  { name
    take := fun _ j s =>
      match read j, j with
      | some a, _ => .ok (put a s)
      | none, .object ((key, _) :: _) => .error [key]
      | none, _ => .error [] }

/-- A setting that is a whole number. -/
def nat (name : String) (put : Nat → σ → σ) : Setting σ := value name Json.nat? put

/-- A setting that is on or off. -/
def switch (name : String) (put : Bool → σ → σ) : Setting σ := value name Json.bool? put

/-- A setting that is a text. -/
def text (name : String) (put : String → σ → σ) : Setting σ := value name Json.string? put

/-- A setting that is a text or is left out. -/
def optionalText (name : String) (put : Option String → σ → σ) : Setting σ :=
  value name (Json.nullable Json.string?) put

end Setting

/-- The settings of a section, in the order in which they are written. -/
structure Section (σ : Type) where
  /-- Its settings. -/
  settings : List (Setting σ)
  /-- The names of those that may not be left out. -/
  required : List String

namespace Section

variable {σ τ : Type}

/-- The names of the settings. -/
def names (c : Section σ) : List String := c.settings.map Setting.name

/-- Takes in a named value; a name that is not known changes nothing. -/
def takeMember (c : Section σ) (surplus : Surplus) (s : σ) (m : String × Json) :
    Except (List String) σ :=
  match c.settings.find? fun t => t.name = m.1 with
  | none => .ok s
  | some t =>
    match t.take surplus m.2 s with
    | .ok s => .ok s
    | .error path => .error (m.1 :: path)

/-- Takes in values by position, beginning with the one at position `n`. -/
def takeItems (surplus : Surplus) (s : σ) (n : Nat) :
    List (Setting σ) → List Json → Except (List String) σ
  | t :: ts, v :: vs =>
    match t.take surplus v s with
    | .ok s => takeItems surplus s (n + 1) ts vs
    | .error path => .error (toString n :: path)
  | [], _ :: _ => if surplus = .refused then .error [] else .ok s
  | _, [] => .ok s

/-- Whether the names include all the settings that may not be left out. -/
def isEnough (c : Section σ) (given : List String) : Bool := c.required.all given.contains

/-- Takes in a value: an object with settings as members, of which none is repeated, or an array
that gives the settings in their order. The first value that does not fit is answered with the path
to it. -/
def take (c : Section σ) (surplus : Surplus) (j : Json) (s : σ) : Except (List String) σ :=
  match j with
  | .object members =>
    if Json.distinctKeys c.names members then members.foldlM (c.takeMember surplus) s else .error []
  | .array items =>
    (takeItems surplus s 0 c.settings items).bind fun s =>
      if c.isEnough (c.names.take items.length) then .ok s else .error []
  | _ => .error []

/-- Reads a section over the values that it has by default. -/
def fill (c : Section σ) (default : σ) (j : Json) : Option σ :=
  (c.take .refused j default).toOption

/-- Reads a section in which the settings that may not be left out must be given. -/
def whole (c : Section σ) (default : σ) (j : Json) : Option σ :=
  match j with
  | .object members => if c.isEnough (members.map Prod.fst) then c.fill default j else none
  | _ => c.fill default j

/-- A section as a setting of another one. -/
def within (c : Section τ) (name : String) (get : σ → τ) (put : τ → σ → σ) : Setting σ :=
  { name
    take := fun surplus j s =>
      match c.take surplus j (get s) with
      | .ok t => .ok (put t s)
      | .error path => .error path }

end Section

end CitedReport
