import CitedReport.Text

/-!
# Planning question groups

A research brief is cut into question groups that can be researched independently: its sections when
it has headings, otherwise its top-level list items, otherwise the whole of it. Groups over a cap
are joined with their neighbours, never left out.
-/

namespace CitedReport

/-- How groups over the cap are joined. -/
inductive MergePolicy where
  /-- Again and again the two neighbours that are shortest together. -/
  | mergeSmallest
  /-- All that do not fit, into the last one that does. -/
  | foldTail
deriving DecidableEq, Repr, Inhabited

namespace Plan

/-- Whether a text begins with a blank and goes on to something else. -/
def blankThenText (cs : List Char) : Bool :=
  match cs with
  | [] => false
  | c :: _ => Chars.isBlank c && !Chars.allBlank cs

/-- The level of a heading line: the number of its `#` signs, from one to six, with at most three
spaces before them and a blank and text after them. -/
def headingLevel? (line : List Char) : Option Nat :=
  let spaces := (line.takeWhile (· == ' ')).length
  let rest := line.dropWhile (· == ' ')
  let level := (rest.takeWhile (· == '#')).length
  if spaces ≤ 3 ∧ 1 ≤ level ∧ level ≤ 6 ∧ blankThenText (rest.dropWhile (· == '#')) then some level
  else none

/-- Whether a line is a list item at the top level: a bullet, or digits with a point or a bracket
after them, then a blank and text. -/
def isListItem (line : List Char) : Bool :=
  match line with
  | [] => false
  | c :: rest =>
    if c = '-' ∨ c = '*' ∨ c = '+' then blankThenText rest
    else
      match line.takeWhile Chars.isDigit, line.dropWhile Chars.isDigit with
      | _ :: _, '.' :: rest => blankThenText rest
      | _ :: _, ')' :: rest => blankThenText rest
      | _, _ => false

/-- The text of the lines of a group, trimmed. -/
def groupText (group : List (List Char)) : List Char :=
  Chars.trim (List.intercalate ['\n'] group)

/-- The level at which a brief is cut: the shallowest that more than one of its headings have, or
else the shallowest. -/
def sectionLevel? (levels : List Nat) : Option Nat :=
  match levels.min? with
  | none => none
  | some shallowest =>
    -- a single heading, such as the title of the brief, does not cut it
    some (([1, 2, 3, 4, 5, 6].find? fun l => 1 < levels.count l).getD shallowest)

/-- The lines from one that starts a group up to the next that does. Lines before the first are left
out. -/
def cutAt (starts : List Char → Bool) : List (List Char) → List (List (List Char))
  | [] => []
  | line :: rest =>
    if starts line then
      (line :: rest.takeWhile (fun l => !starts l)) :: cutAt starts rest
    else cutAt starts rest

/-- The sections of a brief. -/
def sections (lines : List (List Char)) : List (List Char) :=
  match sectionLevel? (lines.filterMap headingLevel?) with
  | none => []
  | some level =>
    ((cutAt (fun l => headingLevel? l = some level) lines).map groupText).filter (· ≠ [])

/-- The lines that continue a list item: indented ones, up to the first that is not; blank lines are
passed over. -/
def continuation : List (List Char) → List (List Char)
  | [] => []
  | line :: rest =>
    -- the next item ends this one, and so does a line that is not indented
    if isListItem line then []
    else if Chars.allBlank line then continuation rest
    else
      match line with
      | c :: _ => if Chars.isBlank c then line :: continuation rest else []
      | [] => continuation rest

/-- The top-level list items of a brief, each with the lines that continue it. -/
def itemLines : List (List Char) → List (List (List Char))
  | [] => []
  | line :: rest =>
    if isListItem line then (line :: continuation rest) :: itemLines rest else itemLines rest

/-- The texts of the top-level list items of a brief. -/
def listItems (lines : List (List Char)) : List (List Char) :=
  ((itemLines lines).map groupText).filter (· ≠ [])

/-- The group that stands for an empty brief. -/
def fallbackGroup : String := "General overview of the subject"

/-- The groups of a brief before any are joined. -/
def groups (brief : String) : List String :=
  let lines := Chars.lines brief.toList
  match sections lines with
  | [] =>
    match listItems lines with
    | [] => [(Text.trimmed? brief).getD fallbackGroup]
    | items => items.map String.ofList
  | found => found.map String.ofList

/-- Two groups as one, with a blank line between them. -/
def joinPair (a b : String) : String := a ++ "\n\n" ++ b

/-- The position of the earliest of the shortest pairs of neighbours, and that pair's length in
bytes; the first position is `i`. -/
def shortestPair (i : Nat) : List String → Option (Nat × Nat)
  | a :: b :: rest =>
    let here := a.utf8ByteSize + b.utf8ByteSize
    match shortestPair (i + 1) (b :: rest) with
    | some (j, there) => if there < here then some (j, there) else some (i, here)
    | none => some (i, here)
  | _ => none

/-- Joins the group at a position with the next one. -/
def joinAt : Nat → List String → List String
  | 0, a :: b :: rest => joinPair a b :: rest
  | i + 1, a :: rest => a :: joinAt i rest
  | _, groups => groups

/-- Joins a shortest pair of neighbours a number of times. -/
def mergeTimes : Nat → List String → List String
  | 0, groups => groups
  | n + 1, groups =>
    match shortestPair 0 groups with
    | some (i, _) => mergeTimes n (joinAt i groups)
    | none => groups

/-- Joins shortest pairs of neighbours until at most `cap` groups are left, but at least one. -/
def mergeSmallest (groups : List String) (cap : Nat) : List String :=
  mergeTimes (groups.length - max 1 cap) groups

/-- Joins all groups from the `cap`-th on into one. -/
def foldTail (groups : List String) (cap : Nat) : List String :=
  let cap := max 1 cap
  if groups.length ≤ cap then groups
  else
    groups.take (cap - 1) ++
      match groups.drop (cap - 1) with
      | [] => []
      | a :: rest => [rest.foldl joinPair a]

/-- The question groups of a brief, at most `cap` of them but at least one. -/
def plan (policy : MergePolicy) (cap : Nat) (brief : String) : List String :=
  match policy with
  | .mergeSmallest => mergeSmallest (groups brief) (max 1 cap)
  | .foldTail => foldTail (groups brief) (max 1 cap)

end Plan

end CitedReport
