import CitedReport.Text
import CitedReport.Verdict

/-!
# The relationship with the subject

Internal search is the only authority on whether the subject has worked with us before: its findings
carry a line with `Relationship status:`. Here that line is found, turned into an instruction for
the writer of the report, and a finished report is checked against it.

Letter case is ignored throughout, and so is the difference between the letters that `Chars.fold`
identifies.
-/

namespace CitedReport

/-- What is known about the relationship with the subject. -/
inductive RelationshipStatus where
  /-- There is or was one; the evidence is the line that says so. -/
  | existingClient (evidence : String)
  /-- It is on record that there was none. -/
  | noPriorEngagement
  /-- Nothing is on record. -/
  | unknown
deriving DecidableEq, Repr, Inhabited

namespace Relationship

/-- What comes before a status. -/
def statusMark : List Char := "relationship status:".toList

/-- The three kinds of status that are recognized. -/
inductive StatusKind where
  /-- An engagement that goes on. -/
  | existing
  /-- An engagement that is over. -/
  | past
  /-- No engagement. -/
  | absent
deriving DecidableEq, Repr

namespace StatusKind

/-- The words for a kind of status. -/
def words : StatusKind → List Char
  | .existing => "existing client".toList
  | .past => "past engagement".toList
  | .absent => "no prior engagement".toList

/-- The kinds in the order in which they are tried. -/
def all : List StatusKind := [existing, past, absent]

end StatusKind

/-- What follows a phrase at the beginning of a text when the phrase ends there with a word. -/
def afterPhrase? (phrase cs : List Char) : Option (List Char) :=
  (Chars.afterFolded? phrase cs).bind fun rest => if Chars.wordNext rest then none else some rest

/-- A kind of status at the beginning of a text, and what follows it. -/
def readKind? (cs : List Char) : Option (StatusKind × List Char) :=
  StatusKind.all.findSome? fun k => (afterPhrase? k.words cs).map fun rest => (k, rest)

/-- A status at the beginning of a text: its mark, blanks, which may be line ends, and its kind. -/
def readStatus? (cs : List Char) : Option (StatusKind × List Char) :=
  (Chars.afterFolded? statusMark cs).bind fun rest => readKind? (Chars.trimStart rest)

/-- The last status that begins on the current line, and what follows it. -/
def lastStatus? : List Char → Option (StatusKind × List Char)
  | [] => none
  | c :: cs =>
    if c = '\n' then none
    -- a status further along the line has precedence
    else (lastStatus? cs).or (readStatus? (c :: cs))

/-- The rest of the current line. -/
def restOfLine (cs : List Char) : List Char := cs.takeWhile (· ≠ '\n')

/-- A status line at the beginning of a line: its kind and its length. It reaches from the beginning
of the line on which the status begins to the end of the line on which it ends. -/
def statusLine? (cs : List Char) : Option (StatusKind × Nat) :=
  (lastStatus? cs).map fun r => (r.1, cs.length - r.2.length + (restOfLine r.2).length)

/-- The status lines of a text, in order and without overlap, each with its text. The number counts
characters to be passed over; the flag says whether a line begins here. -/
def statusLinesFrom : Nat → Bool → List Char → List (StatusKind × List Char)
  | _, _, [] => []
  | skip + 1, _, c :: cs => statusLinesFrom skip (c == '\n') cs
  | 0, atStart, c :: cs =>
    match if atStart then statusLine? (c :: cs) else none with
    -- the line feed after the status line is not passed over, so that a line begins after it
    | some (kind, length) => (kind, (c :: cs).take length) :: statusLinesFrom (length - 1) false cs
    | none => statusLinesFrom 0 (c == '\n') cs

/-- The status lines of a text. -/
def statusLines (cs : List Char) : List (StatusKind × List Char) := statusLinesFrom 0 true cs

/-- What the status lines say: the first that tells of an engagement counts, or else any that denies
one. -/
def ofStatusLines (lines : List (StatusKind × List Char)) : RelationshipStatus :=
  match lines.find? fun l => l.1 ≠ .absent with
  | some l => .existingClient (String.ofList (Chars.trim l.2))
  | none => if lines = [] then .unknown else .noPriorEngagement

/-- What the findings say. -/
def detect (findings : List String) : RelationshipStatus :=
  ofStatusLines (findings.flatMap fun f => statusLines f.toList)

/-- The phrases by which a report claims a relationship. -/
def claimPhrases : List (List Char) :=
  ["existing client", "current client", "past client", "former client", "existing relationship",
    "prior engagement with us", "previously worked with us", "previously engaged with us",
    "our client"].map String.toList

/-- Whether a word can begin after a character: there is none or it cannot stand inside a word. -/
def wordStart : Option Char → Bool
  | none => true
  | some c => !Chars.isWord c

/-- Whether `test` holds of what follows some place where a word can begin; the character before is
given. -/
def atSomeWord (test : List Char → Bool) : Option Char → List Char → Bool
  | _, [] => false
  | before, c :: cs => (wordStart before && test (c :: cs)) || atSomeWord test (some c) cs

/-- Whether a text begins with a claim. -/
def beginsClaim (cs : List Char) : Bool :=
  claimPhrases.any fun p => (afterPhrase? p cs).isSome

/-- Whether a line claims a relationship. -/
def claims (line : List Char) : Bool := atSomeWord beginsClaim none line

/-- The words that deny what follows them. -/
def negations : List (List Char) :=
  ["no", "not a", "not an", "never", "without"].map String.toList

/-- The words that, when they are denied, make a line a denial. -/
def deniedWords : List (List Char) :=
  ["existing", "current", "past", "former", "prior", "our"].map String.toList

/-- What follows at least one blank. -/
def afterBlanks? (cs : List Char) : Option (List Char) :=
  match cs with
  | [] => none
  | c :: _ => if Chars.isBlank c then some (Chars.trimStart cs) else none

/-- Whether a denied word comes after at most `n` other words. -/
def deniedWithin : Nat → List Char → Bool
  | 0, cs => deniedWords.any fun w => (afterPhrase? w cs).isSome
  | n + 1, cs =>
    deniedWords.any (fun w => (afterPhrase? w cs).isSome) ||
      (match cs with
        | [] => false
        | c :: _ =>
          Chars.isWord c &&
            (match afterBlanks? (cs.dropWhile Chars.isWord) with
              | some rest => deniedWithin n rest
              | none => false))

/-- Whether a text begins with a denial. -/
def beginsDenial (cs : List Char) : Bool :=
  negations.any fun w =>
    match (Chars.afterFolded? w cs).bind afterBlanks? with
    | some rest => deniedWithin 2 rest
    | none => false

/-- Whether a line denies a relationship. -/
def denies (line : List Char) : Bool := atSomeWord beginsDenial none line

/-- The part of an evidence line that a report must quote: without bullets, quote signs and
emphasis. -/
def evidenceBody (evidence : String) : String :=
  let stripped := (Chars.trim evidence.toList).dropWhile fun c =>
    c == '-' || c == '*' || c == '>' || c == ' '
  let star := fun c => c == '*'
  String.ofList (Chars.trim (Chars.dropEndWhile star (stripped.dropWhile star)))

end Relationship

namespace RelationshipStatus

/-- The instruction for the writer of the report. -/
def directive : RelationshipStatus → String
  | .existingClient evidence =>
    "RELATIONSHIP RULE (non-negotiable): Internal records confirm an existing relationship. " ++
      "The relationships section MUST state that the subject is an existing client and MUST " ++
      "quote this evidence verbatim:\n> " ++ evidence
  | .noPriorEngagement =>
    "RELATIONSHIP RULE (non-negotiable): Internal records show NO prior engagement. " ++
      "Do NOT state or imply an existing relationship, even if retrieved case studies or " ++
      "press mentions look similar; they concern other entities."
  | .unknown =>
    "RELATIONSHIP RULE: Internal records carry no relationship status for this subject. " ++
      "Do not speculate about whether a relationship exists."

/-- What is wrong with a report, if anything. -/
def check (status : RelationshipStatus) (report : String) : Option Verdict :=
  match status with
  | .existingClient evidence =>
    if Text.contains (Relationship.evidenceBody evidence) report then none
    else
      some (.fail ("The relationships section must assert the existing client relationship and " ++
        "quote the internal evidence verbatim: \"" ++ evidence ++ "\""))
  | .noPriorEngagement =>
    if (Chars.lines report.toList).any fun l => Relationship.claims l && !Relationship.denies l then
      some (.fail ("Internal records show no prior engagement. Remove every statement that " ++
        "asserts or implies an existing or past relationship with the subject."))
    else none
  | .unknown => none

/-- A status in JSON. -/
def toJson : RelationshipStatus → Json
  | .existingClient evidence =>
    .object [("status", .string "existing_client"), ("evidence", .string evidence)]
  | .noPriorEngagement => .object [("status", .string "no_prior_engagement")]
  | .unknown => .object [("status", .string "unknown")]

/-- Reads a status. -/
def ofJson? (j : Json) : Option RelationshipStatus := do
  let (name, body) ← Json.tagged? "status" j
  if name = "existing_client" then
    let r ← Json.record? ["evidence"] body
    return .existingClient (← r.required "evidence" Json.string?)
  else if !Json.isBare body then none
  else if name = "no_prior_engagement" then some .noPriorEngagement
  else if name = "unknown" then some .unknown
  else none

end RelationshipStatus

end CitedReport
