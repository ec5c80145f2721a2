import CitedReport.Consolidation
import CitedReport.Plan

/-!
# The sections of a report

A report ends in a generated section of sources. It takes the place of the last section of sources
or references that the writer put there; sections that the writer put after that one are kept in
front of it.
-/

namespace CitedReport.Synthesis

/-- What follows the longest run of blanks at the beginning that ends at the end of a line. -/
def toLineEnd? (cs : List Char) : Option (List Char) :=
  match cs.dropWhile Chars.isBlank with
  | [] => some []
  | rest =>
    (Chars.splitLast? ['\n'] (cs.takeWhile Chars.isBlank)).map fun r => '\n' :: (r.2 ++ rest)

/-- What follows the end of a heading line, before which a colon may stand. -/
def closeHeading? (cs : List Char) : Option (List Char) :=
  (match cs.dropWhile Chars.isBlank with
    | ':' :: rest => toLineEnd? rest
    | _ => none).or (toLineEnd? cs)

/-- What follows a heading over sources or references at the beginning: one to three `#` signs and
one of these words, in any letter case, with nothing after it but a colon. -/
def afterSourcesHeading? (cs : List Char) : Option (List Char) :=
  let level := (cs.takeWhile (· == '#')).length
  if 1 ≤ level ∧ level ≤ 3 then
    let title := Chars.trimStart (cs.drop level)
    ((Chars.afterFolded? "sources".toList title).or
      (Chars.afterFolded? "references".toList title)).bind closeHeading?
  else none

/-- What stands before and after the last heading over sources. The flag says whether a line begins
here. -/
def splitAtSources? : Bool → List Char → Option (List Char × List Char)
  | _, [] => none
  | atStart, c :: cs =>
    -- the last heading counts, so what follows is looked at first
    match splitAtSources? (c == '\n') cs with
    | some r => some (c :: r.1, r.2)
    | none =>
      if atStart then (afterSourcesHeading? (c :: cs)).map fun rest => ([], rest) else none

/-- Whether a section begins: one or two `#` signs, a blank, and text. -/
def beginsSection (cs : List Char) : Bool :=
  let level := (cs.takeWhile (· == '#')).length
  1 ≤ level && level ≤ 2 && Plan.blankThenText (cs.drop level)

/-- The text from the first section that begins at the beginning of a line. -/
def fromSection : Bool → List Char → List Char
  | _, [] => []
  | atStart, c :: cs =>
    if atStart && beginsSection (c :: cs) then c :: cs else fromSection (c == '\n') cs

/-- The text of a report without its last section of sources. -/
def withoutSources (report : List Char) : List Char :=
  match splitAtSources? true report with
  | none => Chars.trimEnd report
  | some (before, after) =>
    let tail := Chars.trim (fromSection true after)
    Chars.trimEnd before ++ (if tail = [] then [] else '\n' :: '\n' :: tail)

/-- A report with a generated section in place of its last section of sources. -/
def replaceSources (report sources : String) : String :=
  String.ofList (withoutSources report.toList) ++ "\n\n" ++ Text.trimEnd sources ++ "\n"

/-- The section of sources of a report on a context. -/
def sourcesSection (c : ResearchContext) : String :=
  if c.sources = [] then "## Sources\n\nNo sources were collected during research.\n"
  else c.sourcesSection

/-- Findings under headings with their numbers. -/
def findingSections : Nat → List String → String
  | _, [] => ""
  | i, f :: rest =>
    "\n## Findings Section " ++ toString i ++ "\n\n" ++ Text.trim f ++ "\n" ++
      findingSections (i + 1) rest

/-- The findings as a report, for when none could be written. -/
def fallbackReport (c : ResearchContext) (error : ResearchError) : String :=
  replaceSources
    ("# Research Findings\n\n> The report could not be written (" ++ error.message ++ "). " ++
      "The consolidated research findings follow unedited.\n" ++ findingSections 1 c.findings)
    (sourcesSection c)

end CitedReport.Synthesis
