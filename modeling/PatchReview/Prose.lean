import PatchReview.Pattern.Capture
import PatchReview.Scan

-- Reviews written as prose.  Bulleted lines that name a bug or a suggestion become findings, and so
-- do lines that mention security or performance; whatever follows no such layout yields nothing.
namespace PatchReview
namespace Prose

open Pattern

def withoutSummary : Text := "Code reviewed by Gemini"

def stars : Pattern := any (.oneOf "*")

def lineBlanks : Pattern := any .lineBlank

def restOfLine : Pattern := Pattern.some .inLine

-- A bullet or a number at the start of a line, perhaps with emphasis after it.
def listMark : Pattern :=
  seqs [lineStart, lineBlanks,
    alts [char (.oneOf "-•*"), seqs [Pattern.some .digit, exactly "."]],
    lineBlanks, stars, lineBlanks]

-- A bullet, one of the given words, a colon, and what follows it on the line.
def bulleted (words : List Text) : Capture where
  lead := seqs
    [listMark, alts (words.map anyCase), stars, lineBlanks, exactly ":", stars, lineBlanks]
  body := restOfLine
  tail := lineEnd

def issueBullet : Capture := bulleted ["bug", "issue", "concern"]

def suggestionBullet : Capture := bulleted ["suggestion", "recommendation", "consider"]

def firstWords : Pattern := seqs [char (.except .blank), any .inLine]

def summaryColon : Capture where
  lead := seqs [anyCase "summary", stars, any .blank, exactly ":", any .blank, stars, any .blank]
  body := firstWords
  tail := lineEnd

def summaryHeading : Capture where
  lead := seqs [lineStart, Pattern.some (.oneOf "#"), any .blank, anyCase "summary", any .blank,
    Pattern.some (.oneOf "\n"), any .blank]
  body := firstWords
  tail := lineEnd

def wordOf (words : List Pattern) : Pattern := seqs [wordEdge, alts words, wordEdge]

def securityWord : Pattern :=
  wordOf [anyCase "security", seqs [anyCase "vulnerab", any .word], anyCase "injection",
    anyCase "xss", anyCase "csrf",
    seqs [anyCase "auth", optional (alts [anyCase "entication", anyCase "orization", anyCase "n",
      anyCase "z"])],
    seqs [anyCase "credential", optional (anyCase "s")],
    seqs [anyCase "secret", optional (anyCase "s")]]

def performanceWord : Pattern :=
  wordOf [anyCase "performance", anyCase "memory", seqs [anyCase "leak", optional (anyCase "s")],
    seqs [anyCase "optimi", char (.anyCase (.oneOf "sz")), anyCase "ation"],
    anyCase "inefficient", anyCase "slow"]

def highWords : List Text := ["critical", "danger", "bug", "vulnerability", "security"]

def mediumWords : List Text := ["concern", "warning", "issue"]

def severityOf (text : Text) : Severity :=
  let plain := Text.lower text
  if highWords.any (Text.holds plain) then .high
  else if mediumWords.any (Text.holds plain) then .medium
  else .low

-- The colon form anywhere in the text goes before the heading form.
def findSummary (text : Text) : Option Capture.Found :=
  (summaryColon.first? text).orElse fun _ => summaryHeading.first? text

-- The summary, and the offset at which it begins.
def summary? (text : Text) : Option (Text × Nat) :=
  (findSummary text).map fun found => (Text.trim found.text, found.bodyStart.offset)

-- The offset of the line that holds a position.
def lineOf (c : Cursor) : Nat := c.offset - (c.before.takeWhile (· ≠ '\n')).length

-- A security word makes a finding a security finding, and a mild one severe.
def bulletedIssue (description : Text) : Finding :=
  let severity := severityOf description
  if securityWord.foundIn description then
    { category := .security, severity := if severity.isHigh then severity else .high, description }
  else { category := .potentialBug, severity, description }

def bulletedSuggestion (description : Text) : Finding :=
  { category := .bestPractice, severity := .low, description }

-- Lines with the offset of their first character.
def placed (offset : Nat) : List Text → List (Nat × Text)
  | [] => []
  | line :: rest => (offset, line) :: placed (offset + line.length + 1) rest

-- Trimmed lines that are not blank and not among the lines already taken.
def openLines (taken : List Nat) (text : Text) : List Text :=
  (placed 0 (Text.lines text)).filterMap fun (offset, line) =>
    let line := Text.trim line
    if line.isEmpty || taken.contains offset then none else some line

def wordedIssue (line : Text) : Finding :=
  { category := .security, severity := .high, description := line }

def wordedSuggestion (line : Text) : Finding :=
  { category := .performance, severity := .low, description := line }

-- Each line gives at most one finding: bulleted issues first, then bulleted suggestions on lines
-- that hold neither an issue nor the summary, then words on the lines that are left.
def parse (filename text : Text) : FileReview :=
  let summary := findSummary text
  let summaryLines := (summary.map fun found => lineOf found.bodyStart).toList
  let issueBullets := issueBullet.all text
  let taken := summaryLines ++ issueBullets.map fun found => lineOf found.start
  let suggestionBullets :=
    (suggestionBullet.all text).filter fun found => !taken.contains (lineOf found.start)
  let taken := taken ++ suggestionBullets.map fun found => lineOf found.start
  let rest := openLines taken text
  let secure := rest.filter securityWord.foundIn
  let slow := rest.filter fun line => !securityWord.foundIn line && performanceWord.foundIn line
  let issues :=
    issueBullets.map (fun found => bulletedIssue (Text.trim found.text)) ++ secure.map wordedIssue
  let suggestions :=
    suggestionBullets.map (fun found => bulletedSuggestion (Text.trim found.text)) ++
      slow.map wordedSuggestion
  let title := ((summary? text).map (·.1)).getD []
  { filename, rating := Scan.rate issues true
    summary := if title.isEmpty then withoutSummary else title
    issues, suggestions, source := .llm }

end Prose
end PatchReview
