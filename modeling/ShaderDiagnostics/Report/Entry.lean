import ShaderDiagnostics.Report.Severity
import ShaderDiagnostics.Report.Snippet
import ShaderDiagnostics.Text.Decimal
import ShaderDiagnostics.Text.Lines

/-!
# Report entries

A line of a validator's report has the form `severity: string:line: 'snippet' : description`, where
the place and the snippet may be missing. Such a line becomes a diagnostic, unless its description is
one of those that say nothing about the shader. Line numbers count from one; a number that is no line of
the source stands for its first line.
-/

namespace ShaderDiagnostics.Report

open Pattern Text

/-- How diagnostics are built from entries. -/
structure Marking where
  /-- Mark the whole line instead of the snippet. -/
  wholeLine : Bool
  deriving DecidableEq, Repr

/-- The source named by every diagnostic. -/
def sourceName : String := "glslang"

/-- Descriptions that contain one of these are dropped. -/
def ignoredMessages : List String :=
  ["No code generated", "compilation terminated", "Missing entry point"]

/-- Whether the description says nothing about the shader. -/
def isIgnored (description : List Char) : Bool :=
  ignoredMessages.any fun m => contains description m.toList

/-- Letters of severities: those of ASCII and the two other letters equal to one without regard to
case. -/
def isSeverityLetter (c : Char) : Bool := c.isAlpha || c == '\u017f' || c == '\u212a'

/-- Any number of blanks. -/
def someBlanks : Pattern := .star (.one isBlank) false

/-- One or more characters of a class. -/
def many (chars : Unicode.CharClass) : Pattern := plus (.one chars) false

/-- The form of an entry. -/
def entryPattern : Pattern :=
  sequence [
    .anchor .textStart,
    .group "severity"
      (.seq (many isSeverityLetter) (.star (.seq (char ' ') (many isSeverityLetter)) false)),
    someBlanks, char ':', someBlanks,
    opt (sequence [many Unicode.isDecimalDigit, char ':',
      .group "line" (many Unicode.isDecimalDigit), char ':', someBlanks]) false,
    opt (sequence [char '\'', .group "snippet" (.star (.one inLine) true), char '\'', someBlanks,
      char ':', someBlanks]) false,
    .group "description" (many inLine),
    .anchor .textEnd]

/-- The parts of an entry. -/
structure Entry where
  /-- The words that give the severity. -/
  severity : List Char
  /-- The number of the line, if it is one. -/
  line : Option Nat
  /-- The snippet, if there is one that is not empty. -/
  snippet : Option (List Char)
  /-- The description, without blanks around it. -/
  description : List Char
  deriving DecidableEq, Repr

/-- Takes a report line apart. -/
def Entry.ofLine? (line : List Char) : Option Entry :=
  match entryPattern.captures? (trim line) with
  | none => none
  | some found =>
    match found.group? "severity", found.group? "description" with
    | some severity, some description =>
      some {
        severity
        line := (found.group? "line").bind (readNat UInt64.size)
        snippet := (found.group? "snippet").filter (!·.isEmpty)
        description := trim description }
    | _, _ => none

/-- The index of the line that a number stands for in a source of `count` lines. -/
def lineIndex (count : Nat) : Option Nat → Nat
  | some n => if 1 ≤ n && n ≤ count then n - 1 else 0
  | none => 0

/-- The columns that an entry means on its line. -/
def Entry.columns (e : Entry) (line : List Char) (marking : Marking) : Columns :=
  if marking.wholeLine then lineColumns line
  else (e.snippet.bind (findSnippet line)).getD (trimmedColumns line)

/-- The message of an entry: its snippet in quotes, then its description. -/
def Entry.message (e : Entry) : List Char :=
  match e.snippet with
  | some snippet => ['\''] ++ snippet ++ ['\'', ' ', ':', ' '] ++ e.description
  | none => e.description

/-- The diagnostic of an entry. -/
def Entry.diagnostic (e : Entry) (lines : List (List Char)) (marking : Marking) : Diagnostic :=
  let index := lineIndex lines.length e.line
  let columns := e.columns (lines[index]?.getD []) marking
  { range := ⟨⟨index, columns.start⟩, ⟨index, columns.stop⟩⟩
    severity := severityOf e.severity
    source := some sourceName
    message := String.ofList e.message }

/-- The diagnostic of a report line, if it is one. -/
def readLine (lines : List (List Char)) (marking : Marking) (line : List Char) :
    Option Diagnostic :=
  match Entry.ofLine? line with
  | none => none
  | some e => if isIgnored e.description then none else some (e.diagnostic lines marking)

/-- The diagnostics of a report on a source. -/
def read (marking : Marking) (source report : List Char) : List Diagnostic :=
  (reportLines report).filterMap (readLine (sourceLines source) marking)

end ShaderDiagnostics.Report
