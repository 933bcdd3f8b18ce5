import ShaderDiagnostics.Pattern.Search
import ShaderDiagnostics.Text.Utf16

/-!
# Comments

Comments of one line are blanked out before a snippet is searched for, so that nothing is found inside
them and every column stays where it was: each character of a comment becomes as many spaces as it has
UTF-16 code units. A block comment that does not end on the line runs to the end of the line.
-/

namespace ShaderDiagnostics.Report

open Pattern

/-- Any character but a line feed. -/
def inLine (c : Char) : Bool := c != '\n'

/-- A comment: a closed block, else an open one, else the rest of the line. -/
def commentPattern : Pattern :=
  .alt (.seq (literal ['/', '*']) (.seq (.star (.one inLine) true) (literal ['*', '/'])))
    (.alt (.seq (literal ['/', '*']) (.star (.one inLine) false))
      (.seq (literal ['/', '/']) (.star (.one inLine) false)))

/-- As many spaces as the text has columns. -/
def blanks (s : List Char) : List Char := List.replicate (Text.width s) ' '

/-- The line with its comments blanked out. -/
def stripComments (line : List Char) : List Char := commentPattern.replaceAll blanks line

end ShaderDiagnostics.Report
