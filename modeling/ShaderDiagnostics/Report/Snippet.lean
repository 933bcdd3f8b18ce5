import ShaderDiagnostics.Pattern.Reader
import ShaderDiagnostics.Report.Comment
import ShaderDiagnostics.Text.Blank

/-!
# Snippets

A report quotes a snippet of the line it complains about but gives no column. The snippet is searched
for in the line without its comments: a word as a whole word, anything else as the pattern it writes.
Only a snippet that is found exactly once says which columns are meant; otherwise the line without the
blanks around it is.
-/

namespace ShaderDiagnostics.Report

open Pattern Text

/-- Columns from a start to an end. -/
structure Columns where
  /-- The first column. -/
  start : Nat
  /-- The column behind the last one. -/
  stop : Nat
  deriving DecidableEq, Repr

/-- Whether the text is one word. -/
def isIdentifier (s : List Char) : Bool := !s.isEmpty && s.all Unicode.isWord

/-- The text as a whole word. -/
def wholeWord (s : List Char) : Pattern :=
  .seq (.anchor (.boundary Unicode.isWord)) (.seq (literal s) (.anchor (.boundary Unicode.isWord)))

/-- The pattern by which a snippet is searched, unless it writes none. -/
def snippetPattern (snippet : List Char) : Option Pattern :=
  if isIdentifier snippet then some (wholeWord snippet) else Pattern.read snippet

/-- The columns of the only match of a snippet in a line outside its comments. -/
def findSnippet (line snippet : List Char) : Option Columns :=
  let stripped := stripComments line
  match snippetPattern snippet with
  | none => none
  | some p =>
    match p.matches_ stripped with
    | [m] => some ⟨width (stripped.take m.start), width (stripped.take m.stop)⟩
    | _ => none

/-- The columns of a line without the blanks around it; a blank line has none. -/
def trimmedColumns (line : List Char) : Columns :=
  let kept := trimEnd line
  ⟨width (kept.takeWhile isBlank), width kept⟩

/-- The columns of the whole line. -/
def lineColumns (line : List Char) : Columns := ⟨0, width line⟩

end ShaderDiagnostics.Report
