import ShaderDiagnostics.Pattern.Search
import ShaderDiagnostics.Text.Blank

/-!
# Redaction

Texts that leave the machine must not show where files lie. Whatever looks like a path, with or without a
drive, is replaced by a placeholder.
-/

namespace ShaderDiagnostics.Redaction

open Pattern

/-- The separators of paths. -/
def isSeparator (c : Char) : Bool := c == '\\' || c == '/'

/-- Characters that names in paths do not have. -/
def isExcluded (c : Char) : Bool :=
  isSeparator c || c == ':' || c == '*' || c == '?' || c == '"' || c == '<' || c == '>' ||
    c == '|' || Text.isBlank c

/-- Characters of names in paths. -/
def isNameChar (c : Char) : Bool := !isExcluded c

/-- A separator and a name. -/
def segment : Pattern := .seq (.one isSeparator) (plus (.one isNameChar) false)

/-- A path: perhaps a drive, one or more separated names, perhaps a separator at the end. -/
def pathPattern : Pattern :=
  .seq (opt (.seq (.one Char.isAlpha) (char ':')) false)
    (.seq (plus segment false) (opt (.one isSeparator) false))

/-- What stands in place of a path. -/
def placeholder : List Char := "<path>".toList

/-- The text with every path replaced. -/
def redact (s : List Char) : List Char := pathPattern.replaceAll (fun _ => placeholder) s

/-- The string with every path replaced. -/
def redactString (s : String) : String := String.ofList (redact s.toList)

end ShaderDiagnostics.Redaction
