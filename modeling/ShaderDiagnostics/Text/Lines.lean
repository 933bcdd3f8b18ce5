/-!
# Lines

Two ways to cut a text into lines. A source is cut at every line feed, and a carriage return at the end
of a line is not part of it, so an empty source has one line. A report is read line by line: a line
that the text leaves open at its end counts as it stands, and nothing follows a final line feed.
-/

namespace ShaderDiagnostics.Text

/-- Cuts a text at every line feed. -/
def splitLines : List Char → List (List Char)
  | [] => [[]]
  | c :: rest =>
    if c == '\n' then [] :: splitLines rest
    else
      match splitLines rest with
      | [] => [[c]]
      | line :: lines => (c :: line) :: lines

/-- A line without the carriage return at its end. -/
def dropReturn : List Char → List Char
  | [] => []
  | [c] => if c == '\r' then [] else [c]
  | c :: d :: rest => c :: dropReturn (d :: rest)

/-- The lines of a source. -/
def sourceLines (s : List Char) : List (List Char) := (splitLines s).map dropReturn

/-- Closed lines lose a carriage return; the open line at the end keeps it, and vanishes when empty. -/
def closeLines : List (List Char) → List (List Char)
  | [] => []
  | [open_] => if open_ = [] then [] else [open_]
  | line :: next :: rest => dropReturn line :: closeLines (next :: rest)

/-- The lines of a report. -/
def reportLines (s : List Char) : List (List Char) := closeLines (splitLines s)

theorem splitLines_ne_nil (s : List Char) : splitLines s ≠ [] := by
  cases s with
  | nil => simp [splitLines]
  | cons c rest =>
    simp only [splitLines]
    split
    · simp
    · split <;> simp

/-- A source has at least one line. -/
theorem sourceLines_ne_nil (s : List Char) : sourceLines s ≠ [] := by
  simp [sourceLines, splitLines_ne_nil]

end ShaderDiagnostics.Text
