import ShaderDiagnostics.Json.Value

/-!
# Diagnostics

What a validator has to say about a place of a document.
-/

namespace ShaderDiagnostics

/-- A place in a document: a line, counted from zero, and a column in UTF-16 code units. -/
structure Position where
  /-- The line. -/
  line : Nat
  /-- The column. -/
  column : Nat
  deriving DecidableEq, Repr

/-- The text from one place up to another. -/
structure Range where
  /-- Where it starts. -/
  start : Position
  /-- Where it ends. -/
  stop : Position
  deriving DecidableEq, Repr

/-- How bad it is. -/
inductive Severity where
  /-- The shader is not valid. -/
  | error
  /-- The shader is valid but suspicious. -/
  | warning
  /-- The validator cannot tell. -/
  | information
  /-- A remark. -/
  | hint
  deriving DecidableEq, Repr

/-- The number by which editors know a severity. -/
def Severity.code : Severity → Nat
  | .error => 1
  | .warning => 2
  | .information => 3
  | .hint => 4

/-- One finding. -/
structure Diagnostic where
  /-- The text that is meant. -/
  range : Range
  /-- The severity, where the report gave one that is known. -/
  severity : Option Severity
  /-- Who found it. -/
  source : Option String
  /-- What is wrong. -/
  message : String
  deriving DecidableEq, Repr

/-- A place as JSON. -/
def Position.toJson (p : Position) : Json :=
  Json.object [("line", .nat p.line), ("character", .nat p.column)]

/-- A range as JSON. -/
def Range.toJson (r : Range) : Json :=
  Json.object [("start", r.start.toJson), ("end", r.stop.toJson)]

/-- A finding as JSON; what is not known is left out. -/
def Diagnostic.toJson (d : Diagnostic) : Json :=
  Json.present [("range", some d.range.toJson), ("severity", d.severity.map fun s => .nat s.code),
    ("source", d.source.map Json.str), ("message", some (.str d.message))]

end ShaderDiagnostics
