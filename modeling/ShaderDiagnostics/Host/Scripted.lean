import ShaderDiagnostics.Host.Basic
import ShaderDiagnostics.PathMap
import ShaderDiagnostics.Report.Severity
import ShaderDiagnostics.Text.Decimal
import ShaderDiagnostics.Text.Lines

/-!
# Scripted hosts

A host made of data, to see how the server behaves: files in memory, validators that cannot be found, and
rules for what a validator prints. Without a rule it complains about every line that contains the word
`bad`.
-/

namespace ShaderDiagnostics

/-- What a run of the validator comes to. -/
inductive Behaviour where
  /-- It prints a report. -/
  | prints (report : List Char)
  /-- It does not start. -/
  | doesNotStart (cause : String)
  /-- It breaks down. -/
  | breaksDown (cause : String)

/-- What a run comes to if its input contains a text. -/
structure HostRule where
  /-- The text. -/
  contains : List Char
  /-- What the run comes to. -/
  behaviour : Behaviour

/-- A host made of data. -/
structure ScriptedHost where
  /-- The files. -/
  files : PathMap (List Char)
  /-- Validators that cannot be found. -/
  missing : List String
  /-- The rules, of which the first that fits counts. -/
  rules : List HostRule
  /-- Whether runs are held back. -/
  holdsRuns : Bool
  /-- Whether reads are held back. -/
  holdsReads : Bool

namespace ScriptedHost

/-- The complaint about a line with the word `bad`. -/
def complaint (number : Nat) : List Char :=
  "ERROR: 0:".toList ++ Text.natText number ++ ": 'bad' : undeclared identifier\n".toList

/-- The complaints about the lines of a text, the first of which has the given number. -/
def complaints : Nat → List (List Char) → List Char
  | _, [] => []
  | n, line :: rest =>
    (if Report.contains line "bad".toList then complaint n else []) ++ complaints (n + 1) rest

/-- What a run comes to. -/
def behaviour (h : ScriptedHost) (i : Invocation) : Behaviour :=
  match h.rules.find? fun r => Report.contains i.input r.contains with
  | some r => r.behaviour
  | none => .prints (complaints 1 (Text.reportLines i.input))

/-- The host that a script describes. -/
def host (h : ScriptedHost) : Host where
  embedded := false
  resolve name := if h.missing.contains name then none else some (Path.ofString name)
  read p :=
    match h.files.get? p with
    | some text => .ok text
    | none => .error (.readDocument p "no such file")
  run i :=
    match h.behaviour i with
    | .prints report => .ok report
    | .doesNotStart cause => .error (.spawnValidator i.program cause)
    | .breaksDown cause => .error (.validatorIo i.program cause)
  holdsReads := h.holdsReads
  holdsRuns := h.holdsRuns

end ScriptedHost

end ShaderDiagnostics
