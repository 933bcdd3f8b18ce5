import ShaderDiagnostics.Json.Fault
import ShaderDiagnostics.Path

/-!
# Errors

What can go wrong while documents are served, by cause, and the wording of each cause.
-/

namespace ShaderDiagnostics

/-- Causes of failure. -/
inductive ServiceError where
  /-- A URI or path that names no local file the other way round. -/
  | invalidUri (text : String)
  /-- A document that is open but that the editor never sent. -/
  | openDocumentMissing (path : Path)
  /-- A document that could not be read. -/
  | readDocument (path : Path) (cause : String)
  /-- A validator that could not be started. -/
  | spawnValidator (program : Path) (cause : String)
  /-- A validator that could not be fed or heard. -/
  | validatorIo (program : Path) (cause : String)
  /-- A message that does not have the form it should. -/
  | payload (fault : Json.Fault)

namespace ServiceError

/-- The wording of an error. -/
def message : ServiceError → String
  | invalidUri text => "not a file uri: " ++ text
  | openDocumentMissing path =>
    "document " ++ path.text ++ " is open but missing from the open-document table"
  | readDocument path cause => "failed to read " ++ path.text ++ ": " ++ cause
  | spawnValidator program cause => "failed to start validator " ++ program.text ++ ": " ++ cause
  | validatorIo program cause => "validator " ++ program.text ++ " I/O failed: " ++ cause
  | payload fault => "invalid protocol payload: " ++ fault.message

/-- The wording of what lies behind an error. -/
def cause? : ServiceError → Option String
  | invalidUri _ => none
  | openDocumentMissing _ => none
  | readDocument _ cause => some cause
  | spawnValidator _ cause => some cause
  | validatorIo _ cause => some cause
  | payload fault => some fault.message

/-- The error followed by what lies behind it. -/
def chain (e : ServiceError) : String :=
  match e.cause? with
  | some cause => e.message ++ ": " ++ cause
  | none => e.message

end ServiceError

end ShaderDiagnostics
