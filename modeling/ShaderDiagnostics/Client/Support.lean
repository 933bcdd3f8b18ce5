import ShaderDiagnostics.Client.Capabilities

/-!
# What the client supports

How diagnostics reach the editor is decided once, from its capabilities: they are pushed if it takes
them, else it pulls them if it can, else there are none. Capabilities that are not well formed count as
none at all.
-/

namespace ShaderDiagnostics

/-- How diagnostics reach the editor. -/
inductive Delivery where
  /-- The server publishes them; the editor may want a version with them. -/
  | push (versions : Bool)
  /-- The editor asks for them; the server may ask it to ask again. -/
  | pull (refresh : Bool)
  /-- They do not. -/
  | off
  deriving DecidableEq, Repr

namespace Delivery

/-- Whether diagnostics are published. -/
def isPush : Delivery → Bool
  | push _ => true
  | _ => false

/-- Whether diagnostics are asked for. -/
def isPull : Delivery → Bool
  | pull _ => true
  | _ => false

end Delivery

/-- What the editor can do. -/
structure ClientSupport where
  /-- How diagnostics reach it. -/
  delivery : Delivery
  /-- It answers questions for settings. -/
  answersSettings : Bool
  /-- It watches files that the server names. -/
  watchesFiles : Bool
  /-- It tells about changes of settings when the server asks it to. -/
  tellsSettings : Bool
  deriving DecidableEq, Repr

namespace ClientSupport

/-- A truth value at the end of a path of keys. -/
def flag? (j : Json) (keys : List String) : Option Bool :=
  match j.path? keys with
  | some (.bool b) => some b
  | _ => none

/-- A truth value at the end of a path of keys, false unless it is there. -/
def flag (j : Json) (keys : List String) : Bool := (flag? j keys).getD false

/-- How diagnostics reach an editor with well formed capabilities. Whether it can be asked to ask again
stands under a plural key as well, in the capabilities as they were sent, and that one goes first. -/
def deliveryOf (raw capabilities : Json) : Delivery :=
  if (capabilities.path? ["textDocument", "publishDiagnostics"]).isSome then
    .push (flag capabilities ["textDocument", "publishDiagnostics", "versionSupport"])
  else if (capabilities.path? ["textDocument", "diagnostic"]).isSome then
    .pull ((flag? raw ["workspace", "diagnostics", "refreshSupport"]).getD
      (flag capabilities ["workspace", "diagnostic", "refreshSupport"]))
  else .off

/-- What an editor can do that sent these capabilities. -/
def ofCapabilities (raw : Json) : ClientSupport :=
  let known :=
    match Client.capabilities raw with
    | .ok capabilities => capabilities
    | .error _ => .obj []
  { delivery := deliveryOf raw known
    answersSettings := flag known ["workspace", "configuration"]
    watchesFiles := flag known ["workspace", "didChangeWatchedFiles", "dynamicRegistration"]
    tellsSettings := flag known ["workspace", "didChangeConfiguration", "dynamicRegistration"] }

/-- The capabilities of the server for such an editor: documents are kept in step by edits, and an
editor that asks for diagnostics may also ask for those of the workspace. -/
def serverCapabilities (s : ClientSupport) : Json :=
  Json.present [
    ("textDocumentSync", some (.int 2)),
    ("diagnosticProvider",
      if s.delivery.isPull then
        some (Json.object [("identifier", .str "glslang"), ("interFileDependencies", .bool false),
          ("workspaceDiagnostics", .bool true)])
      else none)]

end ClientSupport

end ShaderDiagnostics
