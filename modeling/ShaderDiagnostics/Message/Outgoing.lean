import ShaderDiagnostics.Client.Support
import ShaderDiagnostics.Diagnostic
import ShaderDiagnostics.Message.Incoming
import ShaderDiagnostics.Token
import ShaderDiagnostics.Uri.Reference

/-!
# Messages of the server

What the server tells, asks and answers, and the JSON by which it does so.
-/

namespace ShaderDiagnostics

open Number (Binary64)

/-- How the server is used, without anything that could tell by whom. -/
structure Usage where
  /-- The number of known documents. -/
  documents : Nat
  /-- The mean length of those whose text is known, in characters. -/
  averageLength : Binary64
  /-- Whether validation is switched on. -/
  enabled : Bool
  /-- Whether documents that are not open are validated. -/
  workspace : Bool
  /-- Whether whole lines are marked. -/
  wholeLine : Bool
  /-- The target environment set. -/
  targetEnvironment : String
  /-- The language version set. -/
  version : String
  /-- Whether there is a validator. -/
  validatorAvailable : Bool
  /-- How many times it has run. -/
  validations : Nat
  /-- The mean time of a run, in milliseconds. -/
  averageTime : Binary64

/-- What the server tells. -/
inductive Notice where
  /-- The diagnostics of a document, perhaps with a number that grows. -/
  | diagnostics (uri : Uri) (found : List Diagnostic) (version : Option Int)
  /-- Something went wrong. -/
  | trouble (name message : String)
  /-- How the server is used. -/
  | usage (u : Usage)
  /-- Anything else. -/
  | other (method : String) (params : Json)

/-- What the server asks for. -/
inductive Question where
  /-- To ask for diagnostics again. -/
  | refresh
  /-- Our section of the settings. -/
  | settings
  /-- To be told when settings change. -/
  | followSettings
  /-- To be told about files with these extensions. -/
  | watch (extensions : List String)
  /-- Not to be told about files any more. -/
  | unwatch
  /-- Anything else. -/
  | other (method : String) (params : Json)

/-- A report on a document: its diagnostics, under the name of the token if they come from a validation,
or that those under the token are still right. -/
inductive DocumentReport where
  /-- These are the diagnostics. -/
  | full (token : Option Token) (items : List Diagnostic)
  /-- The diagnostics of the token have not changed. -/
  | unchanged (token : Token)
  deriving DecidableEq

/-- What the server answers. -/
inductive Reply where
  /-- Nothing to say. -/
  | done
  /-- A report on a document. -/
  | document (r : DocumentReport)
  /-- Reports on the documents of the workspace. -/
  | workspace (rs : List (Uri × DocumentReport))
  /-- Anything else. -/
  | other (result : Json)

/-- Messages of the server. The numbers of its questions are their ids. -/
inductive Outgoing where
  /-- It tells something. -/
  | notice (n : Notice)
  /-- It asks for something. -/
  | question (number : Nat) (q : Question)
  /-- It answers a request. -/
  | reply (id : RequestId) (r : Reply)
  /-- It says why a request cannot be answered. -/
  | refusal (id : RequestId) (code : Int) (message : String)

/-! ### As JSON -/

/-- The usage as JSON. -/
def Usage.toJson (u : Usage) : Json :=
  Json.object [("type", .str "report"), ("documentCount", .nat u.documents),
    ("averageDocumentLength", .float u.averageLength), ("diagnosticsEnabled", .bool u.enabled),
    ("workspaceDiagnostics", .bool u.workspace), ("markTheWholeLine", .bool u.wholeLine),
    ("configurationTargetEnvironment", .str u.targetEnvironment),
    ("configurationGlslVersion", .str u.version),
    ("validatorAvailable", .bool u.validatorAvailable), ("validationCount", .nat u.validations),
    ("averageValidationMillis", .float u.averageTime)]

/-- The method and the parameters of a notice. -/
def Notice.parts : Notice → String × Json
  | diagnostics uri found version =>
    ("textDocument/publishDiagnostics",
      Json.present [("uri", some (.str uri.text)),
        ("diagnostics", some (.arr (found.map Diagnostic.toJson))), ("version", version.map Json.int)])
  | trouble name message =>
    ("telemetry/event",
      Json.object [("type", .str "error"), ("name", .str name), ("message", .str message)])
  | usage u => ("telemetry/event", u.toJson)
  | other method params => (method, params)

/-- The name under which files are watched. -/
def watchName : String := "glsl-lsp/file-watchers"

/-- The name under which settings are followed. -/
def followName : String := "glsl-lsp/configuration"

/-- The method by which editors tell about files. -/
def watchMethod : String := "workspace/didChangeWatchedFiles"

/-- The method by which editors tell about settings. -/
def followMethod : String := "workspace/didChangeConfiguration"

/-- The parameters of a question that registers one thing. -/
def registrationParams (name method : String) (options : Option Json) : Json :=
  Json.object [("registrations", .arr [Json.present [("id", some (.str name)),
    ("method", some (.str method)), ("registerOptions", options)]])]

/-- The files with an extension, to be watched for anything that may happen to them. -/
def watcher (extension : String) : Json :=
  Json.object [("globPattern", .str ("**/*" ++ extension)), ("kind", .int 7)]

/-- The method by which the editor is asked for settings. -/
def settingsMethod : String := "workspace/configuration"

/-- The method and the parameters of a question. -/
def Question.parts : Question → String × Json
  | refresh => ("workspace/diagnostic/refresh", .null)
  | settings =>
    (settingsMethod, Json.object [("items", .arr [Json.object [("section", .str "glslLanguageServer")]])])
  | followSettings => ("client/registerCapability", registrationParams followName followMethod none)
  | watch extensions =>
    ("client/registerCapability", registrationParams watchName watchMethod
      (some (Json.object [("watchers", .arr (extensions.map watcher))])))
  | unwatch =>
    ("client/unregisterCapability", Json.object [("unregisterations",
      .arr [Json.object [("id", .str watchName), ("method", .str watchMethod)]])])
  | other method params => (method, params)

/-- The members of a report. -/
def DocumentReport.members : DocumentReport → List (String × Option Json)
  | full token items =>
    [("kind", some (.str "full")), ("resultId", token.map fun t => .str t.text),
      ("items", some (.arr (items.map Diagnostic.toJson)))]
  | unchanged token => [("kind", some (.str "unchanged")), ("resultId", some (.str token.text))]

/-- A report as JSON. -/
def DocumentReport.toJson (r : DocumentReport) : Json := Json.present r.members

/-- A report on a document of the workspace as JSON. -/
def DocumentReport.toWorkspaceJson (uri : Uri) (r : DocumentReport) : Json :=
  Json.present ([("uri", some (.str uri.text)), ("version", some .null)] ++ r.members)

/-- An answer as JSON. -/
def Reply.toJson : Reply → Json
  | done => .null
  | document r => r.toJson
  | workspace rs => Json.object [("items", .arr (rs.map fun r => r.2.toWorkspaceJson r.1))]
  | other result => result

/-- The id of a question. -/
def questionId (number : Nat) : RequestId := .text ("glsl-lsp/" ++ toString number)

/-- A method with its parameters; those that are `null` are left out. -/
def methodMembers (parts : String × Json) : List (String × Option Json) :=
  [("method", some (.str parts.1)), ("params", if parts.2 == .null then none else some parts.2)]

/-- A message as JSON, without the member that names the version of the message format. -/
def Outgoing.toJson : Outgoing → Json
  | notice n => Json.present (methodMembers n.parts)
  | question number q =>
    Json.present (("id", some (questionId number).toJson) :: methodMembers q.parts)
  | reply id r => Json.object [("id", id.toJson), ("result", r.toJson)]
  | refusal id code message =>
    Json.object [("id", id.toJson),
      ("error", Json.object [("code", .int code), ("message", .str message)])]

/-! ### The way to the editor -/

/-- The way to the editor: the messages sent so far and the number of the next question. -/
structure Outbox where
  /-- The messages sent, the latest first. -/
  sent : List Outgoing
  /-- The number of the next question. -/
  next : Nat

namespace Outbox

/-- Nothing sent yet. -/
def empty : Outbox := ⟨[], 1⟩

/-- The messages sent after the first so many, in the order in which they were sent. -/
def since (o : Outbox) (count : Nat) : List Outgoing := o.sent.reverse.drop count

/-- Sends a message. -/
def send (o : Outbox) (m : Outgoing) : Outbox := { o with sent := m :: o.sent }

/-- Tells something. -/
def tell (o : Outbox) (n : Notice) : Outbox := o.send (.notice n)

/-- Asks for something. -/
def ask (o : Outbox) (q : Question) : Outbox :=
  { sent := .question o.next q :: o.sent, next := o.next + 1 }

/-- Publishes diagnostics if the editor takes them, with their number if it wants one. -/
def publish (o : Outbox) (d : Delivery) (uri : Uri) (found : List Diagnostic) (sequence : Int) :
    Outbox :=
  match d with
  | .push versions => o.tell (.diagnostics uri found (if versions then some sequence else none))
  | _ => o

/-- Asks the editor to ask for diagnostics again, if it can be asked to. -/
def refresh (o : Outbox) (d : Delivery) : Outbox :=
  match d with
  | .pull true => o.ask .refresh
  | _ => o

end Outbox

end ShaderDiagnostics
