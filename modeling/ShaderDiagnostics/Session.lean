import ShaderDiagnostics.Service.Pull
import ShaderDiagnostics.Service.Usage

/-!
# Sessions

A session with an editor, from the end of the handshake on: every message is handled at once and in order,
while jobs answer later. Requests are always answered, sooner or later; a message that cannot be handled
changes nothing but is told to telemetry. After a request to shut down, requests are refused.

The settings come from the editor, which is asked for them at the start and whenever they change, if it
answers such questions; otherwise it sends them along when they change. The files to be watched follow
the extensions in the settings.
-/

namespace ShaderDiagnostics

open Json (Decoder)

/-- A session. -/
structure Session where
  /-- The service. -/
  service : Service
  /-- What the editor can do. -/
  support : ClientSupport
  /-- The numbers of the questions for settings that the editor has not answered. -/
  asked : List Nat
  /-- Whether files are watched. -/
  watching : Bool
  /-- Whether the editor has asked to shut down. -/
  shutdown : Bool

namespace Session

/-- A session at its start. An editor that answers questions for settings is waited for. -/
def start (host : Host) (support : ClientSupport) (settings : Settings) : Session where
  service := Service.start host support.delivery settings support.answersSettings
  support
  asked := []
  watching := false
  shutdown := false

/-- The session with something done to its service. -/
def update (s : Session) (f : Service → Service) : Session := { s with service := f s.service }

/-! ### Questions to the editor -/

/-- Has the files watched that belong to the settings, instead of those watched before. -/
def watchFiles (s : Session) : Session :=
  if s.support.watchesFiles then
    let s := if s.watching then s.update fun v => v.ask .unwatch else s
    { s.update fun v => v.ask (.watch v.settings.extensions.distinct) with watching := true }
  else s

/-- Asks the editor for the settings. -/
def askSettings (s : Session) : Session :=
  { s.update fun v => v.ask .settings with asked := s.asked ++ [s.service.outbox.next] }

/-- The handshake has ended. -/
def initialized (s : Session) : Session :=
  let s := s.watchFiles
  let s := if s.support.tellsSettings then s.update fun v => v.ask .followSettings else s
  if s.support.answersSettings then s.askSettings else s

/-! ### Settings -/

/-- The settings have been set. -/
def configure (s : Session) (settings : Settings) : Session :=
  let changed := s.service.settings.extensions != settings.extensions
  let s := s.update fun v => v.configure settings
  if changed then s.watchFiles else s

/-- Reads the settings from the editor's answer: a list with an item for each section asked for. -/
def answeredSettings (result : Json) : Except Json.Fault Settings :=
  match Decoder.list Decoder.any result with
  | .ok items => Settings.decode (items.head?.getD .null)
  | .error e => .error e

/-- The editor has answered a question for settings. Without a result the defaults count. -/
def settingsAnswered (s : Session) (result : Option Json) (error : Option String) : Session :=
  match error, result with
  | some _, _ => s.configure Settings.standard
  | none, none => s.configure Settings.standard
  | none, some result =>
    match answeredSettings result with
    | .ok settings => s.configure settings
    | .error e =>
      (s.update fun v => v.report settingsMethod (.payload e)).configure Settings.standard

/-- The editor tells that the settings have changed. -/
def settingsChanged (s : Session) (settings : Json) : Except ServiceError Session :=
  if s.support.answersSettings then .ok s.askSettings
  else
    match Settings.decodeSection settings with
    | .ok settings => .ok (s.configure settings)
    | .error e => .error (.payload e)

/-! ### Messages -/

/-- Reads the parameters of a message. -/
def params {α : Type} (d : Decoder α) (j : Json) : Except ServiceError α :=
  match d j with
  | .ok a => .ok a
  | .error e => .error (.payload e)

/-- The session with something done to its service that may fail. -/
def attempt (s : Session) (r : Except ServiceError Service) : Except ServiceError Session :=
  r.map fun service => { s with service }

/-- The code of a request that comes after the one to shut down. -/
def invalidRequest : Int := -32600

/-- The code of a request for something that there is not. -/
def methodNotFound : Int := -32601

/-- The editor asks to shut down. -/
def onShutdown (s : Session) (id : RequestId) : Session :=
  { s.update fun v => (v.tell (.usage v.usage)).reply id .done with shutdown := true }

/-- Carries out a request that a job will answer. -/
def beginRequest (s : Session) (id : RequestId) (method : String) (j : Json) :
    Option (Except ServiceError Session) :=
  if method = Service.pullMethod then
    some ((params Message.documentPull j).bind fun p => s.attempt (s.service.pullDocument id p))
  else if method = Service.workspacePullMethod then
    some ((params Message.workspacePull j).map fun known =>
      s.update fun v => v.pullWorkspace id known)
  else none

/-- Handles a request. -/
def onRequest (s : Session) (id : RequestId) (method : String) (j : Json) : Session :=
  if s.shutdown then s.update fun v => v.refuse id invalidRequest "server is shutting down"
  else if method = "shutdown" then s.onShutdown id
  else
    match s.beginRequest id method j with
    | none => s.update fun v => v.refuse id methodNotFound ("Unhandled request: " ++ method)
    | some (.ok s) => s
    | some (.error e) =>
      s.update fun v => (v.report method e).refuse id Service.internalError e.message

/-- Carries out a notification; those that mean nothing to the server change nothing. -/
def carryOut (s : Session) (method : String) (j : Json) : Except ServiceError Session :=
  match method with
  | "textDocument/didOpen" =>
    (params Message.opened j).bind fun o =>
      s.attempt (s.service.didOpen o.uri o.text.toList o.version)
  | "textDocument/didChange" =>
    (params Message.changed j).bind fun c => s.attempt (s.service.didChange c.uri c.edits c.version)
  | "textDocument/didClose" =>
    (params Message.closed j).bind fun uri => s.attempt (s.service.didClose uri)
  | "workspace/didChangeWatchedFiles" =>
    (params Message.watched j).map fun events => s.update fun v => v.didChangeFiles events
  | "workspace/didChangeConfiguration" =>
    (params Message.settingsChanged j).bind fun settings => s.settingsChanged settings
  | _ => .ok s

/-- Handles a notification. -/
def onNotification (s : Session) (method : String) (j : Json) : Session :=
  match s.carryOut method j with
  | .ok s => s
  | .error e => s.update fun v => v.report method e

/-- Handles a response. Only answers to questions for settings matter. -/
def onResponse (s : Session) (id : RequestId) (result : Option Json) (error : Option String) :
    Session :=
  if s.asked.any fun n => questionId n == id then
    { s with asked := s.asked.filter fun n => questionId n != id }.settingsAnswered result error
  else s

/-- The notification that ends a session. -/
def exitMethod : String := "exit"

/-- Handles a message; without a session left, the session has ended. -/
def handle (s : Session) : Incoming → Option Session
  | .request id method j => some (s.onRequest id method j)
  | .response id result error => some (s.onResponse id result error)
  | .notification method j => if method = exitMethod then none else some (s.onNotification method j)

end Session

end ShaderDiagnostics
