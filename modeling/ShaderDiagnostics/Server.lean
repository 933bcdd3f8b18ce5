import ShaderDiagnostics.Json.Shape
import ShaderDiagnostics.Session

/-!
# The server

The life of a connection. First the editor says what it can do and the server answers what it can do; then
the editor says that it is ready, and the session begins. Other requests that come too early are refused,
and other messages end the connection, as do parameters that cannot be read. A connection has ended well
if the editor asked to shut down before it left.
-/

namespace ShaderDiagnostics

open Json (Decoder Fault Shape)

/-- Why a connection ended badly. -/
inductive ServerFault where
  /-- Something else came in place of the first request. -/
  | expectedInitialize
  /-- Something else came in place of the editor's word that it is ready. -/
  | expectedInitialized
  /-- The editor left before the session began. -/
  | disconnected
  /-- The parameters of the first request cannot be read. -/
  | badParameters (fault : Fault)
  /-- A message cannot be read. -/
  | badMessage (fault : Fault)
  /-- The editor left the session without a request to shut down. -/
  | noShutdown

/-- The wording of a fault. -/
def ServerFault.message : ServerFault → String
  | expectedInitialize => "expected initialize request"
  | expectedInitialized => "expected initialized notification"
  | disconnected => "disconnected channel"
  | badParameters fault => fault.message
  | badMessage fault => fault.message
  | noShutdown => "connection closed without a shutdown request"

/-- How far a connection has come. -/
inductive Phase where
  /-- The editor has not said what it can do. -/
  | silent (outbox : Outbox)
  /-- The server has answered; the session that will begin. -/
  | greeted (session : Session)
  /-- The session goes on. -/
  | inSession (session : Session)
  /-- The connection has ended, badly if there is a fault. -/
  | ended (outbox : Outbox) (fault : Option ServerFault)

/-- A connection to an editor. -/
structure Server where
  /-- The host. -/
  host : Host
  /-- How far it has come. -/
  phase : Phase

namespace Server

/-- A connection at its start. -/
def start (host : Host) : Server := ⟨host, .silent Outbox.empty⟩

/-- The messages sent so far. -/
def outbox (s : Server) : Outbox :=
  match s.phase with
  | .silent outbox => outbox
  | .greeted session => session.service.outbox
  | .inSession session => session.service.outbox
  | .ended outbox _ => outbox

/-- The connection ends. -/
def stop (s : Server) (fault : Option ServerFault) : Server :=
  { s with phase := .ended s.outbox fault }

/-! ### The handshake -/

/-- The method of the first request. -/
def initializeMethod : String := "initialize"

/-- The notification by which the editor says that it is ready. -/
def initializedMethod : String := "initialized"

/-- The code of a request that comes before the first one. -/
def notInitialized : Int := -32002

/-- Reads the parameters of the first request: the options for us among them. -/
def initializeParams : Decoder (Option Json) :=
  Message.withProgress "InitializeParams" [
    .optional "processId" Decoder.u32 Message.unused,
    .optional "rootPath" Decoder.string Message.unused,
    .optional "rootUri" Decoder.uri Message.unused,
    .optional "initializationOptions" Decoder.any fun options _ => options,
    .required "capabilities" Client.capabilities Message.unused,
    .optional "trace" (Decoder.word ["off", "messages", "verbose"]) Message.unused,
    .optional "workspaceFolders" (Decoder.list (Shape.record "WorkspaceFolder" [
      Shape.required "uri" fun j => (Decoder.uri j).map fun u => .str u.text,
      Shape.required "name" Shape.string])) Message.unused,
    .optional "clientInfo" (Shape.record "ClientInfo" [
      Shape.required "name" Shape.string, Shape.optional "version" Shape.string]) Message.unused,
    .optional "locale" Decoder.string Message.unused]
    ["workDoneToken"] none

/-- The server's own name and version. -/
def info : Json := Json.object [("name", .str "glsl-lsp"), ("version", .str "0.1.0")]

/-- The settings among the options for us; options that cannot be read do not count. -/
def settingsOf (options : Option Json) : Settings :=
  match options with
  | none => Settings.standard
  | some j =>
    match Settings.decode j with
    | .ok settings => settings
    | .error _ => Settings.standard

/-- The session that begins after the first request. -/
def sessionOf (s : Server) (capabilities : Json) (options : Option Json) (outbox : Outbox) : Session :=
  (Session.start s.host (ClientSupport.ofCapabilities capabilities) (settingsOf options)).update
    fun v => { v with outbox }

/-- The answer to the first request. -/
def greeting (support : ClientSupport) : Json :=
  Json.object [("capabilities", support.serverCapabilities), ("serverInfo", info)]

/-- Handles the first request. -/
def greet (s : Server) (outbox : Outbox) (id : RequestId) (params : Json) : Server :=
  match initializeParams params with
  | .error e => s.stop (some (.badParameters e))
  | .ok options =>
    let session := s.sessionOf (params.get "capabilities") options outbox
    let session := session.update fun v => v.reply id (.other (greeting session.support))
    { s with phase := .greeted session }

/-- Handles a message before the first request. -/
def beforeGreeting (s : Server) (outbox : Outbox) : Incoming → Server
  | .request id method params =>
    if method = initializeMethod then s.greet outbox id params
    else
      let outbox := outbox.send (.refusal id notInitialized ServerFault.expectedInitialize.message)
      { s with phase := .silent outbox }
  | .notification method _ =>
    if method = Session.exitMethod then s.stop (some .expectedInitialize) else s
  | .response _ _ _ => s.stop (some .expectedInitialize)

/-! ### The whole connection -/

/-- How a session ends. -/
def outcome (session : Session) : Option ServerFault :=
  if session.shutdown then none else some .noShutdown

/-- Handles a message. -/
def receive (s : Server) (m : Incoming) : Server :=
  match s.phase with
  | .silent outbox => s.beforeGreeting outbox m
  | .greeted session =>
    match m with
    | .notification method _ =>
      if method = initializedMethod then { s with phase := .inSession session.initialized }
      else s.stop (some .expectedInitialized)
    | _ => s.stop (some .expectedInitialized)
  | .inSession session =>
    match session.handle m with
    | some session => { s with phase := .inSession session }
    | none => s.stop (outcome session)
  | .ended _ _ => s

/-- The editor has left. -/
def hangUp (s : Server) : Server :=
  match s.phase with
  | .silent _ => s.stop (some .disconnected)
  | .greeted _ => s.stop (some .disconnected)
  | .inSession session => s.stop (outcome session)
  | .ended _ _ => s

/-- The session, while it goes on. -/
def session? (s : Server) : Option Session :=
  match s.phase with
  | .inSession session => some session
  | _ => none

/-- The connection with something done to the service of its session. -/
def update (s : Server) (f : Service → Service) : Server :=
  match s.phase with
  | .inSession session => { s with phase := .inSession (session.update f) }
  | _ => s

end Server

end ShaderDiagnostics
