import ShaderDiagnostics.Service.Record
import ShaderDiagnostics.Telemetry
import ShaderDiagnostics.Uri.File

/-!
# State of the service

Everything that the service knows at a moment: its settings, the documents open in the editor, the records
of all documents, the jobs that are not done, and what it has sent to the editor and asked of the host so
far. Time and the host come from outside; the state keeps how they stood last.

A job asks for the diagnostics of documents: to keep what has been published up to date, or to answer the
editor. Jobs go on when they are polled, in whatever order that happens.
-/

namespace ShaderDiagnostics

/-- A job's request for the diagnostics of a record. -/
structure Inquiry where
  /-- The number of the record. -/
  record : Nat
  /-- The token that the diagnostics must cover. -/
  token : Token
  /-- What a validation goes by that is started for it. -/
  snapshot : Snapshot
  /-- The run that it waits for, once it has asked. -/
  run : Option Nat

/-- How long a job waits before it asks. -/
inductive Delay where
  /-- So many milliseconds, from when the job is polled for the first time. -/
  | ahead (milliseconds : Nat)
  /-- Up to this time. -/
  | running (deadline : Nat)
  /-- No longer. -/
  | over
  deriving DecidableEq, Repr

/-- A document of the workspace that a report is asked for. -/
structure Target where
  /-- Its URI. -/
  uri : Uri
  /-- The name of the result that the editor has. -/
  previous : Option String
  /-- The request for its diagnostics. -/
  inquiry : Inquiry
  /-- Its report, once it is known; a document that could not be validated has none. -/
  answer : Option (Option DocumentReport)

/-- A job. -/
inductive Job where
  /-- Brings the diagnostics of a document up to date. -/
  | analysis (delay : Delay) (inquiry : Inquiry)
  /-- Answers a request for the diagnostics of a document. -/
  | pull (id : RequestId) (inquiry : Inquiry)
  /-- Answers a request for the diagnostics of the workspace. -/
  | workspace (id : RequestId) (targets : List Target)

/-- What has been asked of the host, and for which record. -/
inductive HostCall where
  /-- To read a document. -/
  | read (record : Nat) (path : Path)
  /-- To run the validator. -/
  | run (record : Nat) (invocation : Invocation)
  deriving DecidableEq, Repr

/-- A call with what the host answers to it, made for one of the validations of a record, which go by their
numbers in its cache. -/
inductive Exchange where
  /-- A document is read, for a version of its content. -/
  | read (record validation : Nat) (path : Path) (version : UInt32)
    (answer : Except ServiceError (List Char))
  /-- The validator is run. -/
  | run (record validation : Nat) (invocation : Invocation) (answer : Except ServiceError (List Char))

namespace Exchange

/-- What is asked. -/
def call : Exchange → HostCall
  | read record _ path _ _ => .read record path
  | run record _ invocation _ => .run record invocation

/-- Whether the host fails to do what is asked. -/
def failed : Exchange → Bool
  | read _ _ _ _ (.error _) => true
  | run _ _ _ (.error _) => true
  | _ => false

end Exchange

/-- The state of the service. -/
structure Service where
  /-- The host as it stood last. -/
  host : Host
  /-- The time, in milliseconds. -/
  clock : Nat
  /-- How diagnostics reach the editor. -/
  delivery : Delivery
  /-- The settings. -/
  settings : Settings
  /-- Grows with every change of the settings that matters to results. -/
  settingsVersion : UInt32
  /-- The validator, if there is one. -/
  validator : Option Path
  /-- Whether the settings are known, so that documents may be analyzed. -/
  ready : Bool
  /-- The documents open in the editor. -/
  editor : Editor
  /-- The records of documents. -/
  registry : Registry
  /-- The jobs that are not done, by their numbers, in the order in which they came. -/
  jobs : List (Nat × Job)
  /-- The number of the next job. -/
  nextJob : Nat
  /-- The gates that are closed. -/
  closed : List Nat
  /-- The number of the next gate. -/
  nextGate : Nat
  /-- The way to the editor. -/
  outbox : Outbox
  /-- What has been asked of the host and what it answers, the latest first. -/
  log : List Exchange
  /-- How long the validator took. -/
  measurements : Measurements

namespace Service

/-- The service at its start. If it waits for settings, nothing is analyzed until they come. -/
def start (host : Host) (delivery : Delivery) (settings : Settings) (waits : Bool) : Service where
  host
  clock := 0
  delivery
  settings
  settingsVersion := 0
  validator := host.resolve settings.validator
  ready := !waits
  editor := PathMap.empty
  registry := Registry.empty
  jobs := []
  nextJob := 0
  closed := []
  nextGate := 0
  outbox := Outbox.empty
  log := []
  measurements := Measurements.none

/-! ### What comes from outside -/

/-- The host has changed. -/
def withHost (s : Service) (host : Host) : Service := { s with host }

/-- Some time has passed. -/
def elapse (s : Service) (milliseconds : Nat) : Service :=
  { s with clock := s.clock + milliseconds }

/-- A gate has been opened. -/
def release (s : Service) (gate : Nat) : Service :=
  { s with closed := s.closed.filter (· != gate) }

/-! ### What the state says -/

/-- What has been asked of the host, the latest first. -/
def calls (s : Service) : List HostCall := s.log.map Exchange.call

/-- What a validation goes by that is asked for now. -/
def snapshot (s : Service) : Snapshot := ⟨s.settings, s.validator⟩

/-- The token of a record at this moment. -/
def tokenOf (s : Service) (r : Record) : Token := r.token s.settingsVersion

/-- Whether the token is still the one of the record. -/
def isCurrent (s : Service) (record : Nat) (token : Token) : Bool :=
  match s.registry.record? record with
  | some r => s.tokenOf r == token
  | none => false

/-- Whether the path belongs to a stage. -/
def isMapped (s : Service) (p : Path) : Bool := (s.settings.extensions.stageOfPath p).isSome

/-- Whether there should be diagnostics for a document at all. -/
def inScope (s : Service) (r : Record) : Bool :=
  !s.host.embedded && s.settings.diagnostics.enable &&
    (s.settings.diagnostics.workspace || r.opened)

/-- The record known under a path. -/
def recordAt? (s : Service) (p : Path) : Option Record :=
  (s.registry.find? p).bind s.registry.record?

/-! ### Small changes -/

/-- Changes a record. -/
def modifyRecord (s : Service) (id : Nat) (f : Record → Record) : Service :=
  { s with registry := s.registry.modify id f }

/-- Tells the editor something. -/
def tell (s : Service) (n : Notice) : Service := { s with outbox := s.outbox.tell n }

/-- Asks the editor for something. -/
def ask (s : Service) (q : Question) : Service := { s with outbox := s.outbox.ask q }

/-- Answers a request. -/
def reply (s : Service) (id : RequestId) (r : Reply) : Service :=
  { s with outbox := s.outbox.send (.reply id r) }

/-- Says why a request cannot be answered. -/
def refuse (s : Service) (id : RequestId) (code : Int) (message : String) : Service :=
  { s with outbox := s.outbox.send (.refusal id code message) }

/-- Tells the editor about an error. -/
def report (s : Service) (name : String) (e : ServiceError) : Service := s.tell (e.notice name)

/-- Asks the editor to ask for diagnostics again. -/
def refresh (s : Service) : Service := { s with outbox := s.outbox.refresh s.delivery }

/-- Publishes diagnostics of a record, if diagnostics are published and its path has a URI. -/
def publish (s : Service) (record : Nat) (found : List Diagnostic) : Service :=
  match s.registry.record? record with
  | none => s
  | some r =>
    if s.delivery.isPush then
      match Uri.ofPath? r.path with
      | none => s
      | some uri =>
        let s := s.modifyRecord record Record.advance
        { s with outbox := s.outbox.publish s.delivery uri found (r.sequence + 1).toInt }
    else s

/-- Adds a job. -/
def spawn (s : Service) (job : Job) : Service :=
  { s with jobs := s.jobs ++ [(s.nextJob, job)], nextJob := s.nextJob + 1 }

/-- A job by its number. -/
def job? (s : Service) (id : Nat) : Option Job := (s.jobs.find? fun j => j.1 == id).map (·.2)

/-- Puts a job in place of the one with its number. -/
def setJob (s : Service) (id : Nat) (job : Job) : Service :=
  { s with jobs := s.jobs.map fun j => if j.1 == id then (id, job) else j }

/-- Removes a job that is done. -/
def endJob (s : Service) (id : Nat) : Service := { s with jobs := s.jobs.filter fun j => j.1 != id }

end Service

end ShaderDiagnostics
