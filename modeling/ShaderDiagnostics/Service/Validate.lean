import ShaderDiagnostics.Report.Entry
import ShaderDiagnostics.Service.State

/-!
# Validation

A validation takes a document from its text to its diagnostics. It goes by the settings and the validator
of the moment it was asked for, and takes the text when it begins. A document that belongs to no stage, or
for which there is no validator, has no diagnostics, and neither is its text read. At the end the
diagnostics are published, unless the document or the settings have moved on in the meantime, and the
outcome goes to the record's cache.
-/

namespace ShaderDiagnostics.Service

/-- A validation of a record. -/
def validation? (s : Service) (record run : Nat) : Option (Run Token Validation (List Diagnostic) ServiceError) :=
  (s.registry.record? record).bind fun r => r.results.run? run

/-- Notes how far a validation has come. -/
def setProgress (s : Service) (record run : Nat) (p : Progress) : Service :=
  s.modifyRecord record fun r =>
    { r with results := r.results.modifyWork run fun v => { v with progress := p } }

/-- Ends a validation: its diagnostics are published if its token is still current, and the outcome goes
to the cache. -/
def conclude (s : Service) (record run : Nat) (token : Token)
    (outcome : Except ServiceError (List Diagnostic)) : Service :=
  let s :=
    match outcome with
    | .ok found => if s.isCurrent record token then s.publish record found else s
    | .error _ => s
  s.modifyRecord record fun r => { r with results := r.results.finish Token.covers run outcome }

/-- Looks after a run of the validator that has been going on since a time: once its answer is there, it
is read as a report on the text. -/
def pollRun (s : Service) (record run : Nat) (token : Token) (snapshot : Snapshot)
    (text : List Char) (since : Nat) (call : Pending (List Char)) : Service :=
  if call.isReady s.closed then
    match call.outcome with
    | .error e => s.conclude record run token (.error e)
    | .ok output =>
      let s := { s with measurements := s.measurements.add ((s.clock - since) * 1000000) }
      s.conclude record run token (.ok (Report.read snapshot.settings.marking text output))
  else s

/-- The call that starts now with this answer, held back if it is to be. -/
def call {α : Type} (s : Service) (outcome : Except ServiceError α) (held : Bool) : Pending α :=
  ⟨outcome, if held then some s.nextGate else none⟩

/-- Notes that a call has started, with its gate if it is held back. -/
def noteCall (s : Service) (x : Exchange) (held : Bool) : Service :=
  if held then
    { s with log := x :: s.log, closed := s.closed ++ [s.nextGate], nextGate := s.nextGate + 1 }
  else { s with log := x :: s.log }

/-- Runs a validator on a text. -/
def invoke (s : Service) (record run : Nat) (token : Token) (snapshot : Snapshot) (stage : Stage)
    (program : Path) (text : List Char) : Service :=
  let i : Invocation := ⟨program, snapshot.settings.arguments stage, text⟩
  let answer := s.host.run i
  let call := s.call answer s.host.holdsRuns
  let s := s.noteCall (.run record run i answer) s.host.holdsRuns
  let s := s.setProgress record run (.running text s.clock call)
  s.pollRun record run token snapshot text s.clock call

/-- Looks after a read of the text: once it is there, the validator runs on it. -/
def pollRead (s : Service) (record run : Nat) (token : Token) (snapshot : Snapshot) (stage : Stage)
    (program : Path) (read : Nat) : Service :=
  match s.registry.record? record with
  | none => s
  | some r =>
    match r.pollText read s.closed with
    | (r, none) => (s.modifyRecord record fun _ => r).setProgress record run (.reading read)
    | (r, some (.ok text)) =>
      (s.modifyRecord record fun _ => r).invoke record run token snapshot stage program text
    | (r, some (.error e)) =>
      (s.modifyRecord record fun _ => r).conclude record run token (.error e)

/-- Takes the text of a document. -/
def takeText (s : Service) (record run : Nat) (token : Token) (snapshot : Snapshot) (stage : Stage)
    (program : Path) : Service :=
  match s.registry.record? record with
  | none => s
  | some r =>
    let answer := s.host.read r.path
    match r.requestText s.editor (s.call answer s.host.holdsReads) with
    | (_, .known text) => s.invoke record run token snapshot stage program text
    | (_, .missing) => s.conclude record run token (.error (.openDocumentMissing r.path))
    | (r, .read read started) =>
      let s := s.modifyRecord record fun _ => r
      let s :=
        if started then s.noteCall (.read record run r.path r.version answer) s.host.holdsReads else s
      s.pollRead record run token snapshot stage program read

/-- The stage of a record's document and the validator for it, under a snapshot. -/
def means? (s : Service) (record : Nat) (snapshot : Snapshot) : Option (Stage × Path) :=
  match s.registry.record? record, snapshot.validator with
  | some r, some program =>
    (snapshot.settings.extensions.stageOfPath r.path).map fun stage => (stage, program)
  | _, _ => none

/-- Lets a validation go on as far as it can. -/
def pollValidation (s : Service) (record run : Nat) : Service :=
  match s.validation? record run with
  | none => s
  | some v =>
    if v.outcome.isSome then s
    else
      match s.means? record v.work.snapshot with
      | none => s.conclude record run v.version (.ok [])
      | some (stage, program) =>
        match v.work.progress with
        | .fresh => s.takeText record run v.version v.work.snapshot stage program
        | .reading read => s.pollRead record run v.version v.work.snapshot stage program read
        | .running text since call => s.pollRun record run v.version v.work.snapshot text since call

/-- Whether a validation could go on. -/
def canGoOn (s : Service) (record run : Nat) : Bool :=
  match s.validation? record run with
  | none => false
  | some v =>
    v.outcome.isSome ||
      match v.work.progress with
      | .fresh => true
      | .running _ _ call => call.isReady s.closed
      | .reading read =>
        match (s.registry.record? record).bind fun r => r.texts.run? read with
        | none => false
        | some t => t.outcome.isSome || t.work.isReady s.closed

end ShaderDiagnostics.Service
