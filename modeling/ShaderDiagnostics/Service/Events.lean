import ShaderDiagnostics.Message.Params
import ShaderDiagnostics.Service.Jobs

/-!
# Events

What happens to documents, in the editor and on disk, and to the settings, and what the service does about
it. A document whose content changes gets a new version, so that whatever still runs for the old one is
not published. Documents that leave the scope have their diagnostics taken back; documents that enter it
or change are analyzed.
-/

namespace ShaderDiagnostics.Service

/-! ### Analyzing and taking back -/

/-- Has a record's diagnostics brought up to date, if there should be any. -/
def analyze (s : Service) (record : Nat) : Service :=
  match s.registry.record? record with
  | none => s
  | some r =>
    if s.ready && s.delivery != .off && s.inScope r then
      s.spawn (.analysis (.ahead s.settings.diagnostics.delay) ⟨record, s.tokenOf r, s.snapshot, none⟩)
    else s

/-- Analyzes all known documents. -/
def analyzeAll (s : Service) : Service := s.registry.all.foldl analyze s

/-- Takes the diagnostics of a record back. -/
def retract (s : Service) (record : Nat) : Service := (s.show_ record none).publish record []

/-- Takes all diagnostics back. -/
def retractAll (s : Service) : Service := s.registry.all.foldl retract s

/-- Notes a change of a record's content. -/
def bump (s : Service) (record : Nat) : Service := s.modifyRecord record Record.bump

/-- The record known under a path, which is made if there is none. -/
def ensure (s : Service) (p : Path) : Service × Nat :=
  let (registry, record) := s.registry.ensure p
  ({ s with registry }, record)

/-- The path of a document. -/
def pathOf (uri : Uri) : Except ServiceError Path :=
  match uri.path? with
  | some p => .ok p
  | none => .error (.invalidUri uri.text)

/-! ### In the editor -/

/-- Notes whether the editor has a record's document open, and that its text comes from elsewhere now. -/
def setOpened (s : Service) (record : Nat) (opened : Bool) : Service :=
  (s.modifyRecord record fun r => { r with opened }).bump record

/-- A document has been opened. -/
def didOpen (s : Service) (uri : Uri) (text : List Char) (version : Int) :
    Except ServiceError Service := do
  let p ← pathOf uri
  let (s, record) := { s with editor := s.editor.opened p text version }.ensure p
  return (s.setOpened record true).analyze record

/-- A document has been edited; it must be open. -/
def didChange (s : Service) (uri : Uri) (edits : List Document.Edit) (version : Int) :
    Except ServiceError Service := do
  let p ← pathOf uri
  match s.editor.changed? p edits version with
  | none => throw (.openDocumentMissing p)
  | some editor =>
    let (s, record) := { s with editor }.ensure p
    return (s.bump record).analyze record

/-- A document has been closed. Its text comes from disk now; if documents that are not open do not
count, its diagnostics are taken back. -/
def didClose (s : Service) (uri : Uri) : Except ServiceError Service := do
  let p ← pathOf uri
  let (s, record) := { s with editor := s.editor.closed p }.ensure p
  let s := s.setOpened record false
  return if s.settings.diagnostics.workspace then s.analyze record else s.retract record

/-! ### On disk -/

/-- Does something to a record unless the editor has its document open. -/
def unlessOpened (s : Service) (record : Nat) (f : Service → Service) : Service :=
  match s.registry.record? record with
  | some r => if r.opened then s else f s
  | none => s

/-- A document has appeared on disk. -/
def diskAdd (s : Service) (p : Path) : Service :=
  let (s, record) := s.ensure p
  s.unlessOpened record fun s => s.analyze record

/-- A document has changed on disk. -/
def diskChange (s : Service) (p : Path) : Service :=
  let (s, record) := s.ensure p
  s.unlessOpened record fun s => (s.bump record).analyze record

/-- Forgets the record known under a path. -/
def forget (s : Service) (p : Path) : Service := { s with registry := s.registry.forget p }

/-- A document has been deleted from disk. -/
def diskDelete (s : Service) (p : Path) : Service :=
  match s.registry.find? p with
  | none => s
  | some record =>
    s.unlessOpened record fun s =>
      let s := s.bump record
      let s := if s.settings.diagnostics.workspace then s.retract record else s
      s.forget p

/-- A file event; files that belong to no stage do not matter. -/
def fileEvent (s : Service) (e : Message.FileEvent) : Service :=
  match e.uri.path? with
  | none => s
  | some p =>
    if s.isMapped p then
      match e.kind with
      | 1 => s.diskAdd p
      | 2 => s.diskChange p
      | 3 => s.diskDelete p
      | _ => s
    else s

/-- File events. -/
def didChangeFiles (s : Service) (events : List Message.FileEvent) : Service :=
  events.foldl fileEvent s

/-! ### Settings -/

/-- Takes the diagnostics of a record back for good, unless its document is open. -/
def withdraw (s : Service) (record : Nat) : Service :=
  s.unlessOpened record fun s => (s.bump record).retract record

/-- Forgets a document that is not open and belongs to no stage any more. -/
def dropUnmapped (s : Service) (record : Nat) : Service :=
  match s.registry.record? record with
  | none => s
  | some r =>
    if r.opened || s.isMapped r.path then s
    else ((s.bump record).retract record).forget r.path

/-- Forgets all documents that are not open and belong to no stage any more. -/
def dropAllUnmapped (s : Service) : Service := s.registry.all.foldl dropUnmapped s

/-- Takes settings over; the validator is looked up if its name has changed or has never been known for
sure. -/
def takeSettings (s : Service) (settings : Settings) : Service :=
  let change := SettingsChange.between s.settings settings
  let validator :=
    if !s.ready || s.settings.validator != settings.validator then s.host.resolve settings.validator
    else s.validator
  let s := { s with
    settings
    validator
    ready := true
    settingsVersion := if change.bumps then s.settingsVersion + 1 else s.settingsVersion }
  if change.extensions then s.dropAllUnmapped else s

/-- Brings everything in line with the settings, which have just changed in this way. -/
def reconsider (s : Service) (change : SettingsChange) : Service :=
  if change.enable && !s.settings.diagnostics.enable then s.retractAll.refresh
  else
    let s :=
      if change.workspace && !s.settings.diagnostics.workspace then s.registry.all.foldl withdraw s
      else s
    if change.bumps || change.workspace then s.analyzeAll.refresh else s

/-- The settings have been set. The first time after waiting for them, all documents are analyzed. -/
def configure (s : Service) (settings : Settings) : Service :=
  let change := SettingsChange.between s.settings settings
  if s.ready then (s.takeSettings settings).reconsider change
  else (s.takeSettings settings).analyzeAll

end ShaderDiagnostics.Service
