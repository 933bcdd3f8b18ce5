import ShaderDiagnostics.Service.Events

/-!
# Requests for diagnostics

The editor asks for the diagnostics of a document or of the whole workspace. A document out of scope has
none. If the editor has the diagnostics of the current token already, it is told that they have not
changed; otherwise a job answers.
-/

namespace ShaderDiagnostics.Service

/-- The request for the diagnostics of a record as it is now. -/
def inquire (s : Service) (record : Nat) (r : Record) : Inquiry :=
  ⟨record, s.tokenOf r, s.snapshot, none⟩

/-- The editor asks for the diagnostics of a document. -/
def pullDocument (s : Service) (id : RequestId) (p : Message.DocumentPull) :
    Except ServiceError Service := do
  let path ← pathOf p.uri
  let (s, record) := s.ensure path
  match s.registry.record? record with
  | none => return s
  | some r =>
    if !s.inScope r then return s.reply id (.document (.full none []))
    else if s.isShown record (s.tokenOf r) p.previous then
      return s.reply id (.document (.unchanged (s.tokenOf r)))
    else return s.spawn (.pull id (s.inquire record r))

/-- The name of the result that the editor has for a document: the first one given for its URI. -/
def previousResult (known : List Message.KnownResult) (uri : Uri) : Option String :=
  (known.find? fun k => k.uri.text == uri.text).map (·.name)

/-- The part of a workspace request that concerns a record: documents that are open are asked for one by
one, and those out of scope or without a URI have no part. -/
def target? (s : Service) (known : List Message.KnownResult) (record : Nat) : Option Target :=
  match s.registry.record? record with
  | none => none
  | some r =>
    if r.opened || !s.inScope r then none
    else
      (Uri.ofPath? r.path).map fun uri =>
        ⟨uri, previousResult known uri, s.inquire record r, none⟩

/-- The editor asks for the diagnostics of the workspace. -/
def pullWorkspace (s : Service) (id : RequestId) (known : List Message.KnownResult) : Service :=
  s.spawn (.workspace id (s.registry.all.filterMap (s.target? known)))

end ShaderDiagnostics.Service
