import ShaderDiagnostics.Document.Text
import ShaderDiagnostics.Json.Decoder

/-!
# Parameters of messages

What the messages of the editor carry, as the Language Server Protocol lays it down, and how it is read.
Members that the server has no use for are checked all the same.
-/

namespace ShaderDiagnostics.Message

open Json (Decoder RecordField RecordForm Fault)

/-- Changes what has been read of a record by a value of no use. -/
def unused {α σ : Type} : α → σ → σ := fun _ r => r

/-- The form of a record with a name, which may be given as a list. -/
def form {σ : Type} (name : String) (fields : List (RecordField σ)) : RecordForm σ := ⟨name, fields, true⟩

/-! ### Places and edits -/

/-- Reads a place. -/
def position : Decoder Position :=
  (form "Position" [
    .required "line" Decoder.u32 fun n p => { p with line := n },
    .required "character" Decoder.u32 fun n p => { p with column := n }]).decode ⟨0, 0⟩

/-- Reads a range. -/
def range : Decoder Range :=
  (form "Range" [
    .required "start" position fun p r => { r with start := p },
    .required "end" position fun p r => { r with stop := p }]).decode ⟨⟨0, 0⟩, ⟨0, 0⟩⟩

/-- Reads an edit. -/
def edit : Decoder Document.Edit :=
  (form "TextDocumentContentChangeEvent" [
    .optional "range" range fun r e => { e with range := r },
    .optional "rangeLength" Decoder.u32 unused,
    .required "text" Decoder.string fun s e => { e with text := s.toList }]).decode ⟨none, []⟩

/-- Reads edits. -/
def edits : Decoder (List Document.Edit) := Decoder.list edit

/-! ### Documents -/

/-- A URI that names nothing, to start reading from. -/
def noUri : Uri := ⟨"", rfl⟩

/-- Reads what names a document. -/
def document : Decoder Uri :=
  (form "TextDocumentIdentifier" [.required "uri" Decoder.uri fun u _ => u]).decode noUri

/-- A document that the editor has opened. -/
structure Opened where
  /-- The document. -/
  uri : Uri
  /-- The number of its state. -/
  version : Int
  /-- Its text. -/
  text : String

/-- Reads the parameters of an opening. -/
def opened : Decoder Opened :=
  let item : Decoder Opened :=
    (form "TextDocumentItem" [
      .required "uri" Decoder.uri fun u o => { o with uri := u },
      .required "languageId" Decoder.string unused,
      .required "version" Decoder.i32 fun n o => { o with version := n },
      .required "text" Decoder.string fun s o => { o with text := s }]).decode ⟨noUri, 0, ""⟩
  (form "DidOpenTextDocumentParams" [.required "textDocument" item fun o _ => o]).decode
    ⟨noUri, 0, ""⟩

/-- Edits that the editor has made to a document. -/
structure Changed where
  /-- The document. -/
  uri : Uri
  /-- The number of its state after the edits. -/
  version : Int
  /-- The edits. -/
  edits : List Document.Edit

/-- Reads the parameters of a change. -/
def changed : Decoder Changed :=
  let version : Decoder (Uri × Int) :=
    (form "VersionedTextDocumentIdentifier" [
      .required "uri" Decoder.uri fun u v => (u, v.2),
      .required "version" Decoder.i32 fun n v => (v.1, n)]).decode (noUri, 0)
  (form "DidChangeTextDocumentParams" [
    .required "textDocument" version fun v c => { c with uri := v.1, version := v.2 },
    .required "contentChanges" edits fun es c => { c with edits := es }]).decode ⟨noUri, 0, []⟩

/-- Reads the parameters of a closing: the document. -/
def closed : Decoder Uri :=
  (form "DidCloseTextDocumentParams" [.required "textDocument" document fun u _ => u]).decode noUri

/-- What happened to a file on disk. -/
structure FileEvent where
  /-- The file. -/
  uri : Uri
  /-- What happened: one for a new file, two for a change, three for a deletion. -/
  kind : Int

/-- Reads a file event. -/
def fileEvent : Decoder FileEvent :=
  (form "FileEvent" [
    .required "uri" Decoder.uri fun u e => { e with uri := u },
    .required "type" Decoder.i32 fun n e => { e with kind := n }]).decode ⟨noUri, 0⟩

/-- Reads the parameters of a report of file events. -/
def watched : Decoder (List FileEvent) :=
  (form "DidChangeWatchedFilesParams" [
    .required "changes" (Decoder.list fileEvent) fun es _ => es]).decode []

/-- Reads the parameters of a change of settings: the settings. -/
def settingsChanged : Decoder Json :=
  (form "DidChangeConfigurationParams" [.required "settings" Decoder.any fun j _ => j]).decode .null

/-! ### Requests for diagnostics -/

/-- Reads the name of a progress report: a number or a text. -/
def progressToken : Decoder Unit :=
  Decoder.either "NumberOrString" (fun j => (Decoder.i32 j).map fun _ => ())
    fun j => (Decoder.string j).map fun _ => ()

/-- Reads a record together with the names of progress reports that stand among its members. Because of
them it cannot be given as a list. -/
def withProgress {σ : Type} (name : String) (fields : List (RecordField σ)) (keys : List String)
    (initial : σ) : Decoder σ := fun j =>
  match (RecordForm.mk name fields false).decode initial j with
  | .error e => .error e
  | .ok r =>
    let tokens := keys.map fun key => RecordField.optional key progressToken unused
    ((RecordForm.mk name tokens false).decode () j).map fun _ => r

/-- A request for the diagnostics of a document. -/
structure DocumentPull where
  /-- The document. -/
  uri : Uri
  /-- The name of the result that the editor has. -/
  previous : Option String

/-- Reads a request for the diagnostics of a document. -/
def documentPull : Decoder DocumentPull :=
  withProgress "DocumentDiagnosticParams" [
    .required "textDocument" document fun u p => { p with uri := u },
    .optional "identifier" Decoder.string unused,
    .optional "previousResultId" Decoder.string fun s p => { p with previous := s }]
    ["workDoneToken", "partialResultToken"] ⟨noUri, none⟩

/-- The result that the editor has for a document. -/
structure KnownResult where
  /-- The document. -/
  uri : Uri
  /-- The name of the result. -/
  name : String

/-- Reads the result that the editor has for a document. -/
def knownResult : Decoder KnownResult :=
  (form "PreviousResultId" [
    .required "uri" Decoder.uri fun u p => { p with uri := u },
    .required "value" Decoder.string fun s p => { p with name := s }]).decode ⟨noUri, ""⟩

/-- Reads a request for the diagnostics of the workspace: the results that the editor has. -/
def workspacePull : Decoder (List KnownResult) :=
  withProgress "WorkspaceDiagnosticParams" [
    .optional "identifier" Decoder.string unused,
    .required "previousResultIds" (Decoder.list knownResult) fun ks _ => ks]
    ["workDoneToken", "partialResultToken"] []

end ShaderDiagnostics.Message
