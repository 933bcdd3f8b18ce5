import ShaderDiagnostics.Cache
import ShaderDiagnostics.Document.Editor
import ShaderDiagnostics.Host.Basic
import ShaderDiagnostics.Settings
import ShaderDiagnostics.Token

/-!
# Records of documents

What the server remembers of a document: the version of its content, whether the editor has it open, the
number of the latest diagnostics sent for it, the token of those that a pulling editor shows, and two
caches: the texts read from disk by content version, and the diagnostics by token.

A record stays in memory for the jobs that work on it after it has been forgotten, and a path that comes
back gets a new one.
-/

namespace ShaderDiagnostics

/-- What a validation goes by: the settings and the validator at the moment it was asked for. -/
structure Snapshot where
  /-- The settings. -/
  settings : Settings
  /-- The validator, if there is one. -/
  validator : Option Path

/-- How far a validation has come. -/
inductive Progress where
  /-- It has not begun. -/
  | fresh
  /-- It waits for a read of the text from disk. -/
  | reading (read : Nat)
  /-- It waits for the validator, which has been running on a text since some time. -/
  | running (text : List Char) (since : Nat) (call : Pending (List Char))

/-- The work of a validation. -/
structure Validation where
  /-- What it goes by. -/
  snapshot : Snapshot
  /-- How far it has come. -/
  progress : Progress
  /-- The jobs that wait for it, in the order in which they came. -/
  waiters : List Nat

/-- Texts read from disk, by content versions. -/
abbrev Texts := Cache UInt32 (Pending (List Char)) (List Char) ServiceError

/-- Diagnostics, by tokens. -/
abbrev Results := Cache Token Validation (List Diagnostic) ServiceError

/-- What the server remembers of a document. -/
structure Record where
  /-- Its path, as first spelled. -/
  path : Path
  /-- The version of its content. -/
  version : UInt32
  /-- Whether the editor has it open. -/
  opened : Bool
  /-- The number of the latest diagnostics sent for it. -/
  sequence : Int32
  /-- The token of the diagnostics that a pulling editor shows. -/
  display : Option Token
  /-- The texts read from disk. -/
  texts : Texts
  /-- The diagnostics. -/
  results : Results

namespace Record

/-- The record of a document seen for the first time. -/
def new (p : Path) : Record := ⟨p, 1, false, 0, none, Cache.empty, Cache.empty⟩

/-- Later content versions cover earlier ones. -/
def coversText (a b : UInt32) : Bool := b ≤ a

/-- The token of the document under settings of a version. -/
def token (r : Record) (settingsVersion : UInt32) : Token := ⟨r.version, settingsVersion⟩

/-- The record after a change of the content. -/
def bump (r : Record) : Record := { r with version := r.version + 1 }

/-- The record after the next diagnostics have been sent. -/
def advance (r : Record) : Record := { r with sequence := r.sequence + 1 }

/-- The length of the text that is known of the document, in characters. -/
def length? (r : Record) (editor : Editor) : Option Nat :=
  if r.opened then editor.length? r.path else r.texts.completedData.map List.length

/-! ### The text of the document -/

/-- Where the text of a document comes from. -/
inductive TextSource where
  /-- It is known. -/
  | known (text : List Char)
  /-- It should be in the editor but is not. -/
  | missing
  /-- A read from disk, which may have started just now. -/
  | read (run : Nat) (started : Bool)

/-- Asks for the text: that of the editor if the document is open, else that on disk, for which `call` is
the read that would start now. -/
def requestText (r : Record) (editor : Editor) (call : Pending (List Char)) : Record × TextSource :=
  if r.opened then
    match editor.text? r.path with
    | some text => (r, .known text)
    | none => (r, .missing)
  else
    match r.texts.request coversText r.version call with
    | (texts, .completed text) => ({ r with texts }, .known text)
    | (texts, .joined run) => ({ r with texts }, .read run false)
    | (texts, .started run) => ({ r with texts }, .read run true)

/-- Looks after a read, which ends if its gate is not among the closed ones. -/
def pollText (r : Record) (run : Nat) (closed : List Nat) :
    Record × Option (Except ServiceError (List Char)) :=
  match r.texts.run? run with
  | none => (r, none)
  | some read =>
    match read.outcome with
    | some outcome => (r, some outcome)
    | none =>
      if read.work.isReady closed then
        ({ r with texts := r.texts.finish coversText run read.work.outcome }, some read.work.outcome)
      else (r, none)

end Record

/-- All records, and which of them are known under their paths. -/
structure Registry where
  /-- The records, by their numbers. -/
  records : List Record
  /-- The numbers of the known ones. -/
  known : PathMap Nat

namespace Registry

/-- No records. -/
def empty : Registry := ⟨[], PathMap.empty⟩

/-- A record by its number. -/
def record? (g : Registry) (id : Nat) : Option Record := g.records[id]?

/-- The number of the record known under a path. -/
def find? (g : Registry) (p : Path) : Option Nat := g.known.get? p

/-- The number of the record known under a path, which is made if there is none. -/
def ensure (g : Registry) (p : Path) : Registry × Nat :=
  match g.find? p with
  | some id => (g, id)
  | none => (⟨g.records ++ [Record.new p], g.known.insert p g.records.length⟩, g.records.length)

/-- Changes a record. -/
def modify (g : Registry) (id : Nat) (f : Record → Record) : Registry :=
  { g with records := g.records.modify id f }

/-- Forgets the record known under a path. -/
def forget (g : Registry) (p : Path) : Registry := { g with known := g.known.erase p }

/-- The numbers of the known records. -/
def all (g : Registry) : List Nat := g.known.values

end Registry

end ShaderDiagnostics
