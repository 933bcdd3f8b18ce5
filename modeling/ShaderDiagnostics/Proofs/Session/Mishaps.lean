import ShaderDiagnostics.Proofs.Session.Watching

/-!
# Notifications that cannot be handled

A session works on its state in place: documents change in the editor's table, records are made and bumped,
and analyses are scheduled, one after another. If something goes wrong on the way, what has been done stays
done. So a notification that cannot be handled leaves no trace only because everything that can go wrong comes
first (`Session.run_inPlace`). There are four things that can go wrong (`Session.Mishap`), and telemetry is told
about each of them.
-/

namespace ShaderDiagnostics.Session

open Json (Decoder)

variable {s t : Session} {method : String} {j : Json} {e : ServiceError}

/-! ### Handling in place -/

/-- A step of a handler that works in place: what it has changed stays changed when it fails. -/
abbrev InPlace (α : Type) : Type := ExceptT ServiceError (StateM Session) α

namespace InPlace

/-- Goes on with a value, or fails. -/
def of {α : Type} (x : Except ServiceError α) : InPlace α := ExceptT.mk (pure x)

/-- Changes the service. -/
def change (f : Service → Service) : InPlace Unit := modify fun s => s.update f

/-- The record known under a path, which is made if there is none. -/
def ensure (p : Path) : InPlace Nat := do
  let s ← get
  let (service, record) := s.service.ensure p
  set { s with service }
  return record

/-- A document has been opened. -/
def didOpen (o : Message.Opened) : InPlace Unit := do
  let p ← of (Service.pathOf o.uri)
  change fun v => { v with editor := v.editor.opened p o.text.toList o.version }
  let record ← ensure p
  change fun v => v.setOpened record true
  change fun v => v.analyze record

/-- Edits a document if it is open, and tells whether it is. -/
def applyEdits (p : Path) (edits : List Document.Edit) (version : Int) : InPlace Bool :=
  modifyGet fun s =>
    match s.service.editor.changed? p edits version with
    | some editor => (true, s.update fun v => { v with editor })
    | none => (false, s)

/-- The document under a path has been edited; it must be open. -/
def edit (p : Path) (edits : List Document.Edit) (version : Int) : InPlace Unit := do
  if ← applyEdits p edits version then
    let record ← ensure p
    change fun v => v.bump record
    change fun v => v.analyze record
  else throw (.openDocumentMissing p)

/-- A document has been edited. -/
def didChange (c : Message.Changed) : InPlace Unit := do
  edit (← of (Service.pathOf c.uri)) c.edits c.version

/-- A document has been closed. -/
def didClose (uri : Uri) : InPlace Unit := do
  let p ← of (Service.pathOf uri)
  change fun v => { v with editor := v.editor.closed p }
  let record ← ensure p
  change fun v => v.setOpened record false
  change fun v => if v.settings.diagnostics.workspace then v.analyze record else v.retract record

/-- Files have changed on disk, one after another. -/
def didChangeFiles (events : List Message.FileEvent) : InPlace Unit :=
  events.forM fun e => change fun v => v.fileEvent e

/-- The editor tells that the settings have changed. -/
def didChangeSettings (settings : Json) : InPlace Unit := do
  if (← get).support.answersSettings then modify askSettings
  else
    let settings ← of (params Settings.decodeSection settings)
    modify fun s => s.configure settings

end InPlace

/-! ### Notifications -/

/-- What a notification says, for those that mean something to the server. -/
inductive Notification where
  /-- A document has been opened. -/
  | opened (o : Message.Opened)
  /-- A document has been edited. -/
  | changed (c : Message.Changed)
  /-- A document has been closed. -/
  | closed (uri : Uri)
  /-- Files have changed on disk. -/
  | files (events : List Message.FileEvent)
  /-- The settings have changed. -/
  | settings (new : Json)

namespace Notification

/-- Reads a notification, if it means something to the server. -/
def read? (method : String) (j : Json) : Option (Except Json.Fault Notification) :=
  match method with
  | "textDocument/didOpen" => some ((Message.opened j).map .opened)
  | "textDocument/didChange" => some ((Message.changed j).map .changed)
  | "textDocument/didClose" => some ((Message.closed j).map .closed)
  | "workspace/didChangeWatchedFiles" => some ((Message.watched j).map .files)
  | "workspace/didChangeConfiguration" => some ((Message.settingsChanged j).map .settings)
  | _ => none

/-- The document that it is about. Files on disk that have no path are passed over. -/
def document? : Notification → Option Uri
  | opened o => some o.uri
  | changed c => some c.uri
  | closed uri => some uri
  | files _ => none
  | settings _ => none

/-- Does what it takes, in place. -/
def perform : Notification → InPlace Unit
  | opened o => InPlace.didOpen o
  | changed c => InPlace.didChange c
  | closed uri => InPlace.didClose uri
  | files events => InPlace.didChangeFiles events
  | settings new => InPlace.didChangeSettings new

end Notification

/-- Carries out a notification in place. -/
def inPlace (method : String) (j : Json) : InPlace Unit :=
  match Notification.read? method j with
  | none => pure ()
  | some read => InPlace.of (read.mapError .payload) >>= Notification.perform

/-- Carries out a notification that has been read. -/
def act (s : Session) : Notification → Except ServiceError Session
  | .opened o => s.attempt (s.service.didOpen o.uri o.text.toList o.version)
  | .changed c => s.attempt (s.service.didChange c.uri c.edits c.version)
  | .closed uri => s.attempt (s.service.didClose uri)
  | .files events => .ok (s.update fun v => v.didChangeFiles events)
  | .settings new => s.settingsChanged new

theorem carryOut_eq (s : Session) (method : String) (j : Json) :
    s.carryOut method j =
      match Notification.read? method j with
      | none => .ok s
      | some read => (read.mapError .payload).bind s.act := by
  unfold carryOut params
  split
  · simp only [Notification.read?]
    cases Message.opened j <;> rfl
  · simp only [Notification.read?]
    cases Message.changed j <;> rfl
  · simp only [Notification.read?]
    cases Message.closed j <;> rfl
  · simp only [Notification.read?]
    cases Message.watched j <;> rfl
  · simp only [Notification.read?]
    cases Message.settingsChanged j <;> rfl
  · have unread : Notification.read? method j = none := by
      unfold Notification.read?
      split <;> first | rfl | exact absurd rfl (by assumption)
    rw [unread]

/-! ### Doing all or nothing -/

/-- What comes of something that has either been done as a whole or failed without a trace. -/
def settle (s : Session) : Except ServiceError Session → Except ServiceError Unit × Session
  | .ok t => (.ok (), t)
  | .error e => (.error e, s)

namespace InPlace

/-- A value to go on with that is missing leaves no trace. -/
theorem run_of {α : Type} (x : Except ServiceError α) {f : α → InPlace Unit}
    {g : α → Except ServiceError Session} (h : ∀ a, (f a).run s = s.settle (g a)) :
    (of x >>= f).run s = s.settle (x.bind g) := by
  cases x with
  | error e => rfl
  | ok a => exact h a

theorem run_didOpen (o : Message.Opened) :
    (didOpen o).run s = s.settle (s.attempt (s.service.didOpen o.uri o.text.toList o.version)) := by
  unfold didOpen Service.didOpen
  cases Service.pathOf o.uri with
  | error e => rfl
  | ok p => rfl

/-- One step after another: what the first has changed is there for the second, and stays if it has failed. -/
theorem run_bind {α : Type} (x : InPlace α) (f : α → InPlace Unit) :
    (x >>= f).run s =
      match x.run s with
      | (.ok a, t) => (f a).run t
      | (.error e, t) => (.error e, t) := by
  change ExceptT.bindCont f (x.run s).1 (x.run s).2 = _
  rcases x.run s with ⟨_ | _, t⟩ <;> rfl

/-- A document that is not open is not edited. -/
theorem run_applyEdits (p : Path) (edits : List Document.Edit) (version : Int) :
    (applyEdits p edits version).run s =
      match s.service.editor.changed? p edits version with
      | some editor => (.ok true, s.update fun v => { v with editor })
      | none => (.ok false, s) := by
  change (Except.ok _, _) = _
  split <;> rfl

theorem run_didChange (c : Message.Changed) :
    (didChange c).run s = s.settle (s.attempt (s.service.didChange c.uri c.edits c.version)) := by
  unfold didChange Service.didChange
  cases Service.pathOf c.uri with
  | error e => rfl
  | ok p =>
    change (edit p c.edits c.version).run s = _
    unfold edit
    rw [run_bind, run_applyEdits]
    cases h : s.service.editor.changed? p c.edits c.version <;>
      simp only [bind, Except.bind, h] <;> rfl

theorem run_didClose (uri : Uri) :
    (didClose uri).run s = s.settle (s.attempt (s.service.didClose uri)) := by
  unfold didClose Service.didClose
  cases Service.pathOf uri with
  | error e => rfl
  | ok p => rfl

theorem run_didChangeFiles (events : List Message.FileEvent) :
    (didChangeFiles events).run s = (.ok (), s.update fun v => v.didChangeFiles events) := by
  unfold didChangeFiles
  induction events generalizing s with
  | nil => rfl
  | cons e events ih => exact ih

theorem run_didChangeSettings (settings : Json) :
    (didChangeSettings settings).run s = s.settle (s.settingsChanged settings) := by
  unfold didChangeSettings Session.settingsChanged
  change (if s.support.answersSettings then _ else _ : InPlace Unit).run s = _
  split
  · rfl
  · unfold params
    cases Settings.decodeSection settings with
    | ok new => rfl
    | error e => rfl

theorem run_perform (n : Notification) : n.perform.run s = s.settle (s.act n) := by
  cases n with
  | opened o => exact run_didOpen o
  | changed c => exact run_didChange c
  | closed uri => exact run_didClose uri
  | files events => exact run_didChangeFiles events
  | settings new => exact run_didChangeSettings new

end InPlace

/-- A notification that is carried out in place comes to what the session makes of it as a whole; if it fails,
it has changed nothing. -/
theorem run_inPlace (s : Session) (method : String) (j : Json) :
    (inPlace method j).run s = s.settle (s.carryOut method j) := by
  rw [carryOut_eq]
  unfold inPlace
  split
  · rfl
  · exact InPlace.run_of _ InPlace.run_perform

/-! ### What can go wrong -/

/-- A notification that has been read fails. -/
inductive Fails (s : Session) : Notification → ServiceError → Prop where
  /-- The URI of its document is not that of a local file. -/
  | noFile {n : Notification} {uri : Uri} (about : n.document? = some uri) (path : uri.path? = none) :
      Fails s n (.invalidUri uri.text)
  /-- It edits a document that is not open. -/
  | notOpen {c : Message.Changed} {p : Path} (path : c.uri.path? = some p)
      (closed : s.service.editor.get? p = none) : Fails s (.changed c) (.openDocumentMissing p)
  /-- It brings settings that cannot be read, from an editor that is not asked for them. -/
  | badSettings {new : Json} {fault : Json.Fault} (unasked : s.support.answersSettings = false)
      (reads : Settings.decodeSection new = .error fault) : Fails s (.settings new) (.payload fault)

/-- A notification goes wrong. -/
inductive Mishap (s : Session) (method : String) (j : Json) : ServiceError → Prop where
  /-- Its parameters cannot be read. -/
  | unreadable {fault : Json.Fault} (reads : Notification.read? method j = some (.error fault)) :
      Mishap s method j (.payload fault)
  /-- It fails after it has been read. -/
  | fails {n : Notification} {e : ServiceError} (reads : Notification.read? method j = some (.ok n))
      (fails : Fails s n e) : Mishap s method j e

theorem attempt_eq_error {x : Except ServiceError Service} : s.attempt x = .error e ↔ x = .error e := by
  cases x <;> simp [attempt, Except.map]

/-- What needs the path of a document fails if its URI is not that of a local file, or else later. -/
theorem pathOf_bind_eq_error {uri : Uri} {f : Path → Except ServiceError Service} :
    Service.pathOf uri >>= f = .error e ↔
      uri.path? = none ∧ e = .invalidUri uri.text ∨ ∃ p, uri.path? = some p ∧ f p = .error e := by
  unfold Service.pathOf
  cases uri.path? <;> simp [bind, Except.bind, eq_comm]

/-- An edit fails if the document has no path or is not open. -/
theorem changed_eq_error {c : Message.Changed} :
    s.act (.changed c) = .error e ↔ c.uri.path? = none ∧ e = .invalidUri c.uri.text ∨
      ∃ p, c.uri.path? = some p ∧ s.service.editor.get? p = none ∧ e = .openDocumentMissing p := by
  refine attempt_eq_error.trans (pathOf_bind_eq_error.trans (or_congr_right (exists_congr fun p => ?_)))
  refine and_congr_right fun _ => ?_
  unfold Editor.changed?
  cases s.service.editor.get? p with
  | none => simp [throw, throwThe, MonadExceptOf.throw, eq_comm]
  | some d => simp [pure, Except.pure]

/-- New settings fail if the editor sends them unasked and they cannot be read. -/
theorem settingsChanged_eq_error {new : Json} :
    s.settingsChanged new = .error e ↔ s.support.answersSettings = false ∧
      ∃ fault, Settings.decodeSection new = .error fault ∧ e = .payload fault := by
  unfold settingsChanged
  cases s.support.answersSettings <;> cases Settings.decodeSection new <;> simp [eq_comm]

/-- A notification whose document has no path fails. -/
theorem act_of_no_file {n : Notification} {uri : Uri} (about : n.document? = some uri) (path : uri.path? = none) :
    s.act n = .error (.invalidUri uri.text) := by
  have lost : ∀ f : Path → Except ServiceError Service,
      s.attempt (Service.pathOf uri >>= f) = .error (.invalidUri uri.text) :=
    fun f => attempt_eq_error.2 (pathOf_bind_eq_error.2 (.inl ⟨path, rfl⟩))
  cases n with
  | opened o => cases about; exact lost _
  | changed c => cases about; exact lost _
  | closed uri => cases about; exact lost _
  | files events => cases about
  | settings new => cases about

theorem act_eq_error {n : Notification} : s.act n = .error e ↔ s.Fails n e := by
  constructor
  · intro failed
    cases n with
    | opened o =>
      rcases pathOf_bind_eq_error.1 (attempt_eq_error.1 failed) with ⟨path, rfl⟩ | ⟨p, -, later⟩
      · exact .noFile rfl path
      · cases later
    | changed c =>
      rcases changed_eq_error.1 failed with ⟨path, rfl⟩ | ⟨p, path, closed, rfl⟩
      · exact .noFile rfl path
      · exact .notOpen path closed
    | closed uri =>
      rcases pathOf_bind_eq_error.1 (attempt_eq_error.1 failed) with ⟨path, rfl⟩ | ⟨p, -, later⟩
      · exact .noFile rfl path
      · cases later
    | files events => cases failed
    | settings new =>
      obtain ⟨unasked, fault, reads, rfl⟩ := settingsChanged_eq_error.1 failed
      exact .badSettings unasked reads
  · intro fails
    cases fails with
    | noFile about path => exact act_of_no_file about path
    | notOpen path closed => exact changed_eq_error.2 (.inr ⟨_, path, closed, rfl⟩)
    | badSettings unasked reads => exact settingsChanged_eq_error.2 ⟨unasked, _, reads, rfl⟩

theorem carryOut_eq_error : s.carryOut method j = .error e ↔ s.Mishap method j e := by
  rw [carryOut_eq]
  constructor
  · intro failed
    split at failed
    · cases failed
    next read reads =>
      cases read with
      | error fault =>
        cases failed
        exact .unreadable reads
      | ok n => exact .fails reads (act_eq_error.1 failed)
  · rintro (reads | ⟨reads, fails⟩)
    · rw [reads]
      rfl
    · rw [reads]
      exact act_eq_error.2 fails

/-- The notification that ends a session never goes wrong. -/
theorem Mishap.ne_exit (mishap : s.Mishap method j e) : method ≠ exitMethod := by
  rintro rfl
  have unread : Notification.read? exitMethod j = none := rfl
  cases mishap with
  | unreadable reads => rw [unread] at reads; cases reads
  | fails reads => rw [unread] at reads; cases reads

/-- A notification fails exactly if its parameters cannot be read, its document is not a local file, it edits a
document that is not open, or it brings settings that cannot be read. When it fails, nothing has been changed by
then: neither the records with their versions, whether they are open and what a pulling editor shows of them, nor
the documents in the editor, the settings and their version, the jobs, and all else. The session goes on and has
sent one message more, which tells telemetry about the error. -/
theorem failed_notification_changes_nothing (s : Session) (method : String) (j : Json) (e : ServiceError) :
    (((inPlace method j).run s).1 = .error e ↔ s.Mishap method j e) ∧
      (s.Mishap method j e →
        ((inPlace method j).run s).2 = s ∧
          ∃ t, s.handle (.notification method j) = some t ∧
            t.service.registry = s.service.registry ∧ t.service.editor = s.service.editor ∧
            t.service.settings = s.service.settings ∧ t.service.settingsVersion = s.service.settingsVersion ∧
            t.service.jobs = s.service.jobs ∧
            t = s.update (fun v => { v with outbox := t.service.outbox }) ∧
            t.service.outbox.sent = .notice (e.notice method) :: s.service.outbox.sent ∧
            t.service.outbox.next = s.service.outbox.next ∧
            (e.notice method).parts = ("telemetry/event", Json.object [("type", .str "error"),
              ("name", .str method), ("message", .str (Redaction.redactString e.chain))])) := by
  have settled := run_inPlace s method j
  refine ⟨?_, fun mishap => ?_⟩
  · rw [settled, ← carryOut_eq_error]
    cases s.carryOut method j <;> simp [settle]
  · have failed : s.carryOut method j = .error e := carryOut_eq_error.2 mishap
    rw [failed] at settled
    have handled : s.handle (.notification method j) = some (s.update fun v => v.report method e) := by
      rw [handle, if_neg mishap.ne_exit, onNotification, failed]
    exact ⟨congrArg Prod.snd settled, _, handled, rfl, rfl, rfl, rfl, rfl, rfl, rfl, rfl, rfl⟩

/-- The shader is opened. -/
def opensShader : Happening :=
  .received (.notification "textDocument/didOpen" (Json.object [("textDocument", Json.object [
    ("uri", .str "file:///a.vert"), ("languageId", .str "glsl"), ("version", .int 1), ("text", .str "x")])]))

/-- Notifications that cannot be handled, each for another reason. -/
def failing : List (String × Json) :=
  [("workspace/didChangeWatchedFiles", .null),
    ("textDocument/didClose", Json.object [("textDocument", Json.object [("uri", .str "untitled:a")])]),
    ("textDocument/didChange", Json.object [("contentChanges", .arr []),
      ("textDocument", Json.object [("uri", .str "file:///b.vert"), ("version", .int 2)])]),
    ("workspace/didChangeConfiguration", Json.object [("settings",
      Json.object [(Settings.sectionName, .bool true)])])]

/-- While the shader waits to be analyzed, four notifications come that cannot be handled. -/
theorem failing_change_nothing :
    ∃ s, (opening Service.strictHost watchfulSupport Settings.standard true).after [opensShader] = some s ∧
      s.service.jobs.length = 1 ∧
      ∀ n ∈ failing, ∃ e t, s.Mishap n.1 n.2 e ∧ s.handle (.notification n.1 n.2) = some t ∧
        t.service.registry = s.service.registry ∧ t.service.jobs = s.service.jobs ∧
        t.service.outbox.sent = .notice (e.notice n.1) :: s.service.outbox.sent := by
  have look : ((opening Service.strictHost watchfulSupport Settings.standard true).after [opensShader]).any
      (fun s => s.service.jobs.length == 1 &&
        failing.all fun n => ((inPlace n.1 n.2).run s).1.toOption.isNone) = true := by decide +kernel
  obtain ⟨s, reached, holds⟩ := (Option.any_eq_true _ _).1 look
  simp only [Bool.and_eq_true, beq_iff_eq, List.all_eq_true] at holds
  refine ⟨s, reached, holds.1, fun n hn => ?_⟩
  cases outcome : ((inPlace n.1 n.2).run s).1 with
  | ok u =>
    have none := holds.2 n hn
    rw [outcome] at none
    cases none
  | error e =>
    obtain ⟨fails, unchanged⟩ := failed_notification_changes_nothing s n.1 n.2 e
    have mishap : s.Mishap n.1 n.2 e := fails.1 outcome
    obtain ⟨-, t, handled, registry, -, -, -, jobs, -, sent, -⟩ := unchanged mishap
    exact ⟨e, t, mishap, handled, registry, jobs, sent⟩

end ShaderDiagnostics.Session
