import ShaderDiagnostics.Proofs.Service.Registry
import ShaderDiagnostics.Service.Pull

/-!
# Runs of the service

Everything that may happen to the service, one event at a time: what the editor tells and asks, what
happens on disk, settings that come in, jobs that are polled in any order, time that passes, gates of the
host that open, and the host answering otherwise from now on. What the editor tells in vain changes
nothing. Several file events told at once are the same as one after another (`didChangeFiles_eq`).

Versions count changes in 32 bits. `Steady` says that none of them wraps around: an event raises each of
them by one at most, so one that wraps falls.
-/

namespace ShaderDiagnostics

/-- What may happen to the service. -/
inductive Event where
  /-- The editor opens a document. -/
  | opened (uri : Uri) (text : List Char) (version : Int)
  /-- The editor edits a document. -/
  | edited (uri : Uri) (edits : List Document.Edit) (version : Int)
  /-- The editor closes a document. -/
  | closed (uri : Uri)
  /-- Something happens to a file. -/
  | file (e : Message.FileEvent)
  /-- The settings are set. -/
  | configured (settings : Settings)
  /-- The editor asks for the diagnostics of a document. -/
  | pulled (id : RequestId) (p : Message.DocumentPull)
  /-- The editor asks for the diagnostics of the workspace. -/
  | pulledAll (id : RequestId) (known : List Message.KnownResult)
  /-- A job is polled. -/
  | polled (job : Nat)
  /-- Some time passes. -/
  | elapsed (milliseconds : Nat)
  /-- A gate opens. -/
  | released (gate : Nat)
  /-- The host answers otherwise from now on. -/
  | host (h : Host)

namespace Event

/-- Whether the editor asks for diagnostics. -/
def isPull : Event → Bool
  | pulled _ _ => true
  | pulledAll _ _ => true
  | _ => false

/-- Whether settings are set. -/
def isConfigured : Event → Bool
  | configured _ => true
  | _ => false

end Event

namespace Service

/-- The service after something that may fail. -/
def orUnchanged (s : Service) : Except ServiceError Service → Service
  | .ok s' => s'
  | .error _ => s

/-- What an event does. Whether a host can run anything at all does not change. -/
def step (s : Service) : Event → Service
  | .opened uri text version => s.orUnchanged (s.didOpen uri text version)
  | .edited uri edits version => s.orUnchanged (s.didChange uri edits version)
  | .closed uri => s.orUnchanged (s.didClose uri)
  | .file e => s.fileEvent e
  | .configured settings => s.configure settings
  | .pulled id p => s.orUnchanged (s.pullDocument id p)
  | .pulledAll id known => s.pullWorkspace id known
  | .polled job => s.poll job
  | .elapsed milliseconds => s.elapse milliseconds
  | .released gate => s.release gate
  | .host h => s.withHost { h with embedded := s.host.embedded }

/-- The service after some events. -/
def after (s : Service) (es : List Event) : Service := es.foldl step s

theorem after_snoc (s : Service) (es : List Event) (e : Event) :
    s.after (es ++ [e]) = (s.after es).step e := by
  simp [after]

theorem after_append (s : Service) (es es' : List Event) :
    s.after (es ++ es') = (s.after es).after es' := by
  simp [after]

theorem after_cut (s : Service) (before : List Event) (e : Event) (es : List Event) :
    s.after (before ++ e :: es) = ((s.after before).step e).after es := by
  rw [List.append_cons, after_append, after_snoc]

/-- The service of a session after some events. -/
def session (host : Host) (delivery : Delivery) (settings : Settings) (waits : Bool) (es : List Event) :
    Service :=
  (start host delivery settings waits).after es

theorem session_snoc (host : Host) (delivery : Delivery) (settings : Settings) (waits : Bool)
    (es : List Event) (e : Event) : session host delivery settings waits (es ++ [e]) =
      (session host delivery settings waits es).step e :=
  after_snoc _ es e

theorem session_append (host : Host) (delivery : Delivery) (settings : Settings) (waits : Bool)
    (past rest : List Event) : session host delivery settings waits (past ++ rest) =
      (session host delivery settings waits past).after rest :=
  after_append _ past rest

/-! ### What is done or left alone

What holds of a service and of all that may come of something holds afterwards.
-/

section

variable {P : Service → Prop} {s : Service} {id : Nat} {p : Path}

/-- Something that may fail. -/
theorem orUnchanged_ind (stays : P s) {x : Except ServiceError Service} (succeeds : ∀ t, x = .ok t → P t) :
    P (s.orUnchanged x) := by
  cases x with
  | ok t => exact succeeds t rfl
  | error e => exact stays

/-- Something that is done to a record, but not to that of an open document. -/
theorem unlessOpened_ind {f : Service → Service} (stays : P s)
    (does : ∀ r, s.registry.record? id = some r → r.opened = false → P (f s)) : P (s.unlessOpened id f) := by
  unfold unlessOpened
  split
  next r hr =>
    split
    · exact stays
    next closed => exact does r hr (Bool.eq_false_iff.2 closed)
  · exact stays

theorem dropUnmapped_ind (stays : P s)
    (drops : ∀ r, s.registry.record? id = some r → r.opened = false → s.isMapped r.path = false →
      P (((s.bump id).retract id).forget r.path)) : P (s.dropUnmapped id) := by
  unfold dropUnmapped
  split
  · exact stays
  next r hr =>
    split
    · exact stays
    next kept =>
      rw [Bool.or_eq_true, not_or, Bool.not_eq_true, Bool.not_eq_true] at kept
      exact drops r hr kept.1 kept.2

theorem diskDelete_ind (stays : P s)
    (deletes : ∀ id r, s.registry.find? p = some id → s.registry.record? id = some r → r.opened = false →
      P ((if s.settings.diagnostics.workspace then (s.bump id).retract id else s.bump id).forget p)) :
    P (s.diskDelete p) := by
  unfold diskDelete
  split
  · exact stays
  next id hid => exact unlessOpened_ind stays (deletes id · hid)

/-- A file event has a document analyzed that is not open, as it is or with a new version, or has it forgotten. -/
theorem fileEvent_ind {e : Message.FileEvent} (stays : P s)
    (ensures : ∀ p, e.uri.path? = some p → P (s.ensure p).1)
    (adds : ∀ p, e.uri.path? = some p → P ((s.ensure p).1.analyze (s.ensure p).2))
    (changes : ∀ p, e.uri.path? = some p → P (((s.ensure p).1.bump (s.ensure p).2).analyze (s.ensure p).2))
    (deletes : ∀ p, e.uri.path? = some p → e.kind = 3 → P (s.diskDelete p)) : P (s.fileEvent e) := by
  unfold fileEvent
  split
  · exact stays
  next p hp =>
    split
    · split
      · unfold diskAdd
        exact unlessOpened_ind (ensures p hp) fun _ _ _ => adds p hp
      · unfold diskChange
        exact unlessOpened_ind (ensures p hp) fun _ _ _ => changes p hp
      next deleted => exact deletes p hp deleted
      · exact stays
    · exact stays

end

/-- Several file events are the same as one after another. -/
theorem didChangeFiles_eq (s : Service) (events : List Message.FileEvent) :
    s.didChangeFiles events = s.after (events.map .file) := by
  simp only [didChangeFiles, after, List.foldl_map]
  rfl

/-- No version falls. -/
structure Steady (s s' : Service) : Prop where
  /-- The version of the settings. -/
  settings : s.settingsVersion ≤ s'.settingsVersion
  /-- The versions of records. -/
  records : ∀ id, s.registry.version id ≤ s'.registry.version id

/-- A run of the service in which diagnostics are published and never asked for, and in which no version
wraps around, as `publishing_of_few` finds from how many times versions rise. -/
structure Publishing (s : Service) (es : List Event) : Prop where
  /-- Diagnostics are published. -/
  push : s.delivery.isPush = true
  /-- The editor does not ask for them. -/
  unasked : ∀ e ∈ es, e.isPull = false
  /-- No version wraps around. -/
  steady : ∀ before e rest, es = before ++ e :: rest → Steady (s.after before) ((s.after before).step e)

namespace Publishing

variable {s : Service} {es : List Event} {e : Event}

theorem take {es' : List Event} (h : Publishing s (es ++ es')) : Publishing s es where
  push := h.push
  unasked x hx := h.unasked x (List.mem_append_left _ hx)
  steady before x rest hes := h.steady before x (rest ++ es') (by rw [hes]; simp)

theorem drop {es' : List Event} (h : Publishing s (es ++ es'))
    (push : (s.after es).delivery.isPush = true) : Publishing (s.after es) es' where
  push := push
  unasked x hx := h.unasked x (List.mem_append_right _ hx)
  steady before x rest hes := by
    rw [← after_append]
    exact h.steady (es ++ before) x rest (by rw [hes]; simp)

theorem last (h : Publishing s (es ++ [e])) :
    e.isPull = false ∧ Steady (s.after es) ((s.after es).step e) :=
  ⟨h.unasked e (by simp), h.steady es e [] rfl⟩

end Publishing

end Service

end ShaderDiagnostics
