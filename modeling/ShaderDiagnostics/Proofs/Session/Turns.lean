import ShaderDiagnostics.Proofs.Service.Obligations
import ShaderDiagnostics.Proofs.Session.Answers

/-!
# What a session does

A session does one thing at a time: it handles a message, or its service goes on. A request is refused, answered
or given a job (`Session.Treats`), and for any other message there are chores to do, one after another: documents
change, settings are asked for or taken over, or telemetry is told about an error (`Session.Chore`). So what is to
hold in every session need only be checked of those (`Session.Turn`).
-/

namespace ShaderDiagnostics

open Relation (ReflTransGen)

/-- The id of a request. -/
def Incoming.request? : Incoming → Option RequestId
  | .request id _ _ => some id
  | _ => none

/-- The id of the request that comes, if one does. -/
def Happening.request? : Happening → Option RequestId
  | .received m => m.request?
  | _ => none

/-- What happens to the service alone. -/
def Happening.event? : Happening → Option Event
  | .polled job => some (.polled job)
  | .elapsed milliseconds => some (.elapsed milliseconds)
  | .released gate => some (.released gate)
  | .host h => some (.host h)
  | _ => none

/-- Whether the editor tells about documents or files. -/
def Event.isDocument : Event → Bool
  | .opened _ _ _ => true
  | .edited _ _ _ => true
  | .closed _ => true
  | .file _ => true
  | _ => false

theorem Event.not_polled_of_document {e : Event} (h : e.isDocument = true) : ∀ job, e ≠ .polled job := by
  rintro job rfl
  cases h

theorem Event.not_pull_of_document {e : Event} (h : e.isDocument = true) : e.isPull = false := by
  cases e <;> first | rfl | cases h

/-- Something that is done with a value, if there is one. -/
theorem ok_of_map {ε α β : Type} {f : α → β} {x : Except ε α} {b : β} (h : x.map f = .ok b) :
    ∃ a, x = .ok a ∧ f a = b := by
  cases x with
  | error e => cases h
  | ok a => exact ⟨a, rfl, Except.ok.inj h⟩

/-- Other messages of the service do not matter to what it does. -/
theorem Service.Intact.withOutbox {s : Service} (h : s.Intact) (outbox : Outbox) :
    { s with outbox }.Intact :=
  ⟨h.registry, h.tidy, fun j hj => ⟨(h.jobs j hj).waits, (h.jobs j hj).reports⟩, h.fresh, h.distinct, h.unheard⟩

namespace Session

variable {s t : Session} {hs : List Happening} {h : Happening}

/-! ### Sessions -/

/-- A session at its start or, if it has been greeted, at the end of the handshake. -/
def opening (host : Host) (support : ClientSupport) (settings : Settings) (greeted : Bool) : Session :=
  if greeted then (start host support settings).initialized else start host support settings

/-- The session after something has happened, if it goes on. -/
def happen (s : Session) : Happening → Option Session
  | .received m => s.handle m
  | .left => none
  | h => h.event?.map fun e => s.update fun v => v.step e

/-- The session after all that has happened, if it goes on. -/
def after (s : Session) (hs : List Happening) : Option Session := hs.foldlM happen s

theorem after_snoc (s : Session) (hs : List Happening) (h : Happening) :
    s.after (hs ++ [h]) = (s.after hs).bind fun t => t.happen h := by
  simp [after, List.foldlM_append]

/-! ### Requests -/

/-- What a session does about a request. -/
inductive Treats (s : Session) (id : RequestId) : Session → Prop where
  /-- It refuses the request. -/
  | refuses (code : Int) (message : String) : Treats s id (s.update fun v => v.refuse id code message)
  /-- The request has failed. -/
  | fails (name : String) (e : ServiceError) :
      Treats s id (s.update fun v => (v.report name e).refuse id Service.internalError e.message)
  /-- The session is shut down. -/
  | shutsDown : Treats s id (s.onShutdown id)
  /-- The diagnostics of a document are asked for. -/
  | pulls {p : Message.DocumentPull} {v : Service} (accepted : s.service.pullDocument id p = .ok v) :
      Treats s id { s with service := v }
  /-- The diagnostics of the workspace are asked for. -/
  | pullsAll (known : List Message.KnownResult) :
      Treats s id (s.update fun v => v.pullWorkspace id known)

theorem treats_request (s : Session) (id : RequestId) (method : String) (j : Json) :
    Treats s id (s.onRequest id method j) := by
  unfold onRequest
  split
  · exact .refuses _ _
  · split
    · exact .shutsDown
    · split
      · exact .refuses _ _
      next t begun =>
        unfold beginRequest at begun
        split at begun
        · obtain ⟨p, ht⟩ := ok_of_params (Option.some.inj begun)
          obtain ⟨v, accepted, rfl⟩ := ok_of_map ht
          exact .pulls accepted
        · split at begun
          · obtain ⟨known, -, rfl⟩ := ok_of_map (Option.some.inj begun)
            exact .pullsAll known
          · cases begun
      · exact .fails _ _

/-- The session is shut down by the request to do so, and by nothing else. -/
theorem shutdown_onRequest (s : Session) (id : RequestId) (method : String) (j : Json) :
    (s.onRequest id method j).shutdown = (s.shutdown || method == "shutdown") := by
  unfold onRequest
  split
  next down => rw [down]; exact down
  next up =>
    split
    next own =>
      rw [own]
      exact (Bool.or_true _).symm
    next other =>
      rw [show (method == "shutdown") = false from beq_eq_false_iff_ne.2 other, Bool.or_false]
      split
      · rfl
      next t begun =>
        unfold beginRequest at begun
        split at begun
        · obtain ⟨p, ht⟩ := ok_of_params (Option.some.inj begun)
          obtain ⟨v, -, rfl⟩ := ok_of_map ht
          rfl
        · split at begun
          · obtain ⟨known, -, rfl⟩ := ok_of_map (Option.some.inj begun)
            rfl
          · cases begun
      · rfl

/-! ### Chores -/

/-- One thing that a session does about a message that is no request. -/
inductive Chore (s : Session) : Session → Prop where
  /-- Documents and files change. -/
  | documents (es : List Event) (all : ∀ e ∈ es, e.isDocument = true) :
      Chore s (s.update fun v => v.after es)
  /-- Telemetry is told about an error. -/
  | reports (name : String) (e : ServiceError) : Chore s (s.update fun v => v.report name e)
  /-- The editor is asked for the settings. -/
  | asks : Chore s s.askSettings
  /-- Some questions for settings have been answered. -/
  | closes (asked : List Nat) : Chore s { s with asked }
  /-- New settings are taken over. -/
  | configures (settings : Settings) : Chore s (s.configure settings)

/-- What is done one chore after another. -/
abbrev Chores : Session → Session → Prop := ReflTransGen Chore

theorem chores_event {e : Event} (document : e.isDocument = true) {x : Except ServiceError Service}
    (step : s.service.step e = s.service.orUnchanged x) (ht : s.attempt x = .ok t) : Chores s t := by
  obtain ⟨v, rfl, rfl⟩ := ok_of_map ht
  have same : s.update (fun w => w.after [e]) = { s with service := v } :=
    congrArg (fun service => { s with service }) step
  exact same ▸ .single (.documents [e] (by simpa using document))

theorem chores_carryOut {method : String} {j : Json} (ht : s.carryOut method j = .ok t) : Chores s t := by
  unfold carryOut at ht
  split at ht
  · obtain ⟨o, ht⟩ := ok_of_params ht
    exact chores_event (e := .opened o.uri o.text.toList o.version) rfl rfl ht
  · obtain ⟨c, ht⟩ := ok_of_params ht
    exact chores_event (e := .edited c.uri c.edits c.version) rfl rfl ht
  · obtain ⟨uri, ht⟩ := ok_of_params ht
    exact chores_event (e := .closed uri) rfl rfl ht
  · obtain ⟨events, -, rfl⟩ := ok_of_map ht
    have same : s.update (fun v => v.didChangeFiles events) = s.update fun v => v.after (events.map .file) :=
      congrArg (fun service => { s with service }) (Service.didChangeFiles_eq s.service events)
    rw [same]
    refine .single (.documents _ fun e he => ?_)
    obtain ⟨event, -, rfl⟩ := List.mem_map.1 he
    rfl
  · obtain ⟨settings, ht⟩ := ok_of_params ht
    unfold settingsChanged at ht
    split at ht
    · obtain rfl := Except.ok.inj ht
      exact .single .asks
    · split at ht
      next settings _ =>
        obtain rfl := Except.ok.inj ht
        exact .single (.configures settings)
      · cases ht
  · obtain rfl := Except.ok.inj ht
    exact .refl

theorem chores_notification (s : Session) (method : String) (j : Json) :
    Chores s (s.onNotification method j) := by
  unfold onNotification
  split
  next t ht => exact chores_carryOut ht
  · exact .single (.reports _ _)

theorem chores_response (s : Session) (id : RequestId) (result : Option Json) (error : Option String) :
    Chores s (s.onResponse id result error) := by
  unfold onResponse
  split
  · have closed : Chores s { s with asked := s.asked.filter fun n => questionId n != id } :=
      .single (.closes _)
    refine closed.trans ?_
    unfold settingsAnswered
    split
    · exact .single (.configures _)
    · exact .single (.configures _)
    · split
      · exact .single (.configures _)
      · exact (ReflTransGen.single (.reports _ _)).tail (.configures _)
  · exact .refl

/-- The session is not shut down by a chore. -/
theorem Chore.keeps (c : Chore s t) : t.support = s.support ∧ t.shutdown = s.shutdown := by
  have watched : ∀ u : Session, u.watchFiles.support = u.support ∧ u.watchFiles.shutdown = u.shutdown := by
    intro u
    unfold watchFiles
    split
    · dsimp only
      split <;> exact ⟨rfl, rfl⟩
    · exact ⟨rfl, rfl⟩
  cases c with
  | configures settings =>
    unfold configure
    dsimp only
    split
    · exact watched _
    · exact ⟨rfl, rfl⟩
  | _ => exact ⟨rfl, rfl⟩

theorem Chores.keeps (c : Chores s t) : t.support = s.support ∧ t.shutdown = s.shutdown := by
  induction c with
  | refl => exact ⟨rfl, rfl⟩
  | tail _ chore ih => exact ⟨chore.keeps.1.trans ih.1, chore.keeps.2.trans ih.2⟩

/-! ### Turns -/

/-- What has become of a session after something has happened. -/
inductive Turn (s : Session) : Happening → Session → Prop where
  /-- A request has come. -/
  | request {id : RequestId} {method : String} {j : Json} {t : Session} (treats : Treats s id t)
      (shutdown : t.shutdown = (s.shutdown || method == "shutdown")) :
      Turn s (.received (.request id method j)) t
  /-- Another message has come. -/
  | other {m : Incoming} {t : Session} (unasked : m.request? = none) (chores : Chores s t) :
      Turn s (.received m) t
  /-- The service has gone on. -/
  | event {h : Happening} {e : Event} (event : h.event? = some e) : Turn s h (s.update fun v => v.step e)

theorem turn_of_happen (ht : s.happen h = some t) : Turn s h t := by
  have event : ∀ e, h.event? = some e → s.update (fun v => v.step e) = t → Turn s h t :=
    fun e he same => same ▸ .event he
  cases h with
  | received m =>
    cases m with
    | request id method j =>
      obtain rfl := Option.some.inj ht
      exact .request (treats_request s id method j) (shutdown_onRequest s id method j)
    | response id result error =>
      obtain rfl := Option.some.inj ht
      exact .other rfl (chores_response s id result error)
    | notification method j =>
      change (if method = exitMethod then none else some _) = some t at ht
      split at ht
      · cases ht
      · obtain rfl := Option.some.inj ht
        exact .other rfl (chores_notification s method j)
  | left => cases ht
  | polled job => exact event _ rfl (Option.some.inj ht)
  | elapsed milliseconds => exact event _ rfl (Option.some.inj ht)
  | released gate => exact event _ rfl (Option.some.inj ht)
  | host host => exact event _ rfl (Option.some.inj ht)

/-- What holds of a session at its opening and lasts over every turn holds as long as the session goes on. -/
theorem after_lasting {I : List Happening → Session → Prop} {s₀ : Session} (opening : I [] s₀)
    (turn : ∀ {hs s h t}, Turn s h t → I hs s → I (hs ++ [h]) t) (reached : s₀.after hs = some s) :
    I hs s := by
  induction hs using List.reverseRecOn generalizing s with
  | nil =>
    obtain rfl := Option.some.inj reached
    exact opening
  | append_singleton hs h ih =>
    rw [after_snoc] at reached
    obtain ⟨t, before, ht⟩ := Option.bind_eq_some_iff.1 reached
    exact turn (turn_of_happen ht) (ih before)

/-! ### The service of a session -/

/-- What the service says does not matter to what it does. -/
theorem Treats.intact {id : RequestId} (h : Treats s id t) (intact : s.service.Intact) : t.service.Intact := by
  cases h with
  | refuses => exact intact.withOutbox _
  | fails => exact intact.withOutbox _
  | shutsDown => exact intact.withOutbox _
  | @pulls p v accepted =>
    have step : s.service.step (.pulled id p) = v := by
      rw [Service.step, accepted]
      rfl
    exact step ▸ intact.step (.pulled id p)
  | pullsAll known => exact intact.step (.pulledAll id known)

theorem watchFiles_intact (intact : s.service.Intact) : s.watchFiles.service.Intact := by
  unfold watchFiles
  split
  · dsimp only
    split <;> exact intact.withOutbox _
  · exact intact

theorem Chore.intact (c : Chore s t) (intact : s.service.Intact) : t.service.Intact := by
  cases c with
  | documents es => exact intact.after es
  | reports => exact intact.withOutbox _
  | asks => exact intact.withOutbox _
  | closes => exact intact
  | configures settings =>
    have configured : (s.service.configure settings).Intact := intact.step (.configured settings)
    unfold configure
    dsimp only
    split
    · exact watchFiles_intact configured
    · exact configured

theorem Chores.intact (c : Chores s t) (intact : s.service.Intact) : t.service.Intact := by
  induction c with
  | refl => exact intact
  | tail _ chore ih => exact chore.intact ih

theorem Turn.intact (turn : Turn s h t) (intact : s.service.Intact) : t.service.Intact := by
  cases turn with
  | request treats => exact treats.intact intact
  | other _ chores => exact chores.intact intact
  | event => exact intact.step _

theorem initialized_intact (intact : s.service.Intact) : s.initialized.service.Intact := by
  unfold initialized
  dsimp only
  split <;> split <;> first
    | exact watchFiles_intact intact
    | exact (watchFiles_intact intact).withOutbox _

theorem opening_intact (host : Host) (support : ClientSupport) (settings : Settings) (greeted : Bool) :
    (opening host support settings greeted).service.Intact := by
  have started : (start host support settings).service.Intact := Service.intact_start _ _ _ _
  unfold opening
  split
  · exact initialized_intact started
  · exact started

end Session

end ShaderDiagnostics
