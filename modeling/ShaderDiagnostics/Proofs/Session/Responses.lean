import ShaderDiagnostics.Proofs.Service.ResultIds
import ShaderDiagnostics.Proofs.Session.Turns

/-!
# One answer for each request

A request may be answered in many places: at once, because the session is being shut down, because there is no such
method, because its parameters cannot be read or because it asks for a document out of scope; or by a job, with
diagnostics or with an error. Whichever it is, each request is answered once or has a job that will answer it
(`Session.Turn.accounts`), and nothing else is answered (`Session.answered_once`). An id may be used by several
requests; it is then owed as many answers.
-/

namespace ShaderDiagnostics

/-- Whether the editor asks to shut down. -/
def Happening.isShutdown : Happening → Bool
  | .received (.request _ method _) => method == "shutdown"
  | _ => false

/-- How many requests with an id have come. -/
def Happening.requests (hs : List Happening) (id : RequestId) : Nat :=
  hs.countP fun h => h.request? = some id

namespace Session

open Service (Background)
open Happening (requests)

variable {s t : Session} {h : Happening} {hs : List Happening} {id : RequestId}

/-! ### Requests and chores -/

/-- What a session does about a request answers it or leaves a job that will. -/
theorem Treats.accounts (h : Treats s id t) (sound : s.service.registry.Sound) (other : RequestId) :
    t.service.responses other + t.service.unfinished other =
      s.service.responses other + s.service.unfinished other + if id = other then 1 else 0 := by
  have refused : ∀ (v : Service) code message, v.responses other = s.service.responses other →
      v.unfinished other = s.service.unfinished other →
      (v.refuse id code message).responses other + (v.refuse id code message).unfinished other =
        s.service.responses other + s.service.unfinished other + if id = other then 1 else 0 := by
    intro v code message responses unfinished
    rw [Service.responses_refuse, responses, ← unfinished, Nat.add_right_comm]
    rfl
  cases h with
  | refuses code message => exact refused s.service code message rfl rfl
  | fails name e =>
    have told := Service.report_background s.service name e
    exact refused _ _ _ (told.responses_eq other) (told.unfinished_eq other)
  | shutsDown =>
    have told : (s.service.tell (.usage s.service.usage)).responses other = s.service.responses other :=
      Service.responses_tell _ _ _
    show ((s.service.tell (.usage s.service.usage)).reply id .done).responses other +
      s.service.unfinished other = _
    rw [Service.responses_reply, told, Nat.add_right_comm]
  | pulls accepted => exact Service.pullDocument_accounts sound accepted other
  | pullsAll known => exact Service.pullWorkspace_accounts s.service id known other

theorem watchFiles_background (s : Session) : Background s.service s.watchFiles.service := by
  unfold watchFiles
  split
  · dsimp only
    split
    · exact (Service.ask_background s.service .unwatch).trans (Service.ask_background _ _)
    · exact Service.ask_background _ _
  · exact .refl _

/-- Chores are done in the background. -/
theorem Chore.background (c : Chore s t) : Background s.service t.service := by
  cases c with
  | documents es all =>
    show Background s.service (s.service.after es)
    generalize s.service = v
    induction es generalizing v with
    | nil => exact .refl v
    | cons e es ih =>
      have document := all e List.mem_cons_self
      exact (Service.step_background v (Event.not_polled_of_document document)
        (Event.not_pull_of_document document)).trans (ih (fun e' he' => all e' (List.mem_cons_of_mem e he')) _)
  | reports name e => exact Service.report_background s.service name e
  | asks => exact Service.ask_background s.service .settings
  | closes => exact .refl _
  | configures settings =>
    have configured := Service.configure_background s.service settings
    unfold configure
    dsimp only
    split
    · exact configured.trans (watchFiles_background (s.update fun v => v.configure settings))
    · exact configured

theorem Chores.background (c : Chores s t) : Background s.service t.service := by
  induction c with
  | refl => exact .refl _
  | tail _ chore ih => exact ih.trans chore.background

/-! ### Turns -/

/-- A turn answers as many requests, or leaves as many jobs for them, as have come: none but the one that has come,
if one has. -/
theorem Turn.accounts (turn : Turn s h t) (intact : s.service.Intact) (id : RequestId) :
    t.service.responses id + t.service.unfinished id =
      s.service.responses id + s.service.unfinished id + if h.request? = some id then 1 else 0 := by
  have background : ∀ t : Session, Background s.service t.service →
      t.service.responses id + t.service.unfinished id = s.service.responses id + s.service.unfinished id :=
    fun t quiet => by rw [quiet.responses_eq, quiet.unfinished_eq]
  cases turn with
  | request treats =>
    simp only [Happening.request?, Incoming.request?, Option.some.injEq]
    exact treats.accounts intact.registry id
  | other unasked chores =>
    rw [Happening.request?, unasked, if_neg nofun]
    exact background t chores.background
  | @event h e event =>
    cases h with
    | received m => cases event
    | left => cases event
    | polled job =>
      obtain rfl := Option.some.inj event
      exact intact.poll_accounts job id
    | elapsed milliseconds =>
      obtain rfl := Option.some.inj event
      exact background _ (Service.step_background s.service (e := .elapsed milliseconds) nofun rfl)
    | released gate =>
      obtain rfl := Option.some.inj event
      exact background _ (Service.step_background s.service (e := .released gate) nofun rfl)
    | host host =>
      obtain rfl := Option.some.inj event
      exact background _ (Service.step_background s.service (e := .host host) nofun rfl)

/-- The session is shut down in a turn only by the request to do so. -/
theorem Turn.shutdown (turn : Turn s h t) : t.shutdown = (s.shutdown || h.isShutdown) := by
  cases turn with
  | request _ shutdown => exact shutdown
  | @other m _ unasked chores =>
    have plain : (Happening.received m).isShutdown = false := by
      cases m with
      | request => cases unasked
      | _ => rfl
    rw [chores.keeps.2, plain, Bool.or_false]
  | @event h e event =>
    have plain : h.isShutdown = false := by
      cases h with
      | received m => cases event
      | _ => rfl
    rw [plain, Bool.or_false]
    rfl

/-! ### Sessions -/

variable {host : Host} {support : ClientSupport} {settings : Settings} {greeted : Bool}

theorem opening_background : (opening host support settings greeted).shutdown = false ∧
    Background (start host support settings).service (opening host support settings greeted).service := by
  unfold opening
  split
  · have watched := watchFiles_background (start host support settings)
    have quiet : (start host support settings).watchFiles.shutdown = false := by
      unfold watchFiles
      split <;> rfl
    unfold initialized
    dsimp only
    split <;> split
    · exact ⟨quiet, (watched.trans (Service.ask_background _ .followSettings)).trans
        (Service.ask_background _ .settings)⟩
    · exact ⟨quiet, watched.trans (Service.ask_background _ .followSettings)⟩
    · exact ⟨quiet, watched.trans (Service.ask_background _ .settings)⟩
    · exact ⟨quiet, watched⟩
  · exact ⟨rfl, .refl _⟩

theorem reached_accounts (reached : (opening host support settings greeted).after hs = some s)
    (id : RequestId) : s.service.responses id + s.service.unfinished id = requests hs id := by
  refine (after_lasting (I := fun hs s => s.service.Intact ∧
    s.service.responses id + s.service.unfinished id = requests hs id)
    ⟨opening_intact host support settings greeted, ?_⟩ (fun {hs s h t} turn kept => ?_) reached).2
  · rw [opening_background.2.responses_eq, opening_background.2.unfinished_eq]
    rfl
  · obtain ⟨intact, counted⟩ := kept
    refine ⟨turn.intact intact, ?_⟩
    rw [turn.accounts intact id, counted, requests, requests, List.countP_append, List.countP_singleton]
    simp only [decide_eq_true_eq]

theorem reached_shutdown (reached : (opening host support settings greeted).after hs = some s) :
    s.shutdown = hs.any Happening.isShutdown := by
  refine after_lasting (I := fun hs s => s.shutdown = hs.any Happening.isShutdown)
    opening_background.1 (fun {hs s h t} turn kept => ?_) reached
  rw [turn.shutdown, kept, List.any_append, List.any_cons, List.any_nil, Bool.or_false]

/-- **One answer for each request.** Whatever has happened in a session that goes on, and for every id: as many
answers with the id have been sent, and as many jobs are left that will answer it, as requests with the id have
come. A message that is no request is answered with nothing, and leaves no job for a request. Once the editor has
asked to shut down, each request is refused at once, and leaves no job. -/
theorem answered_once (reached : (opening host support settings greeted).after hs = some s) :
    (∀ id, s.service.responses id + s.service.unfinished id = requests hs id) ∧
      (∀ m t, m.request? = none → s.handle m = some t → Background s.service t.service) ∧
      s.shutdown = hs.any Happening.isShutdown ∧
      (s.shutdown = true → ∀ id method j, ∃ t, s.handle (.request id method j) = some t ∧
        t.service.outbox.sent =
          .refusal id (-32600) "server is shutting down" :: s.service.outbox.sent ∧
        t.service.jobs = s.service.jobs) := by
  refine ⟨reached_accounts reached, fun m t unasked handled => ?_, reached_shutdown reached,
    fun down id method j => ?_⟩
  · have turn : Turn s (.received m) t := turn_of_happen handled
    cases turn with
    | request => cases unasked
    | other _ chores => exact chores.background
    | event event => cases event
  · refine ⟨s.onRequest id method j, rfl, ?_⟩
    rw [onRequest, if_pos down]
    exact ⟨rfl, rfl⟩

/-- An editor that asks for diagnostics. -/
def pullingSupport : ClientSupport where
  delivery := .pull true
  answersSettings := false
  watchesFiles := true
  tellsSettings := true

/-- The editor asks for the diagnostics of the shader under a number. -/
def asksFor (number : Int) : Happening :=
  .received (.request (.number number) Service.pullMethod
    (Json.object [("textDocument", Json.object [("uri", .str "file:///a.vert")])]))

/-- The shader appears and is asked for twice under one number; one request is answered. Then a request has no
parameters, another one no method, and the editor asks to shut down and then for the shader. -/
def requesting : List Happening :=
  [.received (.notification "workspace/didChangeWatchedFiles" (Json.object [("changes",
      .arr [Json.object [("uri", .str "file:///a.vert"), ("type", .int 1)]])])),
    asksFor 1, asksFor 1, .polled 1, .received (.request (.number 2) Service.pullMethod .null),
    .received (.request (.number 3) "glsl/other" .null), .received (.request (.number 4) "shutdown" .null),
    asksFor 5]

/-- One request has a job left; the others have been answered. -/
theorem requesting_answered_once :
    ∃ s, (opening (Service.diskHost "x".toList) pullingSupport Service.workspaceSettings true).after requesting =
        some s ∧
      [1, 2, 3, 4, 5].map (fun n => (s.service.responses (.number n), s.service.unfinished (.number n))) =
        [(1, 1), (1, 0), (1, 0), (1, 0), (1, 0)] ∧
      (∀ id, s.service.responses id + s.service.unfinished id = requests requesting id) ∧
      ∀ id method j, ∃ t, s.handle (.request id method j) = some t ∧
        t.service.outbox.sent =
          .refusal id (-32600) "server is shutting down" :: s.service.outbox.sent ∧
        t.service.jobs = s.service.jobs := by
  have look : ((opening (Service.diskHost "x".toList) pullingSupport Service.workspaceSettings true).after
      requesting).map (fun s => [1, 2, 3, 4, 5].map fun n =>
        (s.service.responses (.number n), s.service.unfinished (.number n))) =
      some [(1, 1), (1, 0), (1, 0), (1, 0), (1, 0)] := by decide +kernel
  obtain ⟨s, reached, counts⟩ := Option.map_eq_some_iff.1 look
  obtain ⟨once, -, shutdown, refused⟩ := answered_once reached
  exact ⟨s, reached, counts, once, refused (shutdown.trans rfl)⟩

end Session

end ShaderDiagnostics
