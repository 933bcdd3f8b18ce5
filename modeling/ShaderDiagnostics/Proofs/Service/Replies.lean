import ShaderDiagnostics.Proofs.Service.Intake

/-!
# From requests to reports

A request for diagnostics that is not answered at once gets a job, and the job answers it in a later poll.
A report that is sent then names the token that the document had when the request came in, and what a full
one reports has been found by a validation for a token that covers this one (`Service.Served.fits`).
-/

namespace ShaderDiagnostics

/-- The messages sent after those that had been sent before. -/
theorem Outbox.since_of_append {o o' : Outbox} {news : List Outgoing} (h : o'.sent = news ++ o.sent) :
    o'.since o.sent.length = news.reverse := by
  unfold since
  rw [h, List.reverse_append, List.drop_left' (List.length_reverse)]

/-- A report on the document of a record, in the answer to a request. -/
inductive ReportOn (r : Record) : Event → Reply → DocumentReport → Prop where
  /-- The document has been asked for by its path. -/
  | document {id : RequestId} {p : Message.DocumentPull} {path : Path} {report : DocumentReport}
      (asked : p.uri.path? = some path) (same : r.path.same path = true) :
      ReportOn r (.pulled id p) (.document report) report
  /-- The workspace has been asked for, and the report is for the document's URI. -/
  | workspace {id : RequestId} {known : List Message.KnownResult} {uri : Uri}
      {parts : List (Uri × DocumentReport)} {report : DocumentReport}
      (named : Uri.ofPath? r.path = some uri) (part : (uri, report) ∈ parts) :
      ReportOn r (.pulledAll id known) (.workspace parts) report

namespace Service

variable {s s' t : Service} {id n job : Nat} {r : Record} {b b₀ : Job} {request : RequestId} {reply : Reply}
  {report : DocumentReport} {e : Event}

/-! ### Answers -/

/-- A request is answered from one state to the other. -/
def Replies (s s' : Service) (request : RequestId) (reply : Reply) : Prop :=
  .reply request reply ∈ s'.outbox.since s.outbox.sent.length

theorem Tells.not_replies (tells : Tells s s') : ¬ Replies s s' request reply := by
  obtain ⟨notices, sent⟩ := tells
  unfold Replies
  rw [Outbox.since_of_append sent]
  simp

/-- Whoever tells the editor things and then answers a request, answers that one. -/
theorem Tells.of_reply {request' : RequestId} {reply' : Reply} (tells : Tells s t)
    (replies : Replies s ((t.reply request' reply').endJob job) request reply) :
    request = request' ∧ reply = reply' := by
  obtain ⟨notices, sent⟩ := tells
  have sent' : ((t.reply request' reply').endJob job).outbox.sent =
      (.reply request' reply' :: notices.map .notice) ++ s.outbox.sent := by
    show Outgoing.reply request' reply' :: t.outbox.sent = _
    rw [sent]
    rfl
  unfold Replies at replies
  rw [Outbox.since_of_append sent'] at replies
  simpa using replies

/-- A request that is refused is not answered. -/
theorem Tells.not_replies_refuse {request' : RequestId} {code : Int} {message : String} (tells : Tells s t) :
    ¬ Replies s ((t.refuse request' code message).endJob job) request reply := by
  obtain ⟨notices, sent⟩ := tells
  have sent' : ((t.refuse request' code message).endJob job).outbox.sent =
      (.refusal request' code message :: notices.map .notice) ++ s.outbox.sent := by
    show Outgoing.refusal request' code message :: t.outbox.sent = _
    rw [sent]
    rfl
  unfold Replies
  rw [Outbox.since_of_append sent']
  simp

/-- Whatever a poll answers is the answer of its job. -/
theorem Leaves.answer (leaves : Leaves t job b s') (tells : Tells s t)
    (replies : Replies s s' request reply) : Answers t b request reply := by
  cases leaves with
  | rests => exact absurd replies tells.not_replies
  | goesOn => exact absurd replies (Tells.not_replies tells)
  | ends => exact absurd replies (Tells.not_replies tells)
  | answers right =>
    obtain ⟨rfl, rfl⟩ := tells.of_reply replies
    exact right
  | refuses => exact absurd replies tells.not_replies_refuse

/-- A request is answered in a poll from what has been found for the job that is polled. -/
theorem Intact.answer (h : s.Intact) (replies : Replies s (s.poll n) request reply) :
    ∃ b t, (n, b) ∈ s.jobs ∧ Answers t b request reply ∧ (s.poll n).registry = t.registry := by
  rcases h.poll_cases n with same | ⟨b, t, hb, course, leaves⟩
  · rw [same] at replies
    exact absurd replies (Tells.of_outbox rfl).not_replies
  · obtain ⟨jobs, outbox, he⟩ := leaves.beside
    exact ⟨b, t, mem_of_job? hb, leaves.answer course.tells replies, by rw [he]⟩

/-! ### Jobs of requests -/

/-- A job asks for the same as long as it is there. -/
theorem Intact.job_after (h : s.Intact) (es : List Event) (old : n < s.nextJob)
    (hb : (n, b) ∈ (s.after es).jobs) : ∃ b₀, (n, b₀) ∈ s.jobs ∧ SameJob b₀ b := by
  induction es using List.reverseRecOn generalizing b with
  | nil => exact ⟨b, hb, .refl b⟩
  | append_singleton es e ih =>
    rw [after_snoc] at hb
    rcases (h.after es).mem_jobs e hb with ⟨b₁, hb₁, same⟩ | ⟨-, new⟩
    · obtain ⟨b₀, hb₀, same₀⟩ := ih hb₁
      exact ⟨b₀, hb₀, same₀.trans same⟩
    · exact absurd old (Nat.not_lt.2 (Nat.le_trans (h.nextJob_le_after es) new))

/-- The job of a request for the diagnostics of a document asks for those of the record known under its
path, as that is then. -/
theorem Intact.job_of_pulled (h : s.Intact) {p : Message.DocumentPull} {path : Path}
    (hb : (s.nextJob, b) ∈ (s.step (.pulled request p)).jobs)
    (known : (s.step (.pulled request p)).registry.Known id r) (hp : p.uri.path? = some path)
    (same : r.path.same path = true) :
    b = .pull request ((s.step (.pulled request p)).inquire id r) := by
  have new : (s.nextJob, b) ∉ s.jobs := fun hj => Nat.lt_irrefl _ (h.fresh _ hj)
  change (s.nextJob, b) ∈ (s.orUnchanged (s.pullDocument request p)).jobs at hb
  change (s.orUnchanged (s.pullDocument request p)).registry.Known id r at known
  show b = .pull request ((s.orUnchanged (s.pullDocument request p)).inquire id r)
  cases ht : s.pullDocument request p with
  | error e =>
    rw [ht] at hb
    exact absurd hb new
  | ok t =>
    rw [ht] at hb known
    obtain ⟨path', hp', rfl | ⟨reply, rfl⟩ | ⟨r', hr', -, rfl⟩⟩ := pullDocument_eq ht
    · exact absurd hb new
    · exact absurd hb new
    · obtain rfl := Option.some.inj (hp.symm.trans hp')
      have found : (s.ensure path).1.registry.find? path = some (s.ensure path).2 := by
        show (s.registry.ensure path).1.find? path = some (s.registry.ensure path).2
        rw [Registry.find?_ensure, if_pos (Path.same_refl path)]
      have found' : (s.ensure path).1.registry.find? path = some id :=
        (PathMap.get?_congr _ same).symm.trans known.2
      obtain rfl := Option.some.inj (found.symm.trans found')
      obtain rfl := Option.some.inj (hr'.symm.trans known.1)
      rcases List.mem_append.1 hb with hb | hb
      · exact absurd hb new
      · exact congrArg Prod.snd (List.mem_singleton.1 hb)

/-- The job of a request for the diagnostics of the workspace asks for those of known records as they are
then, each under its URI. -/
theorem Intact.job_of_pulledAll (h : s.Intact) {known : List Message.KnownResult}
    (hb : (s.nextJob, b) ∈ (s.step (.pulledAll request known)).jobs) :
    ∃ targets, b = .workspace request targets ∧ ∀ u ∈ targets, ∀ id r uri, s.registry.Known id r →
      Uri.ofPath? r.path = some uri → u.uri = uri → u.inquiry = s.inquire id r := by
  change (s.nextJob, b) ∈ s.jobs ++ [(s.nextJob, Job.workspace request _)] at hb
  rcases List.mem_append.1 hb with hb | hb
  · exact absurd (h.fresh _ hb) (Nat.lt_irrefl _)
  · refine ⟨_, congrArg Prod.snd (List.mem_singleton.1 hb), ?_⟩
    rintro u hu id r uri hk hr rfl
    obtain ⟨id', hid', hu⟩ := List.mem_filterMap.1 hu
    obtain ⟨r', uri, hr', named, rfl, -⟩ := target?_eq hu
    obtain ⟨r₁, hk₁⟩ := h.registry.mem_all.1 hid'
    obtain rfl := Option.some.inj (hr'.symm.trans hk₁.1)
    obtain rfl := Registry.Sound.unique hk₁ hk (Uri.same_of_ofPath? named hr)
    obtain rfl := Option.some.inj (hr'.symm.trans hk.1)
    rfl

/-! ### Reports -/

/-- A request comes in between other events, and then the job with the next number is polled. -/
def untilAnswer (s₀ : Service) (before : List Event) (e : Event) (between : List Event) : List Event :=
  before ++ e :: between ++ [.polled (s₀.after before).nextJob]

/-- A request has come in for a document, whose record is known then; it has got a job, and a poll of that
has answered it with a report on the document. -/
structure Served (s₀ : Service) (before : List Event) (e : Event) (between : List Event) (id : Nat)
    (r : Record) (report : DocumentReport) : Prop where
  known : (s₀.after (before ++ [e])).registry.Known id r
  job : (s₀.after before).nextJob < (s₀.after (before ++ [e])).nextJob
  answered : ∃ request reply, ReportOn r e reply report ∧
    Replies (s₀.after (before ++ e :: between))
      ((s₀.after (before ++ e :: between)).poll (s₀.after before).nextJob) request reply

/-- A job has been made for a request of the editor that concerns a document, and asks for the diagnostics of
the document in this way. -/
structure Requested (e : Event) (r : Record) (i : Inquiry) (b : Job) : Prop where
  document : ∀ request p path, e = .pulled request p → p.uri.path? = some path → r.path.same path = true →
    b = .pull request i
  workspace : ∀ request known uri, e = .pulledAll request known → Uri.ofPath? r.path = some uri →
    ∃ targets, b = .workspace request targets ∧ ∀ u ∈ targets, u.uri = uri → u.inquiry = i

/-- As long as the job of a request is there, it asks for the document as that was when the request came in. -/
theorem Intact.requested (h : s.Intact) (known : (s.step e).registry.Known id r)
    (job : s.nextJob < (s.step e).nextJob) (es : List Event)
    (hb : (s.nextJob, b) ∈ ((s.step e).after es).jobs) :
    ∃ b₀, Requested e r ((s.step e).inquire id r) b₀ ∧ SameJob b₀ b := by
  obtain ⟨b₀, hb₀, same⟩ := (h.step e).job_after es job hb
  refine ⟨b₀, ⟨?_, ?_⟩, same⟩
  · rintro request p path rfl hp samePath
    exact h.job_of_pulled hb₀ known hp samePath
  · rintro request asked uri rfl named
    obtain ⟨targets, rfl, only⟩ := h.job_of_pulledAll hb₀
    exact ⟨targets, rfl, fun u hu hn => only u hu id r uri known named hn⟩

/-- What is reported on a document of the workspace is what has been found for it. -/
theorem mem_reports {targets : List Target} {uri : Uri}
    (part : (uri, report) ∈ targets.filterMap Target.report?) :
    ∃ u ∈ targets, u.uri = uri ∧ u.answer = some (some report) := by
  obtain ⟨u, hu, reported⟩ := List.mem_filterMap.1 part
  obtain ⟨report', ha, hr⟩ := Option.map_eq_some_iff.1 reported
  obtain ⟨rfl, rfl⟩ := Prod.mk.inj hr
  obtain ⟨answer, ha, rfl⟩ := Option.bind_eq_some_iff.1 ha
  exact ⟨u, hu, rfl, ha⟩

/-- The report of a job on a document is right for the job's request for its diagnostics. -/
theorem Answers.fits {i : Inquiry} (a : Answers t b request reply) (same : SameJob b₀ b)
    (on : ReportOn r e reply report) (requested : Requested e r i b₀) : t.Fits i report := by
  cases on with
  | document asked samePath =>
    obtain rfl := requested.document _ _ _ rfl asked samePath
    cases same with
    | pull same =>
      cases a with
      | pull finds =>
        rw [same] at finds ⊢
        exact ⟨rfl, finds⟩
  | @workspace _ _ uri parts _ named part =>
    obtain ⟨targets₀, rfl, only⟩ := requested.workspace _ _ uri rfl named
    cases same with
    | workspace same =>
      cases a with
      | @workspace _ targets targets' heirs =>
        obtain ⟨u', hu', rfl, ha⟩ := mem_reports part
        obtain ⟨u, hu, heir⟩ := exists_of_forall₂ heirs u' hu'
        obtain ⟨u₀, hu₀, same₀⟩ := exists_of_forall₂ same u hu
        have fits := heir.reports report ha
        have mine := only u₀ hu₀ (same₀.uri.symm.trans heir.uri.symm)
        rw [heir.inquiry, same₀.inquiry, mine] at fits
        exact fits.congr rfl

variable {host : Host} {delivery : Delivery} {settings : Settings} {waits : Bool}
  {before between : List Event}

/-- A report is right for a request for the diagnostics of the document as it was when the request came
in. -/
theorem Served.fits
    (h : Served (start host delivery settings waits) before e between id r report) :
    (session host delivery settings waits
      (untilAnswer (start host delivery settings waits) before e between)).Fits
        ((session host delivery settings waits (before ++ [e])).inquire id r) report := by
  obtain ⟨known, job, request, reply, on, replies⟩ := h
  have here : ((start host delivery settings waits).after before).Intact :=
    session_intact host delivery settings waits before
  rw [after_snoc] at known job
  rw [after_cut] at replies
  obtain ⟨b, u, hb, answers, registry⟩ := ((here.step e).after between).answer replies
  obtain ⟨b₀, requested, same⟩ := here.requested known job between hb
  have fits := answers.fits same on requested
  rw [untilAnswer, session, session, after_snoc, after_snoc, after_cut]
  exact fits.of_registry registry

end Service

end ShaderDiagnostics
