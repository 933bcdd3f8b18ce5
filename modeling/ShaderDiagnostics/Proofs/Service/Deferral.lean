import ShaderDiagnostics.Proofs.Service.Freshness
import ShaderDiagnostics.Proofs.Service.Deeds
import ShaderDiagnostics.Proofs.Service.Pursuit

/-!
# Before the first settings

A session that waits for its settings analyzes no document before they come. Then the host is asked for nothing
either, as far as that is up to the session. But requests for diagnostics do not wait: each gets a job, as long
as there is a document for it in the scope of the settings of the start, and the job reads and validates the
document by those settings. So what the host is asked for is what the editor has asked for
(`Service.deferred`), and it is not true that nothing is validated (`Service.unready_validates`).
-/

namespace ShaderDiagnostics.Service

variable {s s₀ : Service} {id : Nat} {b b' : Job} {e : Event} {es : List Event} {request : RequestId}

/-! ### What the editor asks for -/

/-- The editor has just asked for the diagnostics of a known document in scope: by its path, or together with
all others that are not open. -/
inductive AsksFor (s : Service) (id : Nat) : Event → Prop where
  /-- By its path. -/
  | document {request : RequestId} {p : Message.DocumentPull} {path : Path} {r : Record}
      (asked : p.uri.path? = some path) (known : s.registry.Known id r) (same : r.path.same path = true)
      (scope : s.inScope r = true) : AsksFor s id (.pulled request p)
  /-- With all others. -/
  | workspace {request : RequestId} {names : List Message.KnownResult} {r : Record}
      (known : s.registry.Known id r) (closed : r.opened = false) (scope : s.inScope r = true) :
      AsksFor s id (.pulledAll request names)

theorem AsksFor.isPull (h : AsksFor s id e) : e.isPull = true := by
  cases h <;> rfl

/-- The editor has asked for the diagnostics of a record in one of these events. -/
def Sought (s₀ : Service) (es : List Event) (id : Nat) : Prop :=
  ∃ before e, before ++ [e] <+: es ∧ AsksFor (s₀.after (before ++ [e])) id e

theorem Sought.snoc (h : Sought s₀ es id) (e : Event) : Sought s₀ (es ++ [e]) id := by
  obtain ⟨before, e', past, asks⟩ := h
  exact ⟨before, e', past.trans (List.prefix_append es [e]), asks⟩

theorem Sought.exists_pull (h : Sought s₀ es id) : ∃ e ∈ es, e.isPull = true := by
  obtain ⟨before, e, past, asks⟩ := h
  exact ⟨e, past.subset (by simp), asks.isPull⟩

/-- A job that answers the editor, and only for records that it has asked for. -/
structure Answering (s₀ : Service) (es : List Event) (b : Job) : Prop where
  background : ∀ delay i, b ≠ .analysis delay i
  sought : ∀ i ∈ b.inquiries, Sought s₀ es i.record

theorem Answering.snoc (h : Answering s₀ es b) (e : Event) : Answering s₀ (es ++ [e]) b :=
  ⟨h.background, fun i hi => (h.sought i hi).snoc e⟩

theorem Answering.same (h : Answering s₀ es b) (same : SameJob b b') : Answering s₀ es b' := by
  refine ⟨fun delay i => ?_, fun i' hi' => ?_⟩
  · rintro rfl
    cases same with
    | analysis => exact h.background _ _ rfl
  · obtain ⟨i, hi, own⟩ := same.inquiries i' hi'
    rw [own]
    exact h.sought i hi

/-! ### Events before the settings are known -/

theorem jobs_analyze_of_unready (unready : s.ready = false) (id : Nat) : (s.analyze id).jobs = s.jobs := by
  unfold analyze
  split
  · rfl
  · simp [unready]

/-- As long as the settings are not known, file events bring no jobs. -/
theorem jobs_fileEvent (unready : s.ready = false) (e : Message.FileEvent) :
    (s.fileEvent e).jobs = s.jobs :=
  fileEvent_ind (P := fun t => t.jobs = s.jobs) rfl (fun _ _ => rfl)
    (fun p _ => jobs_analyze_of_unready (s := (s.ensure p).1) unready _)
    (fun p _ => jobs_analyze_of_unready (s := (s.ensure p).1.bump (s.ensure p).2) unready _)
    fun p _ _ => (diskDelete_shift s p).jobs

/-- As long as the settings are not known, an event brings jobs only if the editor asks for diagnostics. -/
theorem jobs_step_of_unready (unready : s.ready = false) (unset : e.isConfigured = false)
    (unasked : e.isPull = false) (h : ∀ job, e ≠ .polled job) : (s.step e).jobs = s.jobs := by
  cases e with
  | opened uri text version =>
    refine orUnchanged_ind (P := fun t => t.jobs = s.jobs) rfl fun t ht => ?_
    obtain ⟨p, -, rfl⟩ := didOpen_eq ht
    refine jobs_analyze_of_unready ?_ _
    exact unready
  | edited uri edits version =>
    refine orUnchanged_ind (P := fun t => t.jobs = s.jobs) rfl fun t ht => ?_
    obtain ⟨p, editor, -, -, rfl⟩ := didChange_eq ht
    refine jobs_analyze_of_unready ?_ _
    exact unready
  | closed uri =>
    refine orUnchanged_ind (P := fun t => t.jobs = s.jobs) rfl fun t ht => ?_
    obtain ⟨p, -, rfl⟩ := didClose_eq ht
    dsimp only
    split
    · refine jobs_analyze_of_unready ?_ _
      exact unready
    · exact (retract_quiet _ _).jobs
  | file e => exact jobs_fileEvent unready e
  | configured settings => cases unset
  | pulled request p => cases unasked
  | pulledAll request known => cases unasked
  | polled job => exact absurd rfl (h job)
  | elapsed milliseconds => rfl
  | released gate => rfl
  | host host => rfl

/-- A poll brings no jobs. -/
theorem Intact.mem_jobs_poll (h : s.Intact) (job : Nat) {j : Nat × Job} (hj : j ∈ (s.poll job).jobs) :
    ∃ b, (j.1, b) ∈ s.jobs ∧ SameJob b j.2 := by
  rcases h.poll_cases job with same | ⟨b, t, hb, course, leaves⟩
  · exact ⟨j.2, same ▸ hj, .refl _⟩
  · rcases leaves.mem_jobs hj with hj | ⟨rfl, heir, -⟩
    · exact ⟨j.2, course.quiet.jobs ▸ hj, .refl _⟩
    · exact ⟨b, mem_of_job? hb, heir.same⟩

/-- The host is called only for records that a job asks for. -/
theorem step_hears (s : Service) (e : Event) :
    Hears (fun id => ∃ i, s.Asked i ∧ i.record = id) s (s.step e) := by
  by_cases poll : ∃ job, e = .polled job
  · obtain ⟨job, rfl⟩ := poll
    cases hb : s.job? job with
    | none =>
      have same : s.poll job = s := by rw [Service.poll, hb]
      exact .of_log (congrArg Service.log same)
    | some b =>
      exact (poll_hears hb).mono fun id ⟨i, hi, own⟩ => ⟨i, ⟨_, mem_of_job? hb, hi⟩, own⟩
  · obtain ⟨t, shift, spawns⟩ := step_brings s fun job he => poll ⟨job, he⟩
    exact .of_log (spawns.log.trans shift.log)

/-! ### Requests -/

/-- A request for the diagnostics of a document has a job only if the document is in scope. -/
theorem pulled_jobs (h : s.registry.Sound) {p : Message.DocumentPull} {j : Nat × Job}
    (hj : j ∈ (s.step (.pulled request p)).jobs) :
    j ∈ s.jobs ∨ ∃ i, j.2 = .pull request i ∧
      AsksFor (s.step (.pulled request p)) i.record (.pulled request p) := by
  simp only [step] at hj ⊢
  cases ht : s.pullDocument request p with
  | error e =>
    rw [ht] at hj
    exact Or.inl hj
  | ok t =>
    rw [ht] at hj
    obtain ⟨path, asked, rfl | ⟨reply, rfl⟩ | ⟨r, hr, inside, rfl⟩⟩ := pullDocument_eq ht
    · exact Or.inl hj
    · exact Or.inl hj
    · obtain ⟨r', known, same⟩ := known_ensured h path
      obtain rfl := Option.some.inj (hr.symm.trans known.1)
      refine (List.mem_append.1 hj).imp_right fun hj =>
        ⟨_, congrArg Prod.snd (List.mem_singleton.1 hj), ?_⟩
      exact .document asked known same inside

/-- A request for the diagnostics of the workspace asks for documents in scope that are not open. -/
theorem pulledAll_jobs (h : s.registry.Sound) {names : List Message.KnownResult} {j : Nat × Job}
    (hj : j ∈ (s.step (.pulledAll request names)).jobs) :
    j ∈ s.jobs ∨ ∃ targets, j.2 = .workspace request targets ∧ ∀ u ∈ targets,
      AsksFor (s.step (.pulledAll request names)) u.inquiry.record (.pulledAll request names) := by
  refine (List.mem_append.1 hj).imp_right fun hj => ⟨_, congrArg Prod.snd (List.mem_singleton.1 hj), ?_⟩
  intro u hu
  obtain ⟨id, hid, hu⟩ := List.mem_filterMap.1 hu
  obtain ⟨r, known⟩ := h.mem_all.1 hid
  obtain ⟨r', uri, hr', -, rfl, closed, inside⟩ := target?_eq hu
  obtain rfl := Option.some.inj (known.1.symm.trans hr')
  exact .workspace known closed inside

/-- As long as the settings are not known, a job that an event has made answers the editor, which has just
asked for that. -/
theorem Intact.mem_jobs_of_unready (h : s.Intact) (unready : s.ready = false) (unset : e.isConfigured = false)
    {j : Nat × Job} (hj : j ∈ (s.step e).jobs) :
    (∃ b, (j.1, b) ∈ s.jobs ∧ SameJob b j.2) ∨
      (∀ delay i, j.2 ≠ .analysis delay i) ∧ ∀ i ∈ j.2.inquiries, AsksFor (s.step e) i.record e := by
  have old : j ∈ s.jobs → ∃ b, (j.1, b) ∈ s.jobs ∧ SameJob b j.2 := fun hj => ⟨j.2, hj, .refl _⟩
  by_cases poll : ∃ job, e = .polled job
  · obtain ⟨job, rfl⟩ := poll
    exact Or.inl (h.mem_jobs_poll job hj)
  · cases hp : e.isPull with
    | false =>
      rw [jobs_step_of_unready unready unset hp fun job he => poll ⟨job, he⟩] at hj
      exact Or.inl (old hj)
    | true =>
      cases e with
      | pulled request p =>
        refine (pulled_jobs h.registry hj).imp old fun ⟨i, hb, asks⟩ => ?_
        rw [hb]
        exact ⟨fun _ _ => Job.noConfusion, fun i' hi' => List.mem_singleton.1 hi' ▸ asks⟩
      | pulledAll request names =>
        refine (pulledAll_jobs h.registry hj).imp old fun ⟨targets, hb, asks⟩ => ?_
        rw [hb]
        refine ⟨fun _ _ => Job.noConfusion, fun i hi => ?_⟩
        obtain ⟨u, hu, rfl⟩ := List.mem_map.1 hi
        exact asks u hu
      | _ => cases hp

/-! ### Sessions -/

/-- The settings are not known, every job answers the editor, and the host has been called for records that the
editor has asked for. -/
structure Deferred (s₀ : Service) (es : List Event) : Prop where
  ready : (s₀.after es).ready = false
  jobs : ∀ j ∈ (s₀.after es).jobs, Answering s₀ es j.2
  log : ∀ x ∈ (s₀.after es).log, ∃ id, x.isFor id = true ∧ Sought s₀ es id

/-- It stays so unless the settings are set. -/
theorem Deferred.snoc (d : Deferred s₀ es) (intact : (s₀.after es).Intact) (unset : e.isConfigured = false) :
    Deferred s₀ (es ++ [e]) := by
  have now : s₀.after (es ++ [e]) = (s₀.after es).step e := after_snoc s₀ es e
  refine ⟨now ▸ (step_ready intact.registry unset).1.trans d.ready, fun j hj => ?_, fun x hx => ?_⟩
  · rw [now] at hj
    rcases intact.mem_jobs_of_unready d.ready unset hj with ⟨b, hb, same⟩ | ⟨background, asks⟩
    · exact ((d.jobs _ hb).snoc e).same same
    · exact ⟨background, fun i hi => ⟨es, e, List.prefix_rfl, now ▸ asks i hi⟩⟩
  · rw [now] at hx
    rcases step_hears _ e x hx with hx | ⟨id, ⟨i, ⟨j, hj, hi⟩, rfl⟩, own⟩
    · obtain ⟨id, own, sought⟩ := d.log x hx
      exact ⟨id, own, sought.snoc e⟩
    · exact ⟨i.record, own, ((d.jobs j hj).sought i hi).snoc e⟩

theorem deferred_start (host : Host) (delivery : Delivery) (settings : Settings)
    (unset : ∀ e ∈ es, e.isConfigured = false) : Deferred (start host delivery settings true) es := by
  induction es using List.reverseRecOn with
  | nil => exact ⟨rfl, fun _ hj => absurd hj List.not_mem_nil, fun _ hx => absurd hx List.not_mem_nil⟩
  | append_singleton es e ih =>
    refine (ih fun x hx => unset x (by simp [hx])).snoc ?_ (unset e (by simp))
    exact session_intact host delivery settings true es

/-- **Deferral.** As long as a session waits for its settings, no job is an analysis. The host is called only
for records whose diagnostics the editor has asked for, and not at all before it asks. -/
theorem deferred (host : Host) (delivery : Delivery) (settings : Settings)
    (unset : ∀ e ∈ es, e.isConfigured = false) :
    let s₀ := start host delivery settings true
    let s := session host delivery settings true es
    s.ready = false ∧ (∀ j ∈ s.jobs, ∀ delay i, j.2 ≠ .analysis delay i) ∧
      (∀ x ∈ s.log, ∃ id, x.isFor id = true ∧ Sought s₀ es id) ∧
      ((∀ e ∈ es, e.isPull = false) → s.calls = []) := by
  intro s₀ s
  have d : Deferred s₀ es := deferred_start host delivery settings unset
  refine ⟨d.ready, fun j hj => (d.jobs j hj).background, d.log, fun unasked => ?_⟩
  have silent : s.log = [] := by
    refine List.eq_nil_iff_forall_not_mem.2 fun x hx => ?_
    obtain ⟨id, -, sought⟩ := d.log x hx
    obtain ⟨e, he, pull⟩ := sought.exists_pull
    rw [unasked e he] at pull
    cases pull
  rw [calls, silent]
  rfl

/-- The shader is opened and asked for before the settings are known. -/
def impatience : List Event := [.opened shaderUri "x".toList 1, asking, .polled 0]

/-- Whatever the host is called for then, the editor has asked for it. -/
theorem impatience_deferred :
    (∀ e ∈ impatience, e.isConfigured = false) ∧
      let s₀ := start strictHost (.pull false) promptSettings true
      let s := session strictHost (.pull false) promptSettings true impatience
      s.ready = false ∧ (∀ j ∈ s.jobs, ∀ delay i, j.2 ≠ .analysis delay i) ∧
        (∀ x ∈ s.log, ∃ id, x.isFor id = true ∧ Sought s₀ impatience id) ∧
        ((∀ e ∈ impatience, e.isPull = false) → s.calls = []) := by
  have unset : ∀ e ∈ impatience, e.isConfigured = false := by
    simp [impatience, asking, Event.isConfigured]
  exact ⟨unset, deferred strictHost (.pull false) promptSettings unset⟩

/-- The shader is validated by the settings of the start, although the session waits for others. -/
theorem unready_validates :
    (∀ e ∈ impatience, e.isConfigured = false) ∧
      (session strictHost (.pull false) promptSettings true impatience).ready = false ∧
      (session strictHost (.pull false) promptSettings true impatience).calls =
        [.run 0 ⟨Path.ofString "glslangValidator", promptSettings.arguments .vertex, "x".toList⟩] := by
  exact ⟨by simp [impatience, asking, Event.isConfigured], by decide +kernel, by decide +kernel⟩

end ShaderDiagnostics.Service
