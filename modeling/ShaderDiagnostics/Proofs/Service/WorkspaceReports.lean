import Mathlib.Data.List.TakeWhile
import ShaderDiagnostics.Proofs.Service.Handing
import ShaderDiagnostics.Proofs.Service.ResultIds

/-!
# Reports on the workspace

The documents that a report on the workspace is about are those that are not open and in scope when the request
comes in. What the editor has of them already is looked at when the job of the request is polled for the first
time, and then each of the others asks its cache. So of what happens afterwards nothing matters to a document but
how one validation ends (`Service.Followed`), however the polls of the job and other events alternate. The answer
has one report on each document, unless its validation has failed (`Service.workspace_report`).
-/

namespace ShaderDiagnostics

/-- Whether an event is a poll of a job. -/
def Event.polls (job : Nat) : Event → Bool
  | .polled n => n == job
  | _ => false

theorem Event.eq_polled {e : Event} {job : Nat} (h : e.polls job = true) : e = .polled job := by
  cases e with
  | polled n => rw [eq_of_beq h]
  | _ => cases h

/-- What happens before a job is polled for the first time. -/
def beforePoll (job : Nat) (es : List Event) : List Event := es.takeWhile fun e => !e.polls job

/-- The run that a request waits for, unless it is answered from the completed result. -/
def Source.run? {D : Type} : Source D → Option Nat
  | .completed _ => none
  | .joined run => some run
  | .started run => some run

/-- The report on a document whose diagnostics have been asked for under a token: none if the validation has
failed. -/
def reportOn (token : Token) : Except ServiceError (List Diagnostic) → Option DocumentReport
  | .ok found => some (.full (some token) found)
  | .error _ => none

namespace Service

variable {m s s' t : Service} {i : Inquiry} {id n run job : Nat} {r : Record} {b : Job} {u u₀ : Target}
  {us us₀ : List Target} {e : Event} {es : List Event} {request : RequestId} {known : List Message.KnownResult}

/-! ### Asking and being answered -/

/-- What the cache of a record answers a job's request from. -/
def source? (m : Service) (i : Inquiry) : Option (Source (List Diagnostic)) :=
  (m.registry.record? i.record).map fun r =>
    (r.results.request Token.covers i.token ⟨i.snapshot, .fresh, []⟩).2

/-- How the validation has ended that answers a request, if it has: the cache has been asked at the first of these
moments, and has had the result or else has joined or started a run, which may have ended since. -/
def ending? (m s : Service) (i : Inquiry) : Option (Except ServiceError (List Diagnostic)) :=
  (m.source? i).bind fun
    | .completed found => some (.ok found)
    | .joined run => (s.validation? i.record run).bind (·.outcome)
    | .started run => (s.validation? i.record run).bind (·.outcome)

theorem ending?_of_run? (asked : (m.source? i).bind Source.run? = some run) (s : Service) :
    m.ending? s i = (s.validation? i.record run).bind (·.outcome) := by
  obtain ⟨source, hs, hr⟩ := Option.bind_eq_some_iff.1 asked
  unfold ending?
  rw [hs]
  cases source with
  | completed found => cases hr
  | joined n =>
    cases hr
    rfl
  | started n =>
    cases hr
    rfl

/-- A validation that has ended stays so. -/
theorem ending?_lasts {outcome : Except ServiceError (List Diagnostic)} (ended : m.ending? s i = some outcome)
    (l : Lasts s s') : m.ending? s' i = some outcome := by
  have stays : ∀ run, (s.validation? i.record run).bind (·.outcome) = some outcome →
      (s'.validation? i.record run).bind (·.outcome) = some outcome := by
    intro run h
    obtain ⟨v, hv, ho⟩ := Option.bind_eq_some_iff.1 h
    obtain ⟨r, hr, hv⟩ := Option.bind_eq_some_iff.1 hv
    obtain ⟨r', hr', -, g⟩ := l.records _ r hr
    obtain ⟨v', hv', -, ended⟩ := g run v hv
    simp only [validation?, hr', Option.bind_some, hv', ended _ ho]
  unfold ending? at ended ⊢
  obtain ⟨source, hs, ho⟩ := Option.bind_eq_some_iff.1 ended
  rw [hs]
  cases source with
  | completed found => exact ho
  | joined run => exact stays run ho
  | started run => exact stays run ho

/-- Validations do not depend on what the editor shows. -/
theorem validation?_show (s : Service) (n : Nat) (token : Option Token) (id run : Nat) :
    (s.show_ n token).validation? id run = s.validation? id run := by
  unfold validation? show_
  rw [record?_modifyRecord]
  split
  · cases s.registry.record? id <;> rfl
  · rfl

/-! ### Following a document -/

/-- What has become of a document of a job for the workspace since the job was polled for the first time, at the
first of these moments. -/
inductive Followed (m s : Service) (u : Target) : Target → Prop where
  /-- The editor has had its diagnostics. -/
  | unchanged (shown : m.isShown u.inquiry.record u.inquiry.token u.previous = true) :
      Followed m s u { u with answer := some (some (.unchanged u.inquiry.token)) }
  /-- It waits for the run that its cache has joined or started. -/
  | waits {run : Nat} (unseen : m.isShown u.inquiry.record u.inquiry.token u.previous = false)
      (asked : (m.source? u.inquiry).bind Source.run? = some run) :
      Followed m s u { u with inquiry := { u.inquiry with run := some run } }
  /-- Its validation has ended. -/
  | ended {run : Option Nat} {outcome : Except ServiceError (List Diagnostic)}
      (unseen : m.isShown u.inquiry.record u.inquiry.token u.previous = false)
      (ended : m.ending? s u.inquiry = some outcome) :
      Followed m s u
        { u with inquiry := { u.inquiry with run }, answer := some (reportOn u.inquiry.token outcome) }

theorem Followed.lasts (h : Followed m s u₀ u) (l : Lasts s s') : Followed m s' u₀ u := by
  cases h with
  | unchanged shown => exact .unchanged shown
  | waits unseen asked => exact .waits unseen asked
  | ended unseen ended => exact .ended unseen (ending?_lasts ended l)

/-- What a poll of a document comes to if it has to ask. -/
theorem pollTarget_eq (unanswered : u.answer = none)
    (look : (u.inquiry.run.isNone && s.isShown u.inquiry.record u.inquiry.token u.previous) = false) :
    s.pollTarget job u =
      match s.pollInquiry job u.inquiry with
      | (s, i, none) => (s, { u with inquiry := i })
      | (s, i, some (.ok found)) =>
        (s.show_ i.record (some i.token),
          { u with inquiry := i, answer := some (some (.full (some i.token) found)) })
      | (s, i, some (.error e)) =>
        (s.report workspacePullMethod e, { u with inquiry := i, answer := some none }) := by
  unfold pollTarget
  rw [unanswered, look]
  rfl

/-- A document that waits for a run is followed by letting the run go on. -/
theorem followed_await {known : Option Nat} (unanswered : u.answer = none)
    (unseen : m.isShown u.inquiry.record u.inquiry.token u.previous = false)
    (asked : (m.source? u.inquiry).bind Source.run? = some run)
    (look : (known.isNone && s.isShown u.inquiry.record u.inquiry.token u.previous) = false)
    (inquired : s.pollInquiry job { u.inquiry with run := known } = t.await { u.inquiry with run := known } run) :
    Followed m (s.pollTarget job { u with inquiry := { u.inquiry with run := known } }).1 u
      (s.pollTarget job { u with inquiry := { u.inquiry with run := known } }).2 := by
  have ending := ending?_of_run? asked
  rw [pollTarget_eq (by exact unanswered) (by exact look)]
  dsimp only
  rw [inquired]
  unfold await
  dsimp only
  have same := validation?_show (t.pollValidation u.inquiry.record run) u.inquiry.record (some u.inquiry.token)
    u.inquiry.record run
  cases ho : ((t.pollValidation u.inquiry.record run).validation? u.inquiry.record run).bind (·.outcome) with
  | none => exact .waits unseen asked
  | some outcome =>
    have ended : m.ending? (t.pollValidation u.inquiry.record run) u.inquiry = some outcome := (ending _).trans ho
    cases outcome with
    | ok found =>
      have shown : m.ending? ((t.pollValidation u.inquiry.record run).show_ u.inquiry.record
          (some u.inquiry.token)) u.inquiry = some (.ok found) := by rw [ending, same, ho]
      exact @Followed.ended m _ u (some run) _ unseen shown
    | error e =>
      have told : m.ending? ((t.pollValidation u.inquiry.record run).report workspacePullMethod e) u.inquiry =
          some (.error e) := ended
      exact @Followed.ended m _ u (some run) _ unseen told

/-- The first poll of a document, when its record is what it was as the poll of the job began. -/
theorem followed_first (unanswered : u.answer = none) (unasked : u.inquiry.run = none)
    (hr : m.registry.record? u.inquiry.record = some r) (same : s.registry.record? u.inquiry.record = some r)
    (job : Nat) : Followed m (s.pollTarget job u).1 u (s.pollTarget job u).2 := by
  have shown : s.isShown u.inquiry.record u.inquiry.token u.previous =
      m.isShown u.inquiry.record u.inquiry.token u.previous := by
    unfold isShown
    rw [hr, same]
  cases look : m.isShown u.inquiry.record u.inquiry.token u.previous with
  | true =>
    have polled : s.pollTarget job u = (s, { u with answer := some (some (.unchanged u.inquiry.token)) }) := by
      unfold pollTarget
      rw [unanswered, unasked, shown, look]
      rfl
    rw [polled]
    exact .unchanged look
  | false =>
    have look' : (u.inquiry.run.isNone && s.isShown u.inquiry.record u.inquiry.token u.previous) = false := by
      rw [shown, look, Bool.and_false]
    have source : m.source? u.inquiry =
        some (r.results.request Token.covers u.inquiry.token ⟨u.inquiry.snapshot, .fresh, []⟩).2 := by
      unfold source?
      rw [hr]
      rfl
    have polled := pollInquiry_new unasked same job
    generalize r.results.request Token.covers u.inquiry.token ⟨u.inquiry.snapshot, .fresh, []⟩ = a at source polled
    obtain ⟨results, answer⟩ := a
    cases answer with
    | completed found =>
      have ended : m.ending? (s.show_ u.inquiry.record (some u.inquiry.token)) u.inquiry = some (.ok found) := by
        unfold ending?
        rw [source]
        rfl
      rw [pollTarget_eq unanswered look', polled]
      exact @Followed.ended m _ u u.inquiry.run _ look ended
    | joined run => exact @followed_await _ _ _ _ _ _ u.inquiry.run unanswered look (by rw [source]; rfl) look' polled
    | started run => exact @followed_await _ _ _ _ _ _ u.inquiry.run unanswered look (by rw [source]; rfl) look' polled

/-- A later poll of a document. -/
theorem Followed.poll (unanswered : u₀.answer = none) (h : Followed m s u₀ u) (job : Nat) :
    Followed m (s.pollTarget job u).1 u₀ (s.pollTarget job u).2 := by
  cases h with
  | unchanged shown => exact .unchanged shown
  | waits unseen asked => exact followed_await unanswered unseen asked rfl rfl
  | ended unseen ended => exact .ended unseen ended

theorem Followed.record (h : Followed m s u₀ u) : u.inquiry.record = u₀.inquiry.record := by
  cases h <;> rfl

/-! ### The documents of a job -/

/-- A document of a job for the workspace can be polled: it has been followed so far, or it is polled for the first
time and its record is what it was as the poll of the job began. -/
def Ready (m s : Service) (u₀ u : Target) : Prop :=
  Followed m s u₀ u ∨
    u = u₀ ∧ s.registry.record? u₀.inquiry.record = m.registry.record? u₀.inquiry.record

/-- A document that a job has not polled yet, with its record. -/
structure Fresh (m : Service) (u : Target) : Prop where
  unanswered : u.answer = none
  unasked : u.inquiry.run = none
  record : ∃ r, m.registry.record? u.inquiry.record = some r

theorem Ready.poll (h : Ready m s u₀ u) (fresh : m.Fresh u₀) (job : Nat) :
    Followed m (s.pollTarget job u).1 u₀ (s.pollTarget job u).2 := by
  rcases h with followed | ⟨rfl, same⟩
  · exact followed.poll fresh.unanswered job
  · obtain ⟨r, hr⟩ := fresh.record
    exact followed_first fresh.unanswered fresh.unasked hr (same.trans hr) job

theorem Ready.record (h : Ready m s u₀ u) : u.inquiry.record = u₀.inquiry.record := by
  rcases h with followed | ⟨rfl, -⟩
  · exact followed.record
  · rfl

/-- A poll of a document leaves the records of others alone. -/
theorem pollTarget_others (s : Service) (job : Nat) (u : Target) (other : id ≠ u.inquiry.record) :
    (s.pollTarget job u).1.registry.record? id = s.registry.record? id := by
  have pursues : Pursues (· = u.inquiry.record) s (s.pollInquiry job u.inquiry).1 := pollInquiry_pursues s job rfl
  have asked := pursues.others id other
  have own : (s.pollInquiry job u.inquiry).2.1.record = u.inquiry.record := (pollInquiry_same s job u.inquiry).1
  unfold pollTarget
  split
  · rfl
  · split
    · rfl
    · generalize s.pollInquiry job u.inquiry = a at asked own
      obtain ⟨s', i', o⟩ := a
      rcases o with _ | e | found
      · exact asked
      · exact asked
      · dsimp only at own ⊢
        rw [show_, record?_modifyRecord, if_neg (own ▸ other)]
        exact asked

theorem Ready.pollOther (h : Ready m s u₀ u) {v : Target} (apart : u₀.inquiry.record ≠ v.inquiry.record)
    (l : Lasts s (s.pollTarget job v).1) : Ready m (s.pollTarget job v).1 u₀ u := by
  rcases h with followed | ⟨rfl, same⟩
  · exact Or.inl (followed.lasts l)
  · exact Or.inr ⟨rfl, (pollTarget_others s job v apart).trans same⟩

/-- A poll of the documents of a job, which have different records, follows all of them. -/
theorem pollTargets_followed (job : Nat) (tidy : s.Tidy) (waits : ∀ u ∈ us, s.Waits u.inquiry)
    (reports : ∀ u ∈ us, s.Reports u) (fresh : ∀ u₀ ∈ us₀, m.Fresh u₀)
    (apart : (us₀.map (·.inquiry.record)).Nodup) (ready : List.Forall₂ (Ready m s) us₀ us) :
    List.Forall₂ (Followed m (s.pollTargets job us).1) us₀ (s.pollTargets job us).2 := by
  induction us₀ generalizing s us with
  | nil =>
    cases ready
    exact .nil
  | cons u₀ us₀ ih =>
    cases ready with
    | @cons _ u _ us first rest =>
    obtain ⟨fresh, freshRest⟩ := List.forall_mem_cons.1 fresh
    obtain ⟨other, apartRest⟩ := List.nodup_cons.1 apart
    obtain ⟨course, -⟩ := pollTarget_heir tidy (waits u List.mem_cons_self) (reports u List.mem_cons_self) job
    have waits' : ∀ v ∈ us, (s.pollTarget job u).1.Waits v.inquiry := fun v hv =>
      (waits v (List.mem_cons_of_mem _ hv)).lasts course.lasts
    have reports' : ∀ v ∈ us, (s.pollTarget job u).1.Reports v := fun v hv =>
      (reports v (List.mem_cons_of_mem _ hv)).lasts course.lasts
    have elsewhere : ∀ v₀ ∈ us₀, v₀.inquiry.record ≠ u.inquiry.record := fun v₀ hv same =>
      other (List.mem_map.2 ⟨v₀, hv, same.trans first.record⟩)
    have ready : List.Forall₂ (Ready m (s.pollTarget job u).1) us₀ us :=
      ((List.forall₂_and_left _ _).2 ⟨elsewhere, rest⟩).imp fun _ _ h => h.2.pollOther h.1 course.lasts
    have followed := ih (course.tidy tidy) waits' reports' freshRest apartRest ready
    have later := (pollTargets_heirs job (course.tidy tidy) waits' reports').1.lasts
    exact .cons ((first.poll fresh job).lasts later) followed

/-! ### The polls of a job -/

section

variable (h : s.Intact)
include h

/-- Only its own polls concern a job that is there. -/
theorem Intact.job_unpolled (old : n < s.nextJob) (apart : ∀ e ∈ es, e.polls n = false)
    (hb : (n, b) ∈ (s.after es).jobs) : (n, b) ∈ s.jobs := by
  induction es using List.reverseRecOn with
  | nil => exact hb
  | append_singleton es e ih =>
    refine ih (fun e he => apart e (List.mem_append_left _ he)) ?_
    have other : e.polls n = false := apart e (by simp)
    rw [after_snoc] at hb
    by_cases poll : ∃ job, e = .polled job
    · obtain ⟨job, rfl⟩ := poll
      rcases (h.after es).poll_cases job with same | ⟨b₁, t, -, course, leaves⟩
      · exact same ▸ hb
      · rcases leaves.mem_jobs hb with hb | ⟨own, -⟩
        · exact course.quiet.jobs ▸ hb
        · exact absurd own.symm (beq_eq_false_iff_ne.1 other)
    · obtain ⟨t, shift, spawns⟩ := step_brings (s.after es) fun job he => poll ⟨job, he⟩
      rcases spawns.mem_jobs hb with hb | ⟨-, new, -⟩
      · exact shift.jobs ▸ hb
      · exact absurd old (Nat.not_lt.2 (Nat.le_trans (h.nextJob_le_after es) (shift.nextJob ▸ new)))

variable (hj : s.job? n = some (.workspace request us))
include hj

/-- A poll of a job for the workspace follows its documents. -/
theorem Intact.followed_poll (fresh : ∀ u₀ ∈ us₀, m.Fresh u₀) (apart : (us₀.map (·.inquiry.record)).Nodup)
    (ready : List.Forall₂ (Ready m s) us₀ us) :
    List.Forall₂ (Followed m (s.poll n)) us₀ (s.pollTargets n us).2 := by
  have waiting : s.Waiting (.workspace request us) := h.jobs _ (mem_of_job? hj)
  have followed := pollTargets_followed n h.tidy (fun u hu => waiting.waits _ (List.mem_map_of_mem hu))
    waiting.reports fresh apart ready
  have lasts : Lasts (s.pollTargets n us).1 (s.poll n) := by
    unfold poll
    rw [hj]
    dsimp only [pollWorkspace]
    split <;> exact ⟨(Lasts.refl _).log, (Lasts.refl _).records⟩
  exact followed.imp fun _ _ f => f.lasts lasts

end

/-- From its first poll on, a job for the workspace follows its documents. -/
theorem Intact.followed_after (h : m.Intact) (hj : m.job? n = some (.workspace request us₀))
    (fresh : ∀ u₀ ∈ us₀, m.Fresh u₀) (apart : (us₀.map (·.inquiry.record)).Nodup) (es : List Event)
    (hb : (n, b) ∈ ((m.poll n).after es).jobs) :
    ∃ us, b = .workspace request us ∧ List.Forall₂ (Followed m ((m.poll n).after es)) us₀ us := by
  have begun : (m.poll n).Intact := h.step (.polled n)
  have first : List.Forall₂ (Ready m m) us₀ us₀ := List.forall₂_same.2 fun _ _ => Or.inr ⟨rfl, rfl⟩
  induction es using List.reverseRecOn generalizing b with
  | nil => exact ⟨_, job_polled hj hb, h.followed_poll hj fresh apart first⟩
  | append_singleton es e ih =>
    have here := begun.after es
    rw [after_snoc] at hb ⊢
    have old : n < ((m.poll n).after es).nextJob :=
      Nat.lt_of_lt_of_le (h.fresh _ (mem_of_job? hj))
        (Nat.le_trans (h.nextJob_le (.polled n)) (begun.nextJob_le_after es))
    cases polls : e.polls n with
    | false =>
      have unpolled : ∀ x ∈ [e], x.polls n = false := by simpa using polls
      have still : (n, b) ∈ ((m.poll n).after es).jobs := here.job_unpolled old unpolled hb
      obtain ⟨us, rfl, followed⟩ := ih still
      exact ⟨us, rfl, followed.imp fun _ _ f => f.lasts (here.lasts e)⟩
    | true =>
      obtain rfl := Event.eq_polled polls
      obtain ⟨b₁, hb₁, -⟩ := here.job_after [.polled n] old hb
      obtain ⟨us, rfl, followed⟩ := ih hb₁
      have hj₁ := here.job?_of_mem hb₁
      exact ⟨_, job_polled hj₁ hb, here.followed_poll hj₁ fresh apart (followed.imp fun _ _ => Or.inl)⟩

/-! ### The documents of a request -/

theorem record_of_target? (h : s.target? known id = some u) : u.inquiry.record = id := by
  obtain ⟨r, uri, -, -, rfl, -⟩ := target?_eq h
  rfl

/-- The documents of a request have different records. -/
theorem nodup_records (h : s.registry.Sound) (known : List Message.KnownResult) :
    ((s.registry.all.filterMap (s.target? known)).map (·.inquiry.record)).Nodup := by
  rw [List.Nodup, List.pairwise_map, List.pairwise_filterMap]
  refine h.nodup_all.imp fun apart u hu v hv => ?_
  rw [record_of_target? hu, record_of_target? hv]
  exact apart

/-- The documents of a request have different URIs. -/
theorem distinct_uris (h : s.registry.Sound) (known : List Message.KnownResult) :
    (s.registry.all.filterMap (s.target? known)).Pairwise fun u v => u.uri.text ≠ v.uri.text := by
  refine List.pairwise_filterMap.2 (h.nodup_all.imp_of_mem ?_)
  intro k l hk hl apart u hu v hv same
  obtain ⟨r, uri, hr, named, rfl, -⟩ := target?_eq hu
  obtain ⟨r', uri', hr', named', rfl, -⟩ := target?_eq hv
  obtain ⟨r₁, known₁⟩ := h.mem_all.1 hk
  obtain ⟨r₂, known₂⟩ := h.mem_all.1 hl
  obtain rfl := Option.some.inj (hr.symm.trans known₁.1)
  obtain rfl := Option.some.inj (hr'.symm.trans known₂.1)
  obtain rfl : uri = uri' := by
    cases uri
    cases uri'
    cases same
    rfl
  exact apart (Registry.Sound.unique known₁ known₂ (Uri.same_of_ofPath? named named'))

/-- No document of a request has been polled yet. -/
theorem fresh_of_target? (h : s.target? known id = some u) (l : Lasts s m) : m.Fresh u := by
  obtain ⟨r, uri, hr, -, rfl, -⟩ := target?_eq h
  obtain ⟨r', hr', -⟩ := l.records id r hr
  exact ⟨rfl, rfl, r', hr'⟩

/-! ### Reports -/

/-- What is reported on a document: that it has not changed if the editor has had its diagnostics, and what its
validation has found otherwise. -/
def due? (m s : Service) (u : Target) : Option DocumentReport :=
  if m.isShown u.inquiry.record u.inquiry.token u.previous then some (.unchanged u.inquiry.token)
  else (m.ending? s u.inquiry).bind (reportOn u.inquiry.token)

/-- A document that has been followed and answered has the report that is due, and has not been asked for in vain. -/
theorem Followed.due? (h : Followed m s u₀ u) (unanswered : u₀.answer = none) (answered : u.answer.isSome = true) :
    Target.report? u = (m.due? s u₀).map (fun report => (u₀.uri, report)) ∧
      (m.isShown u₀.inquiry.record u₀.inquiry.token u₀.previous = false → (m.ending? s u₀.inquiry).isSome = true) := by
  unfold Service.due?
  cases h with
  | unchanged shown =>
    rw [if_pos shown]
    exact ⟨rfl, fun unseen => nomatch shown.symm.trans unseen⟩
  | waits => exact nomatch (unanswered ▸ answered : (none : Option (Option DocumentReport)).isSome = true)
  | ended unseen ended =>
    rw [if_neg (by simp [unseen]), ended]
    exact ⟨rfl, fun _ => rfl⟩

/-- The editor shows the diagnostics of a token for a record, and the first result that it names for the URI is
that of the token. -/
def Confirmed (m : Service) (id : Nat) (token : Token) (known : List Message.KnownResult) (uri : Uri) : Prop :=
  (m.registry.record? id).bind Record.display = some token ∧
    ∃ k, known.find? (fun k => k.uri.text == uri.text) = some k ∧ k.name = token.text

theorem isShown_iff {token : Token} {uri : Uri} :
    m.isShown id token (previousResult known uri) = true ↔ m.Confirmed id token known uri := by
  unfold isShown Confirmed previousResult
  cases m.registry.record? id <;> simp

variable {host : Host} {delivery : Delivery} {settings : Settings} {waits : Bool} {before between : List Event}
  {items : List (Uri × DocumentReport)}

/-- The reports that are sent are those that are due, and all validations have ended. -/
theorem reports_due (followed : List.Forall₂ (Followed m s) us₀ us) (unanswered : ∀ u₀ ∈ us₀, u₀.answer = none)
    (answered : ∀ u ∈ us, u.answer.isSome = true) :
    us.filterMap Target.report? = us₀.filterMap (fun u => (m.due? s u).map fun report => (u.uri, report)) ∧
      ∀ u ∈ us₀, m.isShown u.inquiry.record u.inquiry.token u.previous = false →
        (m.ending? s u.inquiry).isSome = true := by
  induction followed with
  | nil => exact ⟨rfl, fun _ hu => absurd hu List.not_mem_nil⟩
  | cons first _ ih =>
    obtain ⟨unanswered, unansweredRest⟩ := List.forall_mem_cons.1 unanswered
    obtain ⟨answered, answeredRest⟩ := List.forall_mem_cons.1 answered
    obtain ⟨report, ended⟩ := first.due? unanswered answered
    obtain ⟨reports, endedRest⟩ := ih unansweredRest answeredRest
    refine ⟨?_, List.forall_mem_cons.2 ⟨ended, endedRest⟩⟩
    rw [List.filterMap_cons, List.filterMap_cons, report, reports]

/-- However often the job of a request has been polled: when it is polled again, all its documents can be. -/
theorem Intact.ready (h : s.Intact) (hj : s.job? n = some (.workspace request us₀))
    (fresh : ∀ u ∈ us₀, (s.after (beforePoll n es)).Fresh u) (apart : (us₀.map (·.inquiry.record)).Nodup)
    (hb : (s.after es).job? n = some b) :
    ∃ us, b = .workspace request us ∧
      List.Forall₂ (Ready (s.after (beforePoll n es)) (s.after es)) us₀ us := by
  have old : n < s.nextJob := h.fresh _ (mem_of_job? hj)
  have unpolled : ∀ e ∈ beforePoll n es, e.polls n = false := fun e he => by
    simpa using List.mem_takeWhile_imp he
  have still : ∀ {b}, (n, b) ∈ (s.after (beforePoll n es)).jobs → b = .workspace request us₀ := fun hb =>
    Option.some.inj ((h.job?_of_mem (h.job_unpolled old unpolled hb)).symm.trans hj)
  have cut : es = beforePoll n es ++ es.dropWhile fun e => !e.polls n := List.takeWhile_append_dropWhile.symm
  cases rest : es.dropWhile fun e => !e.polls n with
  | nil =>
    rw [rest, List.append_nil] at cut
    rw [← cut] at still ⊢
    exact ⟨us₀, still (mem_of_job? hb), List.forall₂_same.2 fun _ _ => Or.inr ⟨rfl, rfl⟩⟩
  | cons e later =>
    have first : e.polls n = true := by
      have head := List.dropWhile_get_zero_not (fun e => !e.polls n) es (by rw [rest]; exact Nat.succ_pos _)
      simpa [rest] using head
    obtain rfl := Event.eq_polled first
    rw [rest] at cut
    generalize beforePoll n es = earlier at *
    subst cut
    rw [after_cut] at hb ⊢
    have here := h.after earlier
    have old' : n < (s.after earlier).nextJob := Nat.lt_of_lt_of_le old (h.nextJob_le_after earlier)
    obtain ⟨b₁, hb₁, -⟩ := here.job_after (.polled n :: later) old' (mem_of_job? hb)
    have hj₁ := here.job?_of_mem (still hb₁ ▸ hb₁)
    obtain ⟨us, rfl, followed⟩ := here.followed_after hj₁ fresh apart later (mem_of_job? hb)
    exact ⟨us, rfl, followed.imp fun _ _ => Or.inl⟩

/-- The answer to a request for the diagnostics of the workspace has the reports that are due on its documents. -/
theorem Intact.workspace_answer (h : s.Intact)
    (answered : Replies ((s.pullWorkspace request known).after between)
      (((s.pullWorkspace request known).after between).poll s.nextJob) request (.workspace items)) :
    let m := (s.pullWorkspace request known).after (beforePoll s.nextJob between)
    let t := ((s.pullWorkspace request known).after between).poll s.nextJob
    items = (s.registry.all.filterMap (s.target? known)).filterMap (fun u =>
        (m.due? t u).map fun report => (u.uri, report)) ∧
      ∀ u ∈ s.registry.all.filterMap (s.target? known),
        m.isShown u.inquiry.record u.inquiry.token u.previous = false → (m.ending? t u.inquiry).isSome = true := by
  intro m t
  have asked : (s.pullWorkspace request known).Intact := h.step (.pulledAll request known)
  have here := asked.after between
  have hj : (s.pullWorkspace request known).job? s.nextJob =
      some (.workspace request (s.registry.all.filterMap (s.target? known))) :=
    asked.job?_of_mem (List.mem_append_right _ (List.mem_singleton_self _))
  have lasts : Lasts s m := (h.lasts (.pulledAll request known)).trans (asked.lasts_after _)
  have fresh : ∀ u ∈ s.registry.all.filterMap (s.target? known), m.Fresh u := fun u hu => by
    obtain ⟨id, -, hu⟩ := List.mem_filterMap.1 hu
    exact fresh_of_target? hu lasts
  have apart := nodup_records h.registry known
  rcases here.poll_cases s.nextJob with same | ⟨b, -, hb, -, -⟩
  · rw [same] at answered
    exact absurd answered (Tells.of_outbox rfl).not_replies
  · obtain ⟨us, rfl, ready⟩ := asked.ready hj fresh apart hb
    obtain ⟨all, -, reply⟩ := here.replies_workspace hb answered
    cases reply
    exact reports_due (here.followed_poll hb fresh apart ready) (fun u hu => (fresh u hu).unanswered) all

/-- A known document that is not open, in scope and has a URI is one of the documents of a request. -/
theorem mem_targets (h : s.registry.Sound) :
    u ∈ s.registry.all.filterMap (s.target? known) ↔ ∃ id r uri, s.registry.Known id r ∧ r.opened = false ∧
      s.inScope r = true ∧ Uri.ofPath? r.path = some uri ∧
        u = ⟨uri, previousResult known uri, s.inquire id r, none⟩ := by
  rw [List.mem_filterMap]
  constructor
  · rintro ⟨id, hid, hu⟩
    obtain ⟨r, uri, hr, named, rfl, closed, inside⟩ := target?_eq hu
    obtain ⟨r', known⟩ := h.mem_all.1 hid
    obtain rfl := Option.some.inj (hr.symm.trans known.1)
    exact ⟨id, r, uri, known, closed, inside, named, rfl⟩
  · rintro ⟨id, r, uri, known, closed, inside, named, rfl⟩
    refine ⟨id, h.mem_all.2 ⟨r, known⟩, ?_⟩
    simp only [target?, known.1, closed, inside, named, Bool.not_true, Bool.or_false, Bool.false_eq_true, if_false,
      Option.map_some]

theorem due?_eq_some {token : Token} {uri : Uri} {sn : Snapshot} {report : DocumentReport} :
    m.due? t ⟨uri, previousResult known uri, ⟨id, token, sn, none⟩, none⟩ = some report ↔
      m.Confirmed id token known uri ∧ report = .unchanged token ∨
        ¬ m.Confirmed id token known uri ∧ ∃ found,
          m.ending? t ⟨id, token, sn, none⟩ = some (.ok found) ∧ report = .full (some token) found := by
  unfold due?
  dsimp only
  split
  next shown =>
    have confirmed := isShown_iff.1 shown
    simp [confirmed, eq_comm]
  next unseen =>
    have unconfirmed : ¬ m.Confirmed id token known uri := fun confirmed => unseen (isShown_iff.2 confirmed)
    simp only [unconfirmed, false_and, false_or, not_false_eq_true, true_and, Option.bind_eq_some_iff]
    constructor
    · rintro ⟨outcome, ended, due⟩
      cases outcome with
      | ok found => exact ⟨found, ended, (Option.some.inj due).symm⟩
      | error e => cases due
    · rintro ⟨found, ended, rfl⟩
      exact ⟨_, ended, rfl⟩

/-- **Complete reports.** A request for the diagnostics of the workspace comes in, and a poll of its job answers it,
whatever has happened in between. Then no two reports are for the same URI, and they are those on the known
documents that were not open, in scope and had a URI when the request came in, each under the token of that moment:
that it has not changed, if that is what the editor showed when the job was polled for the first time, and if the
first result that the request names for the URI is that of the token; otherwise what its validation has found, and
no report at all if the validation has failed. All these validations have ended by then. -/
theorem workspace_report
    (answered : let s := session host delivery settings waits before
      Replies (s.after (.pulledAll request known :: between))
        ((s.after (.pulledAll request known :: between)).poll s.nextJob) request (.workspace items)) :
    let s := session host delivery settings waits before
    let m := s.after (.pulledAll request known :: beforePoll s.nextJob between)
    let t := (s.after (.pulledAll request known :: between)).poll s.nextJob
    (items.map fun item => item.1.text).Nodup ∧
      (∀ uri report, (uri, report) ∈ items ↔
        ∃ id r, s.registry.Known id r ∧ r.opened = false ∧ s.inScope r = true ∧ Uri.ofPath? r.path = some uri ∧
          (m.Confirmed id (s.tokenOf r) known uri ∧ report = .unchanged (s.tokenOf r) ∨
            ¬ m.Confirmed id (s.tokenOf r) known uri ∧ ∃ found,
              m.ending? t (s.inquire id r) = some (.ok found) ∧ report = .full (some (s.tokenOf r)) found)) ∧
      ∀ id r uri, s.registry.Known id r → r.opened = false → s.inScope r = true →
        Uri.ofPath? r.path = some uri → ¬ m.Confirmed id (s.tokenOf r) known uri →
          ∃ outcome, m.ending? t (s.inquire id r) = some outcome := by
  intro s m t
  have intact : s.Intact := session_intact host delivery settings waits before
  obtain ⟨reports, ended⟩ := intact.workspace_answer answered
  change items = (s.registry.all.filterMap (s.target? known)).filterMap
    (fun u => (m.due? t u).map fun report => (u.uri, report)) at reports
  refine ⟨?_, fun uri report => ?_, fun id r uri known' closed inside named unconfirmed => ?_⟩
  · rw [reports, List.Nodup, List.pairwise_map, List.pairwise_filterMap]
    refine (distinct_uris intact.registry known).imp fun apart a ha b hb => ?_
    obtain ⟨_, -, rfl⟩ := Option.map_eq_some_iff.1 ha
    obtain ⟨_, -, rfl⟩ := Option.map_eq_some_iff.1 hb
    exact apart
  · rw [reports, List.mem_filterMap]
    constructor
    · rintro ⟨u, hu, due⟩
      obtain ⟨id, r, uri, known', closed, inside, named, rfl⟩ := (mem_targets intact.registry).1 hu
      obtain ⟨report, due, same⟩ := Option.map_eq_some_iff.1 due
      cases same
      exact ⟨id, r, known', closed, inside, named, due?_eq_some.1 due⟩
    · rintro ⟨id, r, known', closed, inside, named, due⟩
      refine ⟨_, (mem_targets intact.registry).2 ⟨id, r, uri, known', closed, inside, named, rfl⟩, ?_⟩
      exact Option.map_eq_some_iff.2 ⟨report, due?_eq_some.2 due, rfl⟩
  · let u : Target := ⟨uri, previousResult known uri, s.inquire id r, none⟩
    have mine : u ∈ s.registry.all.filterMap (s.target? known) :=
      (mem_targets intact.registry).2 ⟨id, r, uri, known', closed, inside, named, rfl⟩
    have unseen : m.isShown id (s.tokenOf r) (previousResult known uri) = false :=
      Bool.eq_false_iff.2 fun shown => unconfirmed (isShown_iff.1 shown)
    exact Option.isSome_iff_exists.1 (ended u mine unseen)

/-! ### An answer -/

/-- The reports in the answer to a request for the diagnostics of the workspace. -/
def workspaceReports? (request : RequestId) : Outgoing → Option (List (Uri × DocumentReport))
  | .reply id (.workspace items) => if id = request then some items else none
  | _ => none

/-- A request has been answered with reports if these are what is found among the messages sent. -/
theorem replies_of_reports? (sent : (s'.outbox.since s.outbox.sent.length).findSome? (workspaceReports? request) =
    some items) : Replies s s' request (.workspace items) := by
  obtain ⟨message, hm, h⟩ := List.exists_of_findSome?_eq_some sent
  unfold workspaceReports? at h
  split at h
  · split at h
    next same =>
      obtain rfl := Option.some.inj h
      exact same ▸ hm
    · cases h
  · cases h

/-- Another vertex shader. -/
def otherUri : Uri := ⟨"file:///b.vert", by decide +kernel⟩

/-- A vertex shader that cannot be read. -/
def lostUri : Uri := ⟨"file:///c.vert", by decide +kernel⟩

/-- A host that has lost a document. -/
def patchyHost : Host :=
  ({ strictScript with
    files := (PathMap.empty.insert (Path.ofString "/a.vert") "x".toList).insert (Path.ofString "/b.vert")
      "x".toList } : ScriptedHost).host

/-- Three shaders appear on disk, and the workspace is asked for; then one of them changes. -/
def gathering : List Event :=
  [.file ⟨shaderUri, 1⟩, .file ⟨otherUri, 1⟩, .file ⟨lostUri, 1⟩, .pulledAll (.number 1) [], .polled 3,
    .file ⟨otherUri, 2⟩]

/-- What the editor has then. -/
def gathered : List Message.KnownResult := [⟨shaderUri, "1:0"⟩, ⟨otherUri, "1:0"⟩]

/-- The workspace is asked for again. The first shader has not changed; the second one has, and its validation is
shared with an analysis; the third one cannot be read. -/
theorem gathered_reports :
    let s := session patchyHost (.pull true) workspaceSettings false gathering
    let now := s.after (.pulledAll (.number 2) gathered :: [.polled 4])
    let items := [(shaderUri, .unchanged ⟨1, 0⟩), (otherUri, .full (some ⟨2, 0⟩) (fault 0))]
    Replies now (now.poll s.nextJob) (.number 2) (.workspace items) ∧
      (∃ id r, s.registry.Known id r ∧ now.Confirmed id (s.tokenOf r) gathered shaderUri) ∧
      ∃ id r, s.registry.Known id r ∧ Uri.ofPath? r.path = some lostUri ∧
        ∃ e, now.ending? (now.poll s.nextJob) (s.inquire id r) = some (.error e) := by
  intro s now items
  have answered : Replies now (now.poll s.nextJob) (.number 2) (.workspace items) :=
    replies_of_reports? (by decide +kernel)
  have next : s.nextJob = 5 := by decide +kernel
  have unpolled : beforePoll s.nextJob [.polled 4] = [.polled 4] := by
    rw [next]
    rfl
  obtain ⟨-, reports, ended⟩ := workspace_report answered
  change beforePoll (session patchyHost (.pull true) workspaceSettings false gathering).nextJob _ = _ at unpolled
  rw [unpolled] at reports ended
  refine ⟨answered, ?_, ?_⟩
  · obtain ⟨id, r, known, -, -, -, ⟨confirmed, -⟩ | ⟨-, found, -, same⟩⟩ :=
      (reports shaderUri (.unchanged ⟨1, 0⟩)).1 List.mem_cons_self
    · exact ⟨id, r, known, confirmed⟩
    · cases same
  · have lost : (s.registry.record? 2).any (fun r => decide (s.registry.find? r.path = some 2) && !r.opened &&
        s.inScope r && decide (Uri.ofPath? r.path = some lostUri)) = true := by decide +kernel
    obtain ⟨r, hr, lost⟩ := (Option.any_eq_true _ _).1 lost
    simp only [Bool.and_eq_true, decide_eq_true_eq, Bool.not_eq_true'] at lost
    obtain ⟨⟨⟨found, closed⟩, inside⟩, named⟩ := lost
    have unnamed : (gathered.find? fun k => k.uri.text == lostUri.text).isNone = true := by decide +kernel
    have unconfirmed : ¬ now.Confirmed 2 (s.tokenOf r) gathered lostUri := by
      rintro ⟨-, k, hk, -⟩
      rw [hk] at unnamed
      cases unnamed
    obtain ⟨outcome, hout⟩ := ended 2 r lostUri ⟨hr, found⟩ closed inside named unconfirmed
    cases outcome with
    | error e => exact ⟨2, r, ⟨hr, found⟩, named, e, hout⟩
    | ok diagnostics =>
      have reported := (reports lostUri _).2 ⟨2, r, ⟨hr, found⟩, closed, inside, named,
        Or.inr ⟨unconfirmed, diagnostics, hout, rfl⟩⟩
      have absent : lostUri ∉ items.map (·.1) := by decide +kernel
      exact absurd (List.mem_map_of_mem reported) absent

end Service

end ShaderDiagnostics
