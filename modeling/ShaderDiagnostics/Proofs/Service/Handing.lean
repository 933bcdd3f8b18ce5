import ShaderDiagnostics.Proofs.Service.Pursuit
import ShaderDiagnostics.Proofs.Service.Replies

/-!
# What is handed over to an editor that asks

A job that finds the diagnostics that the editor has asked for hands them over: those of a document with the
answer, those of the workspace document by document, each for the report that is sent when all are there. A
poll leaves a record showing what it has handed over last for it (`Service.poll_shown`), whatever the token and
whatever the record has shown before. A full report is not sent unless its diagnostics have been handed over
since the request (`Service.Served.handed`).
-/

namespace ShaderDiagnostics

/-- A full report on a document of the workspace is of diagnostics with one of these tokens, which are given for
each record. -/
def Target.Told (told : Nat → List Token) (t : Target) : Prop :=
  ∀ token found, t.answer = some (some (.full token found)) → t.inquiry.token ∈ told t.inquiry.record

theorem Target.Told.mono {told told' : Nat → List Token} {t : Target} (h : t.Told told)
    (more : ∀ id, told id ⊆ told' id) : t.Told told' :=
  fun token found ht => more _ (h token found ht)

namespace Service

variable {s s' t : Service} {id n job : Nat} {r : Record} {i : Inquiry} {b : Job} {e : Event} {es : List Event}
  {l l' : List Token} {request : RequestId} {reply : Reply}

/-! ### Handing over -/

/-- The token of a request, if a poll of it finds diagnostics of the record. -/
def handsInquiry (s : Service) (id job : Nat) (i : Inquiry) : List Token :=
  match (s.pollInquiry job i).2.2 with
  | some (.ok _) => if i.record = id then [i.token] else []
  | _ => []

/-- The token of a document of the workspace, if a poll of it finds diagnostics of the record. -/
def handsTarget (s : Service) (id job : Nat) (t : Target) : List Token :=
  if t.answer.isSome then []
  else if t.inquiry.run.isNone && s.isShown t.inquiry.record t.inquiry.token t.previous then []
  else s.handsInquiry id job t.inquiry

/-- The tokens of documents of the workspace that are polled one after another. -/
def handsTargets (s : Service) (id job : Nat) : List Target → List Token
  | [] => []
  | t :: rest => s.handsTarget id job t ++ (s.pollTarget job t).1.handsTargets id job rest

/-- The tokens of the diagnostics that a poll of a job hands over for a record, the first ones first. -/
def hands (s : Service) (id job : Nat) : List Token :=
  match s.job? job with
  | some (.pull _ i) => s.handsInquiry id job i
  | some (.workspace _ targets) => s.handsTargets id job targets
  | _ => []

/-- The tokens of the diagnostics that an event hands over for a record. -/
def handsOver (s : Service) (id : Nat) : Event → List Token
  | .polled job => s.hands id job
  | _ => []

/-- The tokens of the diagnostics that are handed over for a record in a run, the first ones first. -/
def handed (s : Service) (id : Nat) : List Event → List Token
  | [] => []
  | e :: es => s.handsOver id e ++ (s.step e).handed id es

theorem handed_append (s : Service) (id : Nat) (es es' : List Event) :
    s.handed id (es ++ es') = s.handed id es ++ (s.after es).handed id es' := by
  induction es generalizing s with
  | nil => rfl
  | cons e es ih =>
    show s.handsOver id e ++ (s.step e).handed id (es ++ es') = s.handsOver id e ++ _ ++ _
    rw [ih, List.append_assoc]
    rfl

theorem handed_snoc (s : Service) (id : Nat) (es : List Event) (e : Event) :
    s.handed id (es ++ [e]) = s.handed id es ++ (s.after es).handsOver id e := by
  rw [handed_append]
  exact congrArg _ (List.append_nil _)

/-! ### What a record shows -/

/-- What a record shows from then on: the last of these tokens, or what it has shown before if there is none. -/
def Shown (id : Nat) (l : List Token) (s s' : Service) : Prop :=
  ∀ r, s.registry.record? id = some r →
    ∃ r', s'.registry.record? id = some r' ∧ r'.display = l.getLast?.or r.display

theorem Shown.refl (s : Service) : Shown id [] s s := fun r hr => ⟨r, hr, rfl⟩

theorem Shown.trans (h : Shown id l s s') (h' : Shown id l' s' t) : Shown id (l ++ l') s t := by
  intro r hr
  obtain ⟨r₁, hr₁, shown₁⟩ := h r hr
  obtain ⟨r₂, hr₂, shown₂⟩ := h' r₁ hr₁
  exact ⟨r₂, hr₂, by rw [shown₂, shown₁, List.getLast?_append, Option.or_assoc]⟩

theorem Pursues.shown {wanted : Nat → Prop} (h : Pursues wanted s s') : Shown id [] s s' := h.display id

/-- Jobs and messages do not change what records show. -/
theorem Shown.beside (h : Shown id l s s') (jobs : List (Nat × Job)) (outbox : Outbox) :
    Shown id l s { s' with jobs, outbox } := h

theorem show_shown (s : Service) (n : Nat) (token : Token) :
    Shown id (if n = id then [token] else []) s (s.show_ n (some token)) := by
  intro r hr
  rw [show_, record?_modifyRecord, hr]
  by_cases own : n = id
  · rw [if_pos own.symm, if_pos own]
    exact ⟨_, rfl, rfl⟩
  · rw [if_neg (Ne.symm own), if_neg own]
    exact ⟨r, rfl, rfl⟩

/-! ### What a poll hands over -/

/-- A request stays one for the same diagnostics. -/
theorem pollInquiry_same (s : Service) (job : Nat) (i : Inquiry) :
    (s.pollInquiry job i).2.1.record = i.record ∧ (s.pollInquiry job i).2.1.token = i.token := by
  unfold pollInquiry
  split
  · exact ⟨rfl, rfl⟩
  · split
    · exact ⟨rfl, rfl⟩
    · split <;> exact ⟨rfl, rfl⟩

theorem pollInquiry_silent (s : Service) (id job : Nat) (i : Inquiry) :
    Shown id [] s (s.pollInquiry job i).1 := by
  have pursues : Pursues (· = i.record) s (s.pollInquiry job i).1 := pollInquiry_pursues s job rfl
  exact pursues.shown

/-- What a request that is polled has found is handed over when it is shown. -/
theorem pollInquiry_shown (s : Service) (id job : Nat) (i : Inquiry) :
    Shown id (s.handsInquiry id job i) s
      (match s.pollInquiry job i with
      | (s', i', some (.ok _)) => s'.show_ i'.record (some i'.token)
      | (s', _, _) => s') := by
  have asked : Shown id [] s (s.pollInquiry job i).1 := pollInquiry_silent s id job i
  obtain ⟨record, token⟩ := pollInquiry_same s job i
  unfold handsInquiry
  generalize s.pollInquiry job i = a at asked record token
  obtain ⟨s', i', o⟩ := a
  dsimp only at record token
  rcases o with _ | e | found
  · exact asked
  · exact asked
  · dsimp only
    rw [record, token]
    exact asked.trans (show_shown _ _ _)

theorem pollTarget_shown (s : Service) (id job : Nat) (t : Target) :
    Shown id (s.handsTarget id job t) s (s.pollTarget job t).1 := by
  unfold handsTarget pollTarget
  split
  · exact .refl s
  · split
    · exact .refl s
    · have asked := pollInquiry_shown s id job t.inquiry
      split
      all_goals
        next h =>
          rw [h] at asked
          exact asked.beside _ _

theorem pollTargets_shown (s : Service) (id job : Nat) (targets : List Target) :
    Shown id (s.handsTargets id job targets) s (s.pollTargets job targets).1 := by
  induction targets generalizing s with
  | nil => exact .refl s
  | cons t rest ih => exact (pollTarget_shown s id job t).trans (ih _)

theorem askForAnalysis_shown (s : Service) (id job : Nat) (i : Inquiry) :
    Shown id [] s (s.askForAnalysis job i) := by
  have asked : Shown id [] s (s.pollInquiry job i).1 := pollInquiry_silent s id job i
  unfold askForAnalysis
  split
  all_goals
    next h =>
      rw [h] at asked
      exact asked.beside _ _

/-- An analysis is for publishing, and hands nothing over. -/
theorem pollAnalysis_shown (s : Service) (id job : Nat) (delay : Delay) (i : Inquiry) :
    Shown id [] s (s.pollAnalysis job delay i) := by
  unfold pollAnalysis
  split
  · exact askForAnalysis_shown s id job i
  · split
    · exact askForAnalysis_shown s id job i
    · exact (Shown.refl s).beside _ _
  · split
    · exact .refl s
    · split
      · exact askForAnalysis_shown s id job i
      · exact (Shown.refl s).beside _ _

theorem pollPull_shown (s : Service) (id job : Nat) (request : RequestId) (i : Inquiry) :
    Shown id (s.handsInquiry id job i) s (s.pollPull job request i) := by
  have asked := pollInquiry_shown s id job i
  unfold pollPull
  split
  all_goals
    next h =>
      rw [h] at asked
      exact asked.beside _ _

theorem pollWorkspace_shown (s : Service) (id job : Nat) (request : RequestId) (targets : List Target) :
    Shown id (s.handsTargets id job targets) s (s.pollWorkspace job request targets) := by
  have asked := pollTargets_shown s id job targets
  unfold pollWorkspace
  dsimp only
  split
  · exact asked.beside _ _
  · exact asked.beside _ _

/-- After a poll a record shows what the poll has handed over last for it. -/
theorem poll_shown (s : Service) (id n : Nat) : Shown id (s.hands id n) s (s.poll n) := by
  unfold hands poll
  cases s.job? n with
  | none => exact .refl s
  | some b =>
    cases b with
    | analysis delay i => exact pollAnalysis_shown s id n delay i
    | pull request i => exact pollPull_shown s id n request i
    | workspace request targets => exact pollWorkspace_shown s id n request targets

/-! ### What a job reports -/

theorem pollTarget_told {told : Nat → List Token} {t : Target} (h : t.Told told) (s : Service) (job : Nat) :
    (s.pollTarget job t).2.Told fun id => told id ++ s.handsTarget id job t := by
  unfold pollTarget handsTarget
  split
  · exact h.mono fun id => List.subset_append_left _ _
  next unanswered =>
    split
    · exact fun _ _ ht => by cases ht
    · obtain ⟨record, token⟩ := pollInquiry_same s job t.inquiry
      unfold handsInquiry
      generalize s.pollInquiry job t.inquiry = a at record token
      obtain ⟨s', i', o⟩ := a
      dsimp only at record token
      rcases o with _ | e | found
      · exact fun _ _ ht => absurd (ht ▸ rfl) unanswered
      · exact fun _ _ ht => by cases ht
      · intro token' found' ht
        dsimp only
        rw [record, token, if_pos rfl]
        exact List.mem_append_right _ (List.mem_singleton_self _)

theorem pollTargets_told {told : Nat → List Token} {targets : List Target} (h : ∀ t ∈ targets, t.Told told)
    (s : Service) (job : Nat) : ∀ t ∈ (s.pollTargets job targets).2,
      t.Told fun id => told id ++ s.handsTargets id job targets := by
  induction targets generalizing s told with
  | nil => exact fun _ hu => absurd hu List.not_mem_nil
  | cons t rest ih =>
    have first : (s.pollTarget job t).2.Told _ := pollTarget_told (h t List.mem_cons_self) s job
    have before : ∀ u ∈ rest, u.Told told := fun u hu => h u (List.mem_cons_of_mem _ hu)
    have others := ih before (s.pollTarget job t).1
    refine List.forall_mem_cons.2
      ⟨first.mono fun id x hx => ?_, fun u hu => (others u hu).mono fun id x hx => ?_⟩
    · exact (List.mem_append.1 hx).elim (List.mem_append_left _) fun hx =>
        List.mem_append_right _ (List.mem_append_left _ hx)
    · exact (List.mem_append.1 hx).elim (List.mem_append_left _) fun hx =>
        List.mem_append_right _ (List.mem_append_right _ hx)

variable {targets : List Target}

/-- The documents of a job for the workspace are polled in a course of acts, and stay the same documents. -/
theorem Intact.heirs (h : s.Intact) (hj : s.job? n = some (.workspace request targets)) :
    Course (· ∈ targets.map (·.inquiry)) s (s.pollTargets n targets).1 ∧
      List.Forall₂ (TargetHeir (s.pollTargets n targets).1) targets (s.pollTargets n targets).2 := by
  have waiting : s.Waiting (.workspace request targets) := h.jobs _ (mem_of_job? hj)
  exact pollTargets_heirs n h.tidy (fun t ht => waiting.waits _ (List.mem_map_of_mem ht)) waiting.reports

/-- A job for the workspace that goes on after its poll does so with what the poll has made of its documents. -/
theorem job_polled (hj : s.job? n = some (.workspace request targets)) (hb : (n, b) ∈ (s.poll n).jobs) :
    b = .workspace request (s.pollTargets n targets).2 := by
  unfold poll at hb
  rw [hj] at hb
  dsimp only [pollWorkspace] at hb
  split at hb
  · exact absurd rfl (bne_iff_ne.1 (List.mem_filter.1 hb).2)
  · rcases mem_setJob hb with ⟨-, -, same⟩ | ⟨other, -⟩
    · exact congrArg Prod.snd same
    · exact absurd rfl other

/-- A request for the diagnostics of the workspace is answered when all documents are. -/
theorem Intact.replies_workspace (h : s.Intact) (hj : s.job? n = some (.workspace request targets))
    {request' : RequestId} (replies : Replies s (s.poll n) request' reply) :
    (∀ u ∈ (s.pollTargets n targets).2, u.answer.isSome = true) ∧ request' = request ∧
      reply = .workspace ((s.pollTargets n targets).2.filterMap Target.report?) := by
  have polled := (h.heirs hj).1.tells
  unfold poll at replies
  rw [hj] at replies
  dsimp only [pollWorkspace] at replies
  split at replies
  next all => exact ⟨List.all_eq_true.1 all, polled.of_reply replies⟩
  · exact absurd replies (Tells.not_replies polled)

/-- Full reports that a job has for documents of the workspace are of diagnostics that have been handed over
since the job had none. -/
theorem Intact.told_after (h : s.Intact) (old : n < s.nextJob)
    (unanswered : ∀ b, (n, b) ∈ s.jobs → ∀ u ∈ b.targets, u.answer = none) (es : List Event)
    (hb : (n, b) ∈ (s.after es).jobs) : ∀ u ∈ b.targets, u.Told fun id => s.handed id es := by
  induction es using List.reverseRecOn generalizing b with
  | nil => exact fun u hu token found ht => absurd ((unanswered b hb u hu).symm.trans ht) nofun
  | append_singleton es e ih =>
    have intact := h.after es
    have before : ∀ {b}, (n, b) ∈ (s.after es).jobs → ∀ u ∈ b.targets,
        u.Told fun id => s.handed id (es ++ [e]) :=
      fun hb u hu => (ih hb u hu).mono fun id => by
        rw [handed_snoc]
        exact List.subset_append_left _ _
    rw [after_snoc] at hb
    by_cases poll : ∃ job, e = .polled job
    · obtain ⟨m, rfl⟩ := poll
      rcases intact.poll_cases m with same | ⟨b₁, t, hb₁, course, leaves⟩
      · exact before (same ▸ hb)
      · rcases leaves.mem_jobs hb with hb | ⟨own, heir, -⟩
        · exact before (course.quiet.jobs ▸ hb)
        · obtain rfl : n = m := own
          cases heir with
          | analysis => exact fun _ hu => absurd hu List.not_mem_nil
          | pull => exact fun _ hu => absurd hu List.not_mem_nil
          | @workspace request targets targets' =>
            have made : targets' = ((s.after es).pollTargets n targets).2 :=
              (Job.workspace.inj (job_polled hb₁ hb)).2
            intro u hu
            have hu : u ∈ ((s.after es).pollTargets n targets).2 := made ▸ hu
            refine (pollTargets_told (ih (mem_of_job? hb₁)) (s.after es) n u hu).mono fun id => ?_
            rw [handed_snoc, handsOver, hands, hb₁]
            exact List.Subset.refl _
    · obtain ⟨t, shift, spawns⟩ := step_brings (s.after es) fun job he => poll ⟨job, he⟩
      rcases spawns.mem_jobs hb with hb | ⟨-, new, -⟩
      · exact before (shift.jobs ▸ hb)
      · exact absurd old (Nat.not_lt.2 (Nat.le_trans (h.nextJob_le_after es) (shift.nextJob ▸ new)))

/-- A request is answered by its job: the one for a document with what is handed over then, the one for the
workspace with what the poll has made of the documents. -/
theorem Intact.replies_cases (h : s.Intact) (replies : Replies s (s.poll n) request reply) :
    (∃ i found, s.job? n = some (.pull request i) ∧ reply = .document (.full (some i.token) found) ∧
      s.hands i.record n = [i.token]) ∨
    ∃ targets, s.job? n = some (.workspace request targets) ∧
      reply = .workspace ((s.pollTargets n targets).2.filterMap Target.report?) := by
  rcases h.poll_cases n with same | ⟨b, t, hj, course, leaves⟩
  · rw [same] at replies
    exact absurd replies (Tells.of_outbox rfl).not_replies
  · have waiting := h.jobs _ (mem_of_job? hj)
    have answers := leaves.answer course.tells replies
    cases answers with
    | @pull _ i found =>
      refine Or.inl ⟨i, found, hj, rfl, ?_⟩
      have polled := pollInquiry_inquired h.tidy (waiting.waits i (List.mem_singleton_self i)) n
      unfold poll at replies
      unfold hands
      rw [hj] at replies ⊢
      dsimp only [pollPull, handsInquiry] at replies ⊢
      generalize s.pollInquiry n i = a at polled replies
      obtain ⟨s', i', o⟩ := a
      rcases o with _ | e | found
      · exact absurd replies (Tells.not_replies polled.course.tells)
      · have told := polled.course.trans (report_course _ s' pullMethod e)
        exact absurd replies (Tells.not_replies_refuse told.tells)
      · exact if_pos rfl
    | @workspace _ targets =>
      obtain ⟨-, -, reply⟩ := h.replies_workspace hj replies
      exact Or.inr ⟨targets, hj, reply⟩

/-- A job is new after an event if its number was the next one before, and then it has no reports yet. -/
theorem Intact.unanswered (h : s.Intact) (hb : (s.nextJob, b) ∈ (s.step e).jobs) :
    ∀ u ∈ b.targets, u.answer = none := by
  rcases h.mem_jobs e hb with ⟨b₀, old, -⟩ | ⟨asks, -⟩
  · exact absurd (h.fresh _ old) (Nat.lt_irrefl _)
  · exact fun u hu => (asks.targets u hu).1

variable {found : List Diagnostic} {token : Token}

/-- What is reported on a document of the workspace has been handed over for it since the request. -/
theorem Intact.handed_of_part (h : s.Intact) {b₀ : Job} {request' : RequestId}
    {asked : List Message.KnownResult} {uri : Uri}
    (job : s.nextJob < (s.step e).nextJob)
    (hj : ((s.step e).after es).job? s.nextJob = some (.workspace request targets))
    (he : e = .pulledAll request' asked) (named : Uri.ofPath? r.path = some uri)
    (requested : Requested e r ((s.step e).inquire id r) b₀) (same : SameJob b₀ (.workspace request targets))
    (part : (uri, .full (some token) found) ∈
      (((s.step e).after es).pollTargets s.nextJob targets).2.filterMap Target.report?) :
    (s.step e).tokenOf r ∈ (s.step e).handed id (es ++ [.polled s.nextJob]) := by
  obtain ⟨targets₀, rfl, only⟩ := requested.workspace _ _ _ he named
  cases same with
  | workspace same =>
    obtain ⟨u, hu, rfl, answered⟩ := mem_reports part
    have told := pollTargets_told ((h.step e).told_after job (fun b hb => h.unanswered hb) es (mem_of_job? hj))
      _ s.nextJob u hu _ _ answered
    -- the target that reports is the one that the request has made for the record
    obtain ⟨u₁, hu₁, heir⟩ := exists_of_forall₂ (((h.step e).after es).heirs hj).2 u hu
    obtain ⟨u₀, hu₀, same₀⟩ := exists_of_forall₂ same u₁ hu₁
    have mine := only u₀ hu₀ (same₀.uri.symm.trans heir.uri.symm)
    rw [heir.inquiry, same₀.inquiry, mine] at told
    rw [handed_snoc, handsOver, hands, hj]
    exact told

variable {host : Host} {delivery : Delivery} {settings : Settings} {waits : Bool} {before between : List Event}

/-- What a full report on a document says has been handed over for its record since the request. -/
theorem Served.handed
    (h : Served (start host delivery settings waits) before e between id r (.full (some token) found)) :
    token ∈ (session host delivery settings waits (before ++ [e])).handed id
      (between ++ [.polled ((start host delivery settings waits).after before).nextJob]) := by
  obtain ⟨name, -⟩ := h.fits
  obtain ⟨known, job, request, reply, on, replies⟩ := h
  have here : ((start host delivery settings waits).after before).Intact :=
    session_intact host delivery settings waits before
  rw [after_snoc] at known job
  rw [after_cut] at replies
  rw [session, after_snoc] at name ⊢
  rcases ((here.step e).after between).replies_cases replies with
    ⟨i, found', hj, rfl, hands⟩ | ⟨targets, hj, rfl⟩
  · obtain ⟨b₀, requested, same⟩ := here.requested known job between (mem_of_job? hj)
    cases on with
    | document asked samePath =>
      obtain rfl := requested.document _ _ _ rfl asked samePath
      cases same with
      | pull same =>
        have own : i.record = id := by rw [same]; rfl
        rw [handed_snoc, handsOver, ← own, hands]
        exact List.mem_append_right _ (List.mem_singleton_self _)
  · obtain ⟨b₀, requested, same⟩ := here.requested known job between (mem_of_job? hj)
    cases on with
    | workspace named part =>
      rw [Option.some.inj name]
      exact here.handed_of_part job hj rfl named requested same part

end Service

end ShaderDiagnostics
