import ShaderDiagnostics.Proofs.Service.Acts
import ShaderDiagnostics.Proofs.Service.Onward

/-!
# How jobs get their answers

A job's request for the diagnostics of a record waits for one validation, for a version that is not older
than the request's (`Service.Waits`), and what it is answered is what such a validation has found
(`Service.Finds`). A poll of a job is a course of acts, and then the job waits on, is done or answers
(`Service.poll_leaves`); an answer names the token of the request and reports what has been found for it.
-/

namespace ShaderDiagnostics

/-- A job's requests for diagnostics. -/
def Job.inquiries : Job → List Inquiry
  | .analysis _ i => [i]
  | .pull _ i => [i]
  | .workspace _ targets => targets.map (·.inquiry)

/-- The documents that a job reports on together. -/
def Job.targets : Job → List Target
  | .workspace _ targets => targets
  | _ => []

/-- The request that a job will answer, if there is one. -/
def Job.request? : Job → Option RequestId
  | .analysis _ _ => none
  | .pull id _ => some id
  | .workspace id _ => some id

namespace Service

variable {s s' t : Service} {i i' : Inquiry} {r : Record} {n : Nat} {v : ValidationRun}

/-- If a request waits for a validation, then for one whose version is not older. -/
def Waits (s : Service) (i : Inquiry) : Prop :=
  ∀ n, i.run = some n → ∃ r v, s.registry.record? i.record = some r ∧ r.results.run? n = some v ∧
    v.version.covers i.token = true

/-- A validation for a version that is not older than that of the request has found this. -/
def Finds (s : Service) (i : Inquiry) (found : List Diagnostic) : Prop :=
  ∃ r n v, s.registry.record? i.record = some r ∧ r.results.run? n = some v ∧
    v.version.covers i.token = true ∧ v.outcome = some (.ok found)

/-- A report is right for a request: it names the token of the request, and if there are diagnostics in it,
then they have been found for the request. -/
def Fits (s : Service) (i : Inquiry) : DocumentReport → Prop
  | .full token found => token = some i.token ∧ s.Finds i found
  | .unchanged token => token = i.token

/-- If there is a report on a document of the workspace, then it is right for the request. -/
def Reports (s : Service) (t : Target) : Prop :=
  ∀ report, t.answer = some (some report) → s.Fits t.inquiry report

theorem Waits.lasts (h : s.Waits i) (l : Lasts s s') : s'.Waits i := by
  intro n hn
  obtain ⟨r, v, hr, hv, hc⟩ := h n hn
  obtain ⟨r', hr', -, g⟩ := l.records _ r hr
  obtain ⟨v', hv', he, -⟩ := g n v hv
  exact ⟨r', v', hr', hv', he ▸ hc⟩

theorem Finds.lasts {found : List Diagnostic} (h : s.Finds i found) (l : Lasts s s') :
    s'.Finds i found := by
  obtain ⟨r, n, v, hr, hv, hc, ho⟩ := h
  obtain ⟨r', hr', -, g⟩ := l.records _ r hr
  obtain ⟨v', hv', he, hend⟩ := g n v hv
  exact ⟨r', n, v', hr', hv', he ▸ hc, hend _ ho⟩

theorem Fits.lasts {report : DocumentReport} (h : s.Fits i report) (l : Lasts s s') :
    s'.Fits i report := by
  cases report with
  | full => exact h.imp_right fun hf => hf.lasts l
  | unchanged => exact h

/-- Nothing but the records matters to whether a report is right. -/
theorem Fits.of_registry {report : DocumentReport} (h : s.Fits i report) (same : s'.registry = s.registry) :
    s'.Fits i report := by
  cases report with
  | full =>
    obtain ⟨name, r, n, v, hr, rest⟩ := h
    exact ⟨name, r, n, v, same ▸ hr, rest⟩
  | unchanged => exact h

/-- Which validation a request waits for does not matter to the reports on it. -/
theorem Fits.congr {report : DocumentReport} (same : i' = { i with run := i'.run })
    (h : s.Fits i report) : s.Fits i' report := by
  rw [same]
  exact h

theorem Reports.lasts {t : Target} (h : s.Reports t) (l : Lasts s s') : s'.Reports t :=
  fun report ht => (h report ht).lasts l

theorem Course.lasts {asks : Inquiry → Prop} (c : Course asks s s') : Lasts s s' :=
  c.quiet.onward.lasts

/-- The caches of all records are as caches should be. -/
def Tidy (s : Service) : Prop :=
  ∀ id r, s.registry.record? id = some r →
    r.texts.Sound Record.coversText ∧ r.results.Sound Token.covers

theorem Course.tidy {asks : Inquiry → Prop} (c : Course asks s s') (h : s.Tidy) : s'.Tidy := by
  intro id r' hr'
  obtain ⟨r, hr, -⟩ := c.quiet.of_record? hr'
  obtain ⟨r₁, hr₁, sound⟩ := c.record (I := fun _ r =>
      r.texts.Sound Record.coversText ∧ r.results.Sound Token.covers)
    (fun _ _ a h => a.sound h) (fun _ h => h) hr (h id r hr)
  obtain rfl := Option.some.inj (hr₁.symm.trans hr')
  exact sound

/-! ### Requests -/

/-- How a job's request for the diagnostics of a record has been polled. -/
structure Inquired (s s' : Service) (i i' : Inquiry)
    (answer : Option (Except ServiceError (List Diagnostic))) : Prop where
  course : Course (· = i) s s'
  same : i' = { i with run := i'.run }
  waits : s'.Waits i'
  finds : ∀ found, answer = some (.ok found) → s'.Finds i found

theorem await_inquired (hr : s.registry.record? i.record = some r) (hv : r.results.run? n = some v)
    (hc : v.version.covers i.token = true) :
    Inquired s (s.await i n).1 i (s.await i n).2.1 (s.await i n).2.2 := by
  have c := pollValidation_course (· = i) s i.record n
  unfold await
  generalize s.pollValidation i.record n = s' at c
  obtain ⟨r', hr', g⟩ := c.quiet.records i.record r hr
  obtain ⟨v', hv', hver, -⟩ := g.results n v hv
  have outcome : (s'.validation? i.record n).bind (·.outcome) = v'.outcome := by
    simp only [validation?, hr', Option.bind_some, hv']
  refine ⟨c, rfl, fun m hm => ?_, fun found ho => ?_⟩
  · cases hm
    exact ⟨r', v', hr', hv', hver ▸ hc⟩
  · exact ⟨r', n, v', hr', hv', hver ▸ hc, outcome ▸ ho⟩

/-- The cache has answered a request by a validation, and the job waits for that from now on. -/
theorem follow_inquired (hr : s.registry.record? i.record = some r) {c : Results} {source : Source _}
    (he : r.results.request Token.covers i.token ⟨i.snapshot, .fresh, []⟩ = (c, source))
    (hv : c.run? n = some v) (hc : v.version.covers i.token = true) (job : Nat) :
    let t := (s.modifyRecord i.record fun r => { r with results := c }).join i.record n job
    Inquired s (t.await i n).1 i (t.await i n).2.1 (t.await i n).2.2 := by
  intro t
  have asked : Act (· = i) s i.record r { r with results := c } [] := by
    have a : Act (· = i) s i.record r _ [] := .requests rfl rfl
    rwa [he] at a
  have hr₁ : (s.modifyRecord i.record fun _ => { r with results := c }).registry.record? i.record =
      some { r with results := c } := (record?_replace hr _ _).trans (if_pos rfl)
  have joined : Act (· = i) (s.modifyRecord i.record fun _ => { r with results := c }) i.record
      { r with results := c } { r with results := c.modifyWork n fun w =>
        { w with waiters := w.waiters ++ [job] } } [] :=
    .joins (i := i) (by rfl) rfl n job
  have ht : t = (s.modifyRecord i.record fun _ => { r with results := c }).modifyRecord i.record fun _ =>
      { r with results := c.modifyWork n fun w => { w with waiters := w.waiters ++ [job] } } := by
    show Service.join (s.modifyRecord i.record fun r => { r with results := c }) i.record n job = _
    rw [modifyRecord_eq hr, Service.join, modifyRecord_eq hr₁]
  have course : Course (· = i) s t := ht ▸ (asked.course hr).trans (joined.course hr₁)
  obtain ⟨v', hv', hver, -⟩ := Cache.grows_modifyWork c n
    (fun w : Validation => { w with waiters := w.waiters ++ [job] }) n v hv
  have hr₂ : t.registry.record? i.record = some { r with results := c.modifyWork n fun w =>
      { w with waiters := w.waiters ++ [job] } } := by
    rw [ht]
    exact (record?_replace hr₁ _ _).trans (if_pos rfl)
  have h := await_inquired hr₂ hv' (hver ▸ hc)
  exact ⟨course.trans h.course, h.same, h.waits, h.finds⟩

/-- A request is polled: the answer, if there is one, comes from a validation that it may come from. -/
theorem pollInquiry_inquired (tidy : s.Tidy) (waits : s.Waits i) (job : Nat) :
    Inquired s (s.pollInquiry job i).1 i (s.pollInquiry job i).2.1 (s.pollInquiry job i).2.2 := by
  unfold pollInquiry
  cases hrun : i.run with
  | some n =>
    obtain ⟨r, v, hr, hv, hc⟩ := waits n hrun
    exact await_inquired hr hv hc
  | none =>
    have still : ∀ n, i.run ≠ some n := fun n hn => nomatch hrun.symm.trans hn
    cases hr : s.registry.record? i.record with
    | none => exact ⟨.refl _ s, rfl, fun n hn => absurd hn (still n), fun _ h => nomatch h⟩
    | some r =>
      dsimp only
      have ha := Cache.request_answered Token.covers r.results i.token ⟨i.snapshot, .fresh, []⟩
      generalize he : r.results.request Token.covers i.token ⟨i.snapshot, .fresh, []⟩ = p at ha
      cases ha with
      | @completed u d slot covered =>
        obtain ⟨n, v, hv, rfl, ho⟩ := (tidy _ r hr).2.completed u d slot
        refine ⟨.refl _ s, rfl, fun n hn => absurd hn (still n), fun found hf => ?_⟩
        cases hf
        exact ⟨r, n, v, hr, hv, covered, ho⟩
      | joined slot hv covered => exact follow_inquired hr he hv covered job
      | started bare free =>
        exact follow_inquired hr he ((Cache.run?_start _ _ _ _).trans (if_pos rfl))
          (Token.covers_refl _) job

/-! ### Documents of the workspace -/

/-- What has become of a document of the workspace: it is the same one, and what it waits for and the
report on it are as they should be. -/
structure TargetHeir (s : Service) (t t' : Target) : Prop where
  uri : t'.uri = t.uri
  inquiry : t'.inquiry = { t.inquiry with run := t'.inquiry.run }
  waits : s.Waits t'.inquiry
  reports : s.Reports t'

theorem TargetHeir.lasts {t t' : Target} (h : TargetHeir s t t') (l : Lasts s s') :
    TargetHeir s' t t' :=
  ⟨h.uri, h.inquiry, h.waits.lasts l, h.reports.lasts l⟩

theorem report_course (asks : Inquiry → Prop) (s : Service) (name : String) (e : ServiceError) :
    Course asks s (s.report name e) :=
  .single (.aside (report_quiet s name e) (.tell s _) rfl rfl)

theorem show_course (s : Service) (i : Inquiry) :
    Course (· = i) s (s.show_ i.record (some i.token)) := by
  cases hr : s.registry.record? i.record with
  | none =>
    have same : s.show_ i.record (some i.token) = s := by
      have beyond : s.registry.records.length ≤ i.record := List.getElem?_eq_none_iff.1 hr
      simp only [show_, modifyRecord, Registry.modify, List.modify_eq_self beyond]
    rw [same]
    exact .refl _ s
  | some r =>
    rw [show_, modifyRecord_eq hr]
    have a : Act (· = i) s i.record r { r with display := some i.token } [] := .shows rfl rfl
    exact a.course hr

theorem pollTarget_heir (tidy : s.Tidy) {t : Target} (waits : s.Waits t.inquiry) (reports : s.Reports t)
    (job : Nat) : Course (· = t.inquiry) s (s.pollTarget job t).1 ∧
      TargetHeir (s.pollTarget job t).1 t (s.pollTarget job t).2 := by
  unfold pollTarget
  split
  · exact ⟨.refl _ s, rfl, rfl, waits, reports⟩
  next open_ =>
    split
    · refine ⟨.refl _ s, rfl, rfl, waits, fun report ht => ?_⟩
      cases ht
      exact rfl
    · have h := pollInquiry_inquired tidy waits job
      generalize s.pollInquiry job t.inquiry = a at h
      obtain ⟨s', i', o⟩ := a
      obtain ⟨course, same, waits', finds⟩ := h
      dsimp only at course same waits' finds
      rcases o with _ | e | found
      · refine ⟨course, rfl, same, waits', fun report ht => ?_⟩
        rw [show t.answer = none from by simpa using open_] at ht
        cases ht
      · have told := report_course (· = t.inquiry) s' workspacePullMethod e
        exact ⟨course.trans told, rfl, same, waits'.lasts told.lasts, fun _ ht => nomatch ht⟩
      · have record : i'.record = t.inquiry.record := by rw [same]
        have token : i'.token = t.inquiry.token := by rw [same]
        have shown := show_course s' t.inquiry
        rw [← record, ← token] at shown
        refine ⟨course.trans shown, rfl, same, waits'.lasts shown.lasts, fun report ht => ?_⟩
        cases ht
        have fits : (s'.show_ i'.record (some i'.token)).Fits t.inquiry
            (.full (some t.inquiry.token) found) := ⟨rfl, (finds found rfl).lasts shown.lasts⟩
        rw [← token] at fits
        exact fits.congr same

theorem pollTargets_heirs (job : Nat) {targets : List Target} (tidy : s.Tidy)
    (waits : ∀ t ∈ targets, s.Waits t.inquiry) (reports : ∀ t ∈ targets, s.Reports t) :
    Course (· ∈ targets.map (·.inquiry)) s (s.pollTargets job targets).1 ∧
      List.Forall₂ (TargetHeir (s.pollTargets job targets).1) targets (s.pollTargets job targets).2 := by
  induction targets generalizing s with
  | nil => exact ⟨.refl _ s, .nil⟩
  | cons t rest ih =>
    obtain ⟨course, heir⟩ := pollTarget_heir tidy (waits t (by simp)) (reports t (by simp)) job
    unfold pollTargets
    generalize s.pollTarget job t = a at course heir
    obtain ⟨s₁, t'⟩ := a
    obtain ⟨course', heirs⟩ := ih (course.tidy tidy)
      (fun u hu => (waits u (List.mem_cons_of_mem _ hu)).lasts course.lasts)
      fun u hu => (reports u (List.mem_cons_of_mem _ hu)).lasts course.lasts
    dsimp only at course' heirs ⊢
    generalize s₁.pollTargets job rest = b at course' heirs
    obtain ⟨s₂, rest'⟩ := b
    refine ⟨(course.mono ?_).trans (course'.mono ?_), .cons (heir.lasts course'.lasts) heirs⟩
    · rintro i rfl
      exact List.mem_cons_self
    · exact fun i hi => List.mem_cons_of_mem _ hi

/-! ### Jobs -/

/-- What has become of a job that waits on: it is the same one, and what it waits for and what it has to
report are as they should be. -/
inductive JobHeir (s : Service) : Job → Job → Prop where
  /-- An analysis. -/
  | analysis {delay delay' : Delay} {i i' : Inquiry} (same : i' = { i with run := i'.run })
      (waits : s.Waits i') : JobHeir s (.analysis delay i) (.analysis delay' i')
  /-- A request for the diagnostics of a document. -/
  | pull {id : RequestId} {i i' : Inquiry} (same : i' = { i with run := i'.run }) (waits : s.Waits i') :
      JobHeir s (.pull id i) (.pull id i')
  /-- A request for the diagnostics of the workspace. -/
  | workspace {id : RequestId} {targets targets' : List Target}
      (heirs : List.Forall₂ (TargetHeir s) targets targets') :
      JobHeir s (.workspace id targets) (.workspace id targets')

/-- A document of the workspace is asked for as before. -/
structure SameTarget (t t' : Target) : Prop where
  uri : t'.uri = t.uri
  inquiry : t'.inquiry = { t.inquiry with run := t'.inquiry.run }

/-- A job asks for the same as another. -/
inductive SameJob : Job → Job → Prop where
  /-- They are analyses. -/
  | analysis {delay delay' : Delay} {i i' : Inquiry} (same : i' = { i with run := i'.run }) :
      SameJob (.analysis delay i) (.analysis delay' i')
  /-- They answer a request for the diagnostics of a document. -/
  | pull {id : RequestId} {i i' : Inquiry} (same : i' = { i with run := i'.run }) :
      SameJob (.pull id i) (.pull id i')
  /-- They answer a request for the diagnostics of the workspace. -/
  | workspace {id : RequestId} {targets targets' : List Target}
      (same : List.Forall₂ SameTarget targets targets') :
      SameJob (.workspace id targets) (.workspace id targets')

theorem SameTarget.refl (t : Target) : SameTarget t t := ⟨rfl, rfl⟩

theorem SameTarget.trans {t t' t'' : Target} (h : SameTarget t t') (h' : SameTarget t' t'') :
    SameTarget t t'' :=
  ⟨h'.uri.trans h.uri, by rw [h'.inquiry, h.inquiry]⟩

theorem sameTargets_trans {l l' l'' : List Target} (h : List.Forall₂ SameTarget l l')
    (h' : List.Forall₂ SameTarget l' l'') : List.Forall₂ SameTarget l l'' := by
  induction h generalizing l'' with
  | nil => exact h'
  | cons same _ ih =>
    cases h' with
    | cons same' h' => exact .cons (same.trans same') (ih h')

/-- Every document of the second list goes with one of the first. -/
theorem exists_of_forall₂ {R : Target → Target → Prop} {l l' : List Target} (h : List.Forall₂ R l l') :
    ∀ t' ∈ l', ∃ t ∈ l, R t t' := by
  induction h with
  | nil => simp
  | cons hr _ ih =>
    refine List.forall_mem_cons.2 ⟨⟨_, List.mem_cons_self, hr⟩, fun t' ht' => ?_⟩
    obtain ⟨t, ht, hr⟩ := ih t' ht'
    exact ⟨t, List.mem_cons_of_mem _ ht, hr⟩

theorem SameJob.refl (b : Job) : SameJob b b := by
  cases b with
  | analysis => exact .analysis rfl
  | pull => exact .pull rfl
  | workspace => exact .workspace (List.forall₂_same.2 fun t _ => .refl t)

theorem SameJob.trans {b b' b'' : Job} (h : SameJob b b') (h' : SameJob b' b'') : SameJob b b'' := by
  cases h with
  | analysis same =>
    cases h' with
    | analysis same' => exact .analysis (by rw [same', same])
  | pull same =>
    cases h' with
    | pull same' => exact .pull (by rw [same', same])
  | workspace same =>
    cases h' with
    | workspace same' => exact .workspace (sameTargets_trans same same')

theorem JobHeir.same {b b' : Job} (h : JobHeir s b b') : SameJob b b' := by
  cases h with
  | analysis same => exact .analysis same
  | pull same => exact .pull same
  | workspace heirs => exact .workspace (heirs.imp fun _ _ heir => ⟨heir.uri, heir.inquiry⟩)

/-- Whatever a job asks for, one that asks for the same asks for it too. -/
theorem SameJob.inquiries {b b' : Job} (h : SameJob b b') :
    ∀ i' ∈ b'.inquiries, ∃ i ∈ b.inquiries, i' = { i with run := i'.run } := by
  cases h with
  | analysis same => simpa [Job.inquiries] using same
  | pull same => simpa [Job.inquiries] using same
  | workspace same =>
    intro i' hi'
    obtain ⟨t', ht', rfl⟩ := List.mem_map.1 hi'
    obtain ⟨t, ht, h⟩ := exists_of_forall₂ same t' ht'
    exact ⟨t.inquiry, List.mem_map_of_mem ht, h.inquiry⟩

/-- How a job answers a request: it reports what has been found. -/
inductive Answers (s : Service) : Job → RequestId → Reply → Prop where
  /-- A request for the diagnostics of a document. -/
  | pull {id : RequestId} {i : Inquiry} {found : List Diagnostic} (finds : s.Finds i found) :
      Answers s (.pull id i) id (.document (.full (some i.token) found))
  /-- A request for the diagnostics of the workspace. -/
  | workspace {id : RequestId} {targets targets' : List Target}
      (heirs : List.Forall₂ (TargetHeir s) targets targets') :
      Answers s (.workspace id targets) id (.workspace (targets'.filterMap Target.report?))

theorem SameJob.request? {b b' : Job} (h : SameJob b b') : b'.request? = b.request? := by
  cases h <;> rfl

/-- A job answers its own request. -/
theorem Answers.request? {b : Job} {id : RequestId} {reply : Reply} (h : Answers s b id reply) :
    b.request? = some id := by
  cases h <;> rfl

/-- How a poll leaves a job: the service as it is then. -/
inductive Leaves (s : Service) (job : Nat) (b : Job) : Service → Prop where
  /-- Nothing happens to it. -/
  | rests : Leaves s job b s
  /-- It waits on. -/
  | goesOn {b' : Job} (heir : JobHeir s b b') : Leaves s job b (s.setJob job b')
  /-- It is done, and has nothing to answer. -/
  | ends (background : b.request? = none) : Leaves s job b (s.endJob job)
  /-- It answers. -/
  | answers {id : RequestId} {reply : Reply} (right : Answers s b id reply) :
      Leaves s job b ((s.reply id reply).endJob job)
  /-- It cannot answer. -/
  | refuses {id : RequestId} {code : Int} {message : String} (own : b.request? = some id) :
      Leaves s job b ((s.refuse id code message).endJob job)

/-- What a job waits for and what it has to report are as they should be. -/
structure Waiting (s : Service) (b : Job) : Prop where
  waits : ∀ i ∈ b.inquiries, s.Waits i
  reports : ∀ t ∈ b.targets, s.Reports t

theorem Waiting.lasts {b : Job} (h : s.Waiting b) (l : Lasts s s') : s'.Waiting b :=
  ⟨fun i hi => (h.waits i hi).lasts l, fun t ht => (h.reports t ht).lasts l⟩

theorem JobHeir.waiting {b b' : Job} (h : JobHeir s b b') : s.Waiting b' := by
  cases h with
  | analysis _ waits => exact ⟨by simpa [Job.inquiries] using waits, by simp [Job.targets]⟩
  | pull _ waits => exact ⟨by simpa [Job.inquiries] using waits, by simp [Job.targets]⟩
  | workspace heirs =>
    refine ⟨fun i' hi' => ?_, fun t' ht' => ?_⟩
    · obtain ⟨t', ht', rfl⟩ := List.mem_map.1 hi'
      obtain ⟨t, -, heir⟩ := exists_of_forall₂ heirs t' ht'
      exact heir.waits
    · obtain ⟨t, -, heir⟩ := exists_of_forall₂ heirs t' ht'
      exact heir.reports

theorem askForAnalysis_leaves (tidy : s.Tidy) (waits : s.Waits i) (job : Nat) (delay : Delay) :
    ∃ t, Course (· = i) s t ∧ Leaves t job (.analysis delay i) (s.askForAnalysis job i) := by
  have h := pollInquiry_inquired tidy waits job
  unfold askForAnalysis
  generalize s.pollInquiry job i = a at h
  obtain ⟨s', i', o⟩ := a
  obtain ⟨course, same, waits', -⟩ := h
  rcases o with _ | e | found
  · exact ⟨s', course, .goesOn (.analysis same waits')⟩
  · exact ⟨s'.report "validation" e, course.trans (report_course _ s' _ e), .ends rfl⟩
  · exact ⟨s', course, .ends rfl⟩

theorem pollAnalysis_leaves (tidy : s.Tidy) (waits : s.Waits i) (job : Nat) (delay : Delay) :
    ∃ t, Course (· = i) s t ∧ Leaves t job (.analysis delay i) (s.pollAnalysis job delay i) := by
  unfold pollAnalysis
  split
  · exact askForAnalysis_leaves tidy waits job _
  · split
    · exact askForAnalysis_leaves tidy waits job _
    · exact ⟨s, .refl _ s, .goesOn (.analysis rfl waits)⟩
  · split
    · exact ⟨s, .refl _ s, .rests⟩
    · split
      · exact askForAnalysis_leaves tidy waits job _
      · exact ⟨s, .refl _ s, .ends rfl⟩

theorem pollPull_leaves (tidy : s.Tidy) (waits : s.Waits i) (job : Nat) (id : RequestId) :
    ∃ t, Course (· = i) s t ∧ Leaves t job (.pull id i) (s.pollPull job id i) := by
  have h := pollInquiry_inquired tidy waits job
  unfold pollPull
  generalize s.pollInquiry job i = a at h
  obtain ⟨s', i', o⟩ := a
  obtain ⟨course, same, waits', finds⟩ := h
  dsimp only at course same waits' finds
  rcases o with _ | e | found
  · exact ⟨s', course, .goesOn (.pull same waits')⟩
  · exact ⟨s'.report pullMethod e, course.trans (report_course _ s' _ e), .refuses rfl⟩
  · have shown := show_course s' i
    have answered : Answers (s'.show_ i.record (some i.token)) (.pull id i) id
        (.document (.full (some i.token) found)) := .pull ((finds found rfl).lasts shown.lasts)
    have record : i'.record = i.record := by rw [same]
    have token : i'.token = i.token := by rw [same]
    dsimp only
    rw [record, token]
    exact ⟨_, course.trans shown, .answers answered⟩

theorem pollWorkspace_leaves {targets : List Target} (tidy : s.Tidy)
    (waits : ∀ t ∈ targets, s.Waits t.inquiry) (reports : ∀ t ∈ targets, s.Reports t) (job : Nat)
    (id : RequestId) :
    ∃ t, Course (· ∈ targets.map (·.inquiry)) s t ∧
      Leaves t job (.workspace id targets) (s.pollWorkspace job id targets) := by
  obtain ⟨course, heirs⟩ := pollTargets_heirs job tidy waits reports
  unfold pollWorkspace
  generalize s.pollTargets job targets = a at course heirs
  obtain ⟨s', targets'⟩ := a
  dsimp only at course heirs ⊢
  refine ⟨s', course, ?_⟩
  split
  · exact .answers (.workspace heirs)
  · exact .goesOn (.workspace heirs)

/-- A poll of a job is a course of acts for its requests, after which the job waits on, is done or
answers. -/
theorem poll_leaves (tidy : s.Tidy) {job : Nat} {b : Job} (hj : s.job? job = some b)
    (waiting : s.Waiting b) :
    ∃ t, Course (· ∈ b.inquiries) s t ∧ Leaves t job b (s.poll job) := by
  have single : ∀ {i : Inquiry} {t : Service}, Course (· = i) s t → Course (· ∈ [i]) s t :=
    fun c => c.mono fun j hj => List.mem_singleton.2 hj
  unfold poll
  rw [hj]
  cases b with
  | analysis delay i =>
    obtain ⟨t, course, leaves⟩ := pollAnalysis_leaves tidy (waiting.waits i (by simp [Job.inquiries])) job
      delay
    exact ⟨t, single course, leaves⟩
  | pull id i =>
    obtain ⟨t, course, leaves⟩ := pollPull_leaves tidy (waiting.waits i (by simp [Job.inquiries])) job id
    exact ⟨t, single course, leaves⟩
  | workspace id targets =>
    exact pollWorkspace_leaves tidy (fun t ht => waiting.waits _ (List.mem_map_of_mem ht))
      waiting.reports job id

end Service

end ShaderDiagnostics
