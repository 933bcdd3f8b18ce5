import ShaderDiagnostics.Proofs.Service.Validation
import Mathlib.Data.List.Nodup

/-!
# Polls of jobs keep house

A poll of a job keeps the invariant and publishes nothing but what a validation has found
(`Kept.poll`). It takes care that no document is forgotten, either (`Service.Tended`): for each document
that should have diagnostics there is a result for the current token, or a job that will ask for one,
unless the host has failed.
-/

namespace ShaderDiagnostics.Service

variable {leaving leaving' : Nat → Prop} {s s' : Service} {r : Record} {i i' : Inquiry}

/-! ### Requests for diagnostics -/

/-- How a job's request for the diagnostics of a record has been polled. -/
structure Polled (leaving : Nat → Prop) (s s' : Service) (i i' : Inquiry)
    (answer : Option (Except ServiceError (List Diagnostic))) : Prop where
  goesOn : GoesOn leaving s s' i.record
  record : i'.record = i.record
  token : i'.token = i.token
  inquiry : ∀ r', s'.registry.record? i.record = some r' → s'.InquiryKept leaving i' r'
  /-- Diagnostics come from a validation for a version that is not older. -/
  ok : ∀ found, answer = some (.ok found) → ∃ r' n v, s'.registry.record? i.record = some r' ∧
    r'.results.run? n = some v ∧ v.version.covers i.token = true ∧ v.outcome = some (.ok found)
  error : ∀ e, answer = some (.error e) → s'.Failing

theorem Kept.await (k : s.Kept leaving) (hr : s.registry.record? i.record = some r)
    (hi : s.InquiryKept leaving i r) {n : Nat} {v : ValidationRun} (hv : r.results.run? n = some v)
    (hc : v.version.covers i.token = true) :
    Polled leaving s (s.await i n).1 i (s.await i n).2.1 (s.await i n).2.2 := by
  have goes := k.pollValidation i.record n
  have q := pollValidation_quiet s i.record n
  unfold Service.await
  generalize s.pollValidation i.record n = s' at goes q
  obtain ⟨r', hr', g⟩ := q.records i.record r hr
  obtain ⟨v', hv', hver, -⟩ := g.results n v hv
  have outcome : (s'.validation? i.record n).bind (·.outcome) = v'.outcome := by
    simp only [validation?, hr', Option.bind_some, hv']
  have hi' : s'.InquiryKept leaving { i with run := some n } r' := by
    have h := hi.around (q.around leaving i.record r) g
    refine ⟨h.old, fun m hm => ?_, h.current⟩
    cases hm
    exact ⟨v', hv', hver ▸ hc⟩
  refine ⟨goes, rfl, rfl, fun r₁ h₁ => ?_, fun found ho => ?_, fun e ho => ?_⟩
  · obtain rfl := Option.some.inj (hr'.symm.trans h₁)
    exact hi'
  · exact ⟨r', n, v', hr', hv', hver ▸ hc, outcome ▸ ho⟩
  · exact ((goes.kept.records _ r' hr').runs n v' hv').failed e (outcome ▸ ho)

/-- A validation starts for a request. -/
theorem Kept.startRun (k : s.Kept leaving) (hr : s.registry.record? i.record = some r)
    (hi : s.InquiryKept leaving i r)
    (bare : Cache.coveredBy Token.covers r.results.completedVersion i.token = false)
    (free : Cache.coveredBy Token.covers r.results.inFlightVersion i.token = false) :
    (s.modifyRecord i.record fun _ =>
      { r with results := r.results.start i.token ⟨i.snapshot, .fresh, []⟩ }).Kept leaving := by
  have h := k.records _ r hr
  have grows := Cache.grows_start r.results i.token ⟨i.snapshot, .fresh, []⟩
  have g := r.grows_results grows
  have a := (replace_quiet hr g).around leaving i.record r
  refine k.replace hr g (h.withResults a (h.results.start _ bare) (h.latest.start hi.old _ bare free)
    grows (fun m w hw => ?_) (fun m w hw ht => ?_) r.sequence)
  · rcases Cache.run?_start_cases hw with ⟨-, rfl⟩ | ⟨-, hw⟩
    · exact ⟨fun _ _ _ hp => (nomatch hp), fun _ ho => nomatch ho⟩
    · exact (h.runs m w hw).mono a.log
  · rcases Cache.run?_start_cases hw with ⟨-, rfl⟩ | ⟨-, hw⟩
    · obtain ⟨hl, ha⟩ := hi.current ht
      exact ⟨a.live hl, ha.trans (a.agrees hl), fun _ _ hp => (nomatch hp),
        fun _ _ _ _ hp => (nomatch hp), fun _ ho => (nomatch ho), fun _ ho => nomatch ho⟩
    · exact (h.current m w hw ht).around a (.refl r) fun _ _ _ _ => rfl

/-- The cache has answered a request by a validation, and the job waits for that from now on. -/
theorem Kept.follow (hr : s.registry.record? i.record = some r) (hi : s.InquiryKept leaving i r)
    {c : Results} (grows : r.results.Grows c)
    (k : (s.modifyRecord i.record fun _ => { r with results := c }).Kept leaving) {n : Nat}
    {v : ValidationRun} (hv : c.run? n = some v) (hc : v.version.covers i.token = true) (job : Nat) :
    let t := (s.modifyRecord i.record fun r => { r with results := c }).join i.record n job
    Polled leaving s (t.await i n).1 i (t.await i n).2.1 (t.await i n).2.2 := by
  intro t
  have ht : t = (s.modifyRecord i.record fun _ => { r with results := c }).join i.record n job := by
    show Service.join (s.modifyRecord i.record fun r => { r with results := c }) i.record n job = _
    rw [modifyRecord_eq hr]
  have hr₁ : (s.modifyRecord i.record fun _ => { r with results := c }).registry.record? i.record =
      some { r with results := c } := by
    rw [record?_modifyRecord, if_pos rfl, hr]
    rfl
  have q := (replace_quiet hr (r.grows_results grows)).trans (join_quiet _ i.record n job)
  have k' := k.join hr₁ n job
  rw [← ht] at q k'
  obtain ⟨r', hr', g⟩ := (join_quiet (s.modifyRecord i.record fun _ => { r with results := c })
    i.record n job).records _ _ hr₁
  rw [← ht] at hr'
  obtain ⟨v', hv', hver, -⟩ := g.results n v hv
  have hi' := hi.around (q.around leaving i.record r) ((r.grows_results grows).trans g)
  have p := k'.await hr' hi' hv' (hver ▸ hc)
  refine ⟨p.goesOn.after q ?_, p.record, p.token, p.inquiry, p.ok, p.error⟩
  rw [ht]
  rfl

theorem Kept.pollInquiry (k : s.Kept leaving) (hr : s.registry.record? i.record = some r)
    (hi : s.InquiryKept leaving i r) (job : Nat) :
    Polled leaving s (s.pollInquiry job i).1 i (s.pollInquiry job i).2.1 (s.pollInquiry job i).2.2 := by
  have h := k.records _ r hr
  unfold Service.pollInquiry
  cases hrun : i.run with
  | some n =>
    obtain ⟨v, hv, hc⟩ := hi.run n hrun
    exact k.await hr hi hv hc
  | none =>
    simp only [hr]
    have ha := Cache.request_answered Token.covers r.results i.token ⟨i.snapshot, .fresh, []⟩
    generalize r.results.request Token.covers i.token ⟨i.snapshot, .fresh, []⟩ = p at ha
    cases ha with
    | @completed u d slot covered =>
      obtain ⟨n, v, hv, rfl, ho⟩ := h.results.completed u d slot
      refine ⟨⟨k, Or.inl rfl⟩, rfl, rfl, fun r' hr' => ?_, fun found hf => ?_, fun e he => ?_⟩
      · obtain rfl := Option.some.inj (hr.symm.trans hr')
        exact hi
      · cases hf
        exact ⟨r, n, v, hr, hv, covered, ho⟩
      · cases he
    | @joined n v slot hv covered =>
      have k' : (s.modifyRecord i.record fun _ => { r with results := r.results }).Kept leaving :=
        k.replace hr (.refl r) (h.around ((replace_quiet hr (.refl r)).around leaving _ r)
          (fun _ _ _ => rfl) r.sequence r.display)
      exact Kept.follow hr hi (.refl _) k' hv covered job
    | started bare free =>
      have new := Cache.run?_start r.results i.token ⟨i.snapshot, .fresh, []⟩ r.results.runs.length
      rw [if_pos rfl] at new
      exact Kept.follow hr hi (Cache.grows_start _ _ _) (k.startRun hr hi bare free) new
        (Token.covers_refl _) job

/-! ### The list of jobs -/

/-- A change that concerns neither records nor what is shown. -/
theorem Kept.beside (k : s.Kept leaving) (registry : s'.registry = s.registry)
    (delivery : s'.delivery = s.delivery) (same : s'.published = s.published)
    (around : ∀ id r, s.registry.record? id = some r → Around leaving leaving' s s' id r)
    (jobs : ∀ j ∈ s'.jobs, s.JobKept leaving j.2) (distinct : (s'.jobs.map (·.1)).Nodup)
    (fresh : ∀ j ∈ s'.jobs, j.1 < s'.nextJob) : s'.Kept leaving' where
  push := delivery ▸ k.push
  registry := registry ▸ k.registry
  records id r hr := (k.records id r (registry ▸ hr)).around (around id r (registry ▸ hr))
    (fun _ uri _ => last?_of_published same uri) r.sequence r.display
  jobs j hj := by
    obtain ⟨delay, i, r, he, hr, hi⟩ := jobs j hj
    exact ⟨delay, i, r, he, registry ▸ hr, hi.around (around _ r hr) (.refl r)⟩
  distinct := distinct
  fresh := fresh
  owned uri found hu hne := by
    obtain ⟨id, r, hr, hl, hp⟩ := k.owned uri found ((last?_of_published same uri).symm.trans hu) hne
    exact ⟨id, r, registry ▸ hr, (around id r hr).live hl, hp⟩

/-- Who is leaving only matters among the records that are known. -/
theorem Kept.narrow (k : s.Kept leaving)
    (h : ∀ id r, s.registry.Known id r → leaving id → leaving' id) : s.Kept leaving' :=
  k.beside rfl rfl rfl
    (fun id r hr => .of_same rfl rfl rfl rfl rfl rfl (fun hf => ⟨hf, rfl⟩) fun hf => h id r ⟨hr, hf⟩)
    k.jobs k.distinct k.fresh

theorem around_jobs (s : Service) (jobs : List (Nat × Job)) (nextJob id : Nat) (r : Record)
    (_ : s.registry.record? id = some r) : Around leaving leaving s { s with jobs, nextJob } id r :=
  .of_same rfl rfl rfl rfl rfl rfl (fun hf => ⟨hf, rfl⟩) fun _ hl => hl

theorem Kept.endJob (k : s.Kept leaving) (job : Nat) : (s.endJob job).Kept leaving :=
  k.beside rfl rfl rfl (around_jobs s _ s.nextJob) (fun j hj => k.jobs j (List.mem_filter.1 hj).1)
    (k.distinct.sublist (List.filter_sublist.map _)) fun j hj => k.fresh j (List.mem_filter.1 hj).1

theorem mem_setJob {job : Nat} {b : Job} {j : Nat × Job} (hj : j ∈ (s.setJob job b).jobs) :
    (∃ b', (job, b') ∈ s.jobs ∧ j = (job, b)) ∨ j.1 ≠ job ∧ j ∈ s.jobs := by
  obtain ⟨⟨m, b'⟩, hm, rfl⟩ := List.mem_map.1 hj
  by_cases h : m = job
  · subst h
    exact Or.inl ⟨b', hm, by simp⟩
  · exact Or.inr ⟨by simp [h], by simpa [h] using hm⟩

theorem Kept.setJob (k : s.Kept leaving) {b : Job} (hb : s.JobKept leaving b) (job : Nat) :
    (s.setJob job b).Kept leaving := by
  refine k.beside rfl rfl rfl (around_jobs s _ s.nextJob) (fun j hj => ?_) ?_ fun j hj => ?_
  · rcases mem_setJob hj with ⟨b', -, rfl⟩ | ⟨-, hj⟩
    · exact hb
    · exact k.jobs j hj
  · have same : (s.setJob job b).jobs.map (·.1) = s.jobs.map (·.1) := by
      unfold Service.setJob
      rw [List.map_map]
      refine List.map_congr_left fun j _ => ?_
      by_cases h : j.1 = job <;> simp [h]
    rw [same]
    exact k.distinct
  · rcases mem_setJob hj with ⟨b', hm, rfl⟩ | ⟨-, hj⟩
    · exact k.fresh (job, b') hm
    · exact k.fresh j hj

theorem Kept.spawn (k : s.Kept leaving) {b : Job} (hb : s.JobKept leaving b) :
    (s.spawn b).Kept leaving := by
  refine k.beside rfl rfl rfl (around_jobs s _ _) (fun j hj => ?_) ?_ fun j hj => ?_
  · rcases List.mem_append.1 hj with hj | hj
    · exact k.jobs j hj
    · rw [List.mem_singleton.1 hj]
      exact hb
  · show ((s.jobs ++ [(s.nextJob, b)]).map (·.1)).Nodup
    rw [List.map_append, List.nodup_append]
    refine ⟨k.distinct, List.pairwise_singleton _ _, ?_⟩
    intro m hm n hn
    obtain ⟨j, hj, rfl⟩ := List.mem_map.1 hm
    rw [show n = s.nextJob from List.mem_singleton.1 hn]
    exact Nat.ne_of_lt (k.fresh j hj)
  · rcases List.mem_append.1 hj with hj | hj
    · exact Nat.lt_succ_of_lt (k.fresh j hj)
    · rw [List.mem_singleton.1 hj]
      exact Nat.lt_succ_self _

theorem mem_of_job? {job : Nat} {b : Job} (h : s.job? job = some b) : (job, b) ∈ s.jobs := by
  obtain ⟨j, hj, rfl⟩ := Option.map_eq_some_iff.1 h
  have hid : j.1 = job := by simpa using List.find?_some hj
  exact hid ▸ List.mem_of_find?_eq_some hj

theorem report_quiet (s : Service) (name : String) (e : ServiceError) : Quiet s (s.report name e) :=
  outbox_quiet s _

theorem Kept.report (k : s.Kept leaving) (name : String) (e : ServiceError) :
    (s.report name e).Kept leaving :=
  k.aside (report_quiet s name e) rfl rfl

/-! ### Polls of analyses -/

theorem Kept.askForAnalysis (k : s.Kept leaving) (hr : s.registry.record? i.record = some r)
    (hi : s.InquiryKept leaving i r) (job : Nat) :
    GoesOn leaving s (s.askForAnalysis job i) i.record := by
  have p := k.pollInquiry hr hi job
  have q := pollInquiry_quiet s job i
  unfold Service.askForAnalysis
  generalize s.pollInquiry job i = a at p q
  obtain ⟨s', i', o⟩ := a
  obtain ⟨r', hr', -⟩ := q.records _ r hr
  have announces : ∀ {t : Service}, t.registry = s'.registry → t.settingsVersion = s'.settingsVersion →
      t.published = s'.published → Announces s t i.record := by
    intro t hreg hver hpub
    rcases p.goesOn.announces with h | ⟨token, uri, found, n, r, v, hr, hv, ht, hc, ho, hu, before, sent⟩
    · exact Or.inl (hpub.trans h)
    · refine Or.inr ⟨token, uri, found, n, r, v, hreg ▸ hr, hv, ht, ?_, ho, hu, before, hpub.trans sent⟩
      rw [← hc]
      simp only [tokenOf, hver]
  rcases o with _ | e | found
  · refine ⟨p.goesOn.kept.setJob ⟨.over, i', r', rfl, ?_, p.inquiry r' hr'⟩ job, announces rfl rfl rfl⟩
    rw [p.record]
    exact hr'
  · exact ⟨(p.goesOn.kept.report _ e).endJob job, announces rfl rfl rfl⟩
  · exact ⟨p.goesOn.kept.endJob job, announces rfl rfl rfl⟩

theorem Kept.pollAnalysis (k : s.Kept leaving) (hr : s.registry.record? i.record = some r)
    (hi : s.InquiryKept leaving i r) (job : Nat) (delay : Delay) :
    GoesOn leaving s (s.pollAnalysis job delay i) i.record := by
  cases delay with
  | «over» => exact k.askForAnalysis hr hi job
  | ahead milliseconds =>
    unfold Service.pollAnalysis
    dsimp only
    split
    · exact k.askForAnalysis hr hi job
    · exact ⟨k.setJob ⟨_, i, r, rfl, hr, hi⟩ job, Or.inl rfl⟩
  | running deadline =>
    unfold Service.pollAnalysis
    dsimp only
    split
    · exact ⟨k, Or.inl rfl⟩
    · split
      · exact k.askForAnalysis hr hi job
      · exact ⟨k.endJob job, Or.inl rfl⟩

/-- A poll of a job keeps house and publishes nothing but what a validation has found. -/
theorem Kept.poll (k : s.Kept leaving) (job : Nat) : ∃ id, GoesOn leaving s (s.poll job) id := by
  unfold Service.poll
  cases hj : s.job? job with
  | none => exact ⟨0, k, Or.inl rfl⟩
  | some b =>
    obtain ⟨delay, i, r, rfl, hr, hi⟩ := k.jobs _ (mem_of_job? hj)
    exact ⟨i.record, k.pollAnalysis hr hi job delay⟩

/-! ### No document is forgotten -/

/-- The diagnostics of a record are up to date, or a job will see to it, unless the host has failed. -/
inductive Attended (s : Service) (id : Nat) (r : Record) : Prop where
  /-- The host has failed. -/
  | failing (h : s.Failing)
  /-- A job will ask for them. -/
  | job {j : Nat} {delay : Delay} {i : Inquiry} (mem : (j, .analysis delay i) ∈ s.jobs)
      (record : i.record = id) (token : i.token = s.tokenOf r)
  /-- They are there. -/
  | done {n : Nat} {v : ValidationRun} {found : List Diagnostic} (run : r.results.run? n = some v)
      (token : v.version = s.tokenOf r) (ended : v.outcome = some (.ok found))

/-- No document that should have diagnostics is forgotten, but for those of records that are due. -/
def Tended (due : Nat → Prop) (s : Service) : Prop :=
  s.host.embedded = false → s.ready = true → ∀ id r, s.registry.Known id r →
    s.settings.wants r.opened = true → due id ∨ s.Attended id r

variable {due : Nat → Prop} {id : Nat} {r' : Record}

theorem Attended.quiet (h : s.Attended id r) (q : Quiet s s') (g : r.Grows r') : s'.Attended id r' := by
  cases h with
  | failing h => exact .failing (h.mono q.log)
  | job mem record token => exact .job (q.jobs ▸ mem) record (token.trans (q.tokenOf g).symm)
  | done run token ended =>
    obtain ⟨v', hv', hver, hend⟩ := g.results _ _ run
    exact .done hv' ((hver.trans token).trans (q.tokenOf g).symm) (hend _ ended)

theorem Tended.quiet (t : s.Tended due) (q : Quiet s s') : s'.Tended due := by
  intro he hready id r' hk hw
  obtain ⟨r, known, g⟩ := q.of_known hk
  have hw' : s.settings.wants r.opened = true := by
    rw [← q.settings, ← g.opened]
    exact hw
  exact (t (q.host ▸ he) (q.ready ▸ hready) id r known hw').imp_right fun h => h.quiet q g

/-- A change of the job of one number. Its own request has to be looked at. -/
theorem Attended.besides {job : Nat} (h : s.Attended id r) (log : ∀ x ∈ s.log, x ∈ s'.log)
    (version : s'.settingsVersion = s.settingsVersion) (jobs : ∀ j ∈ s.jobs, j.1 ≠ job → j ∈ s'.jobs)
    (own : ∀ delay i, (job, .analysis delay i) ∈ s.jobs → i.record = id → i.token = s.tokenOf r →
      s'.Attended id r) : s'.Attended id r := by
  have same : s'.tokenOf r = s.tokenOf r := by simp only [tokenOf, version]
  cases h with
  | failing h => exact .failing (h.mono log)
  | @job j delay i mem record token =>
    by_cases hj : j = job
    · exact own delay i (hj ▸ mem) record token
    · exact .job (jobs _ mem hj) record (token.trans same.symm)
  | done run token ended => exact .done run (token.trans same.symm) ended

theorem mem_setJob_self {job : Nat} {b b' : Job} (h : (job, b') ∈ s.jobs) :
    (job, b) ∈ (s.setJob job b).jobs :=
  List.mem_map.2 ⟨_, h, by simp⟩

theorem mem_setJob_of_ne {job : Nat} {b : Job} {j : Nat × Job} (h : j ∈ s.jobs) (hne : j.1 ≠ job) :
    j ∈ (s.setJob job b).jobs :=
  List.mem_map.2 ⟨j, h, by simp [hne]⟩

theorem mem_endJob {job : Nat} {j : Nat × Job} (h : j ∈ s.jobs) (hne : j.1 ≠ job) :
    j ∈ (s.endJob job).jobs :=
  List.mem_filter.2 ⟨h, by simpa using hne⟩

/-- There is one job to a number. -/
theorem Kept.job_unique (k : s.Kept leaving) {job : Nat} {b b' : Job} (h : (job, b) ∈ s.jobs)
    (h' : (job, b') ∈ s.jobs) : b = b' :=
  congrArg Prod.snd (List.inj_on_of_nodup_map k.distinct h h' rfl)

theorem Attended.askForAnalysis (k : s.Kept leaving) {job : Nat} {delay : Delay}
    (hj : (job, .analysis delay i) ∈ s.jobs) {ri : Record} (hri : s.registry.record? i.record = some ri)
    (hi : s.InquiryKept leaving i ri) (hr : s.registry.record? id = some r) (h : s.Attended id r)
    (hr' : (s.askForAnalysis job i).registry.record? id = some r') :
    (s.askForAnalysis job i).Attended id r' := by
  have p := k.pollInquiry hri hi job
  have q := pollInquiry_quiet s job i
  unfold Service.askForAnalysis at hr' ⊢
  generalize s.pollInquiry job i = a at p q hr' ⊢
  obtain ⟨s', i', o⟩ := a
  have hr₁ : s'.registry.record? id = some r' := by
    rcases o with _ | _ | _ <;> exact hr'
  obtain ⟨r₀, hr₀, g⟩ := q.of_record? hr₁
  obtain rfl := Option.some.inj (hr.symm.trans hr₀)
  have h' := h.quiet q g
  have hj' : (job, .analysis delay i) ∈ s'.jobs := q.jobs ▸ hj
  have only : ∀ {delay' i₁}, (job, .analysis delay' i₁) ∈ s'.jobs → i₁ = i := by
    intro delay' i₁ hm
    have := p.goesOn.kept.job_unique hm hj'
    cases this
    rfl
  rcases o with _ | e | found
  · refine h'.besides (fun _ hx => hx) rfl (fun j hm hne => mem_setJob_of_ne hm hne)
      fun delay' i₁ hm hrec ht => ?_
    obtain rfl := only hm
    exact .job (mem_setJob_self hj') (p.record.trans hrec) (p.token.trans ht)
  · refine h'.besides (fun _ hx => hx) rfl (fun j hm hne => mem_endJob (s := s'.report _ e) hm hne)
      fun _ _ _ _ _ => .failing (p.error e rfl)
  · refine h'.besides (fun _ hx => hx) rfl (fun j hm hne => mem_endJob hm hne)
      fun delay' i₁ hm hrec ht => ?_
    obtain rfl := only hm
    obtain ⟨r₁, n, v, hr₁', hv, hc, ho⟩ := p.ok found rfl
    rw [hrec] at hr₁'
    obtain rfl := Option.some.inj (hr₁.symm.trans hr₁')
    have bound := (p.goesOn.kept.records _ _ hr₁).latest.bound n v hv
    exact .done hv (Token.covers_antisymm _ _ (ht ▸ hc) bound) ho

theorem Attended.pollAnalysis (k : s.Kept leaving) {job : Nat} {delay : Delay}
    (hj : (job, .analysis delay i) ∈ s.jobs) {ri : Record} (hri : s.registry.record? i.record = some ri)
    (hi : s.InquiryKept leaving i ri) (hr : s.registry.record? id = some r) (h : s.Attended id r)
    (hr' : (s.pollAnalysis job delay i).registry.record? id = some r') :
    (s.pollAnalysis job delay i).Attended id r' := by
  have only : ∀ {delay' i'}, (job, .analysis delay' i') ∈ s.jobs → i' = i := by
    intro delay' i' hm
    have := k.job_unique hm hj
    cases this
    rfl
  cases delay with
  | «over» => exact .askForAnalysis k hj hri hi hr h hr'
  | ahead milliseconds =>
    unfold Service.pollAnalysis at hr' ⊢
    dsimp only at hr' ⊢
    split at hr'
    next hz => rw [if_pos hz]; exact .askForAnalysis k hj hri hi hr h hr'
    next hz =>
      rw [if_neg hz]
      obtain rfl := Option.some.inj (hr.symm.trans hr')
      refine h.besides (fun _ hx => hx) rfl (fun j hm hne => mem_setJob_of_ne hm hne)
        fun _ i' hm hrec ht => ?_
      obtain rfl := only hm
      exact .job (mem_setJob_self hj) hrec ht
  | running deadline =>
    unfold Service.pollAnalysis at hr' ⊢
    dsimp only at hr' ⊢
    split at hr'
    next hd =>
      rw [if_pos hd]
      obtain rfl := Option.some.inj (hr.symm.trans hr')
      exact h
    next hd =>
      rw [if_neg hd]
      split at hr'
      next hc => rw [if_pos hc]; exact .askForAnalysis k hj hri hi hr h hr'
      next hc =>
        rw [if_neg hc]
        obtain rfl := Option.some.inj (hr.symm.trans hr')
        refine h.besides (fun _ hx => hx) rfl (fun j hm hne => mem_endJob hm hne)
          fun _ i' hm hrec ht => ?_
        obtain rfl := only hm
        exact absurd ((isCurrent_iff (hrec ▸ hr) _).2 ht) hc

/-- A quiet change, whatever becomes of the jobs. -/
theorem Quiet.withJobs (q : Quiet s s') (jobs : List (Nat × Job)) :
    Quiet { s with jobs } { s' with jobs } :=
  ⟨q.host, q.delivery, q.settings, q.settingsVersion, q.validator, q.ready, q.editor, q.known, q.size,
    rfl, q.nextJob, q.log, q.records⟩

theorem askForAnalysis_quiet (s : Service) (job : Nat) (i : Inquiry) :
    Quiet { s with jobs := (s.askForAnalysis job i).jobs } (s.askForAnalysis job i) := by
  have q := pollInquiry_quiet s job i
  unfold Service.askForAnalysis
  generalize s.pollInquiry job i = a at q
  obtain ⟨s', i', o⟩ := a
  rcases o with _ | e | found
  · exact q.withJobs _
  · exact (q.trans (report_quiet s' _ e)).withJobs _
  · exact q.withJobs _

theorem pollAnalysis_quiet (s : Service) (job : Nat) (delay : Delay) (i : Inquiry) :
    Quiet { s with jobs := (s.pollAnalysis job delay i).jobs } (s.pollAnalysis job delay i) := by
  unfold Service.pollAnalysis
  split
  · exact askForAnalysis_quiet s job i
  · split
    · exact askForAnalysis_quiet s job i
    · exact .refl _
  · split
    · exact .refl _
    · split
      · exact askForAnalysis_quiet s job i
      · exact .refl _

/-- A poll is a quiet change but for the jobs. -/
theorem Kept.poll_quiet (k : s.Kept leaving) (job : Nat) :
    Quiet { s with jobs := (s.poll job).jobs } (s.poll job) := by
  unfold Service.poll
  cases hj : s.job? job with
  | none => exact .refl _
  | some b =>
    obtain ⟨delay, i, r, rfl, hr, hi⟩ := k.jobs _ (mem_of_job? hj)
    exact pollAnalysis_quiet s job delay i

theorem Tended.poll (t : s.Tended due) (k : s.Kept leaving) (job : Nat) : (s.poll job).Tended due := by
  have q := k.poll_quiet job
  intro he hready id r' hk hw
  obtain ⟨r, known, g⟩ := q.of_known hk
  have wanted : s.settings.wants r.opened = true := by
    rw [← g.opened, ← show (s.poll job).settings = s.settings from q.settings]
    exact hw
  refine (t ((congrArg Host.embedded q.host).symm.trans he) (q.ready.symm.trans hready) id r known
    wanted).imp_right fun h => ?_
  unfold Service.poll at hk ⊢
  cases hj : s.job? job with
  | none =>
    rw [hj] at hk
    obtain rfl := Option.some.inj (known.1.symm.trans hk.1)
    exact h
  | some b =>
    obtain ⟨delay, i, ri, rfl, hri, hi⟩ := k.jobs _ (mem_of_job? hj)
    rw [hj] at hk
    exact .pollAnalysis k (mem_of_job? hj) hri hi known.1 h hk.1

end ShaderDiagnostics.Service
