import ShaderDiagnostics.Proofs.Service.Answering
import ShaderDiagnostics.Proofs.Service.Housekeeping

/-!
# What events do that are no polls

An event other than a poll leaves the caches of all records alone, and every record keeps its path
(`Service.Shift`); then it brings new jobs, if any. Their requests are for the diagnostics of records as
they are once the event is over (`Service.Spawns`): they take the token and the snapshot of that moment
(`Service.step_brings`).

What jobs wait for and what they have to report is as it should be in every session, whatever happens
(`Service.session_intact`).
-/

namespace ShaderDiagnostics.Service

variable {s s' t : Service} {id : Nat} {r : Record} {b : Job}

/-! ### Records between polls -/

/-- Records have changed but for their paths and caches, there may be new ones with empty caches, and
some may have been forgotten. -/
structure Shift (s s' : Service) : Prop where
  embedded : s'.host.embedded = s.host.embedded
  log : s'.log = s.log
  jobs : s'.jobs = s.jobs
  nextJob : s'.nextJob = s.nextJob
  stays : ∀ id r, s.registry.record? id = some r → ∃ r', s'.registry.record? id = some r' ∧
    r'.path = r.path ∧ r'.texts = r.texts ∧ r'.results = r.results
  new : ∀ id r', s'.registry.record? id = some r' → s.registry.record? id = none →
    r'.texts = Cache.empty ∧ r'.results = Cache.empty
  sound : s.registry.Sound → s'.registry.Sound

namespace Shift

/-- Something that concerns neither records nor jobs. -/
theorem of_same (registry : s'.registry = s.registry) (embedded : s'.host.embedded = s.host.embedded)
    (log : s'.log = s.log) (jobs : s'.jobs = s.jobs) (nextJob : s'.nextJob = s.nextJob) :
    Shift s s' where
  embedded := embedded
  log := log
  jobs := jobs
  nextJob := nextJob
  stays _ r hr := ⟨r, registry ▸ hr, rfl, rfl, rfl⟩
  new _ _ hr hn := by
    rw [registry, hn] at hr
    cases hr
  sound h := registry ▸ h

theorem refl (s : Service) : Shift s s := of_same rfl rfl rfl rfl rfl

theorem trans (h : Shift s s') (h' : Shift s' t) : Shift s t where
  embedded := h'.embedded.trans h.embedded
  log := h'.log.trans h.log
  jobs := h'.jobs.trans h.jobs
  nextJob := h'.nextJob.trans h.nextJob
  stays id r hr := by
    obtain ⟨r₁, hr₁, path₁, texts₁, results₁⟩ := h.stays id r hr
    obtain ⟨r₂, hr₂, path₂, texts₂, results₂⟩ := h'.stays id r₁ hr₁
    exact ⟨r₂, hr₂, path₂.trans path₁, texts₂.trans texts₁, results₂.trans results₁⟩
  new id r₂ hr₂ hn := by
    cases hr₁ : s'.registry.record? id with
    | none => exact h'.new id r₂ hr₂ hr₁
    | some r₁ =>
      obtain ⟨r₂', hr₂', -, texts, results⟩ := h'.stays id r₁ hr₁
      obtain rfl := Option.some.inj (hr₂'.symm.trans hr₂)
      obtain ⟨texts₁, results₁⟩ := h.new id r₁ hr₁ hn
      exact ⟨texts.trans texts₁, results.trans results₁⟩
  sound hs := h'.sound (h.sound hs)

theorem foldl {f : Service → Nat → Service} (h : ∀ s n, Shift s (f s n)) (l : List Nat) (s : Service) :
    Shift s (l.foldl f s) :=
  List.foldlRecOn l f (refl s) fun t shift n _ => shift.trans (h t n)

theorem lasts (h : Shift s s') : Lasts s s' where
  log x hx := h.log.symm ▸ hx
  records id r hr := by
    obtain ⟨r', hr', path, -, results⟩ := h.stays id r hr
    exact ⟨r', hr', path, results.symm ▸ .refl _⟩

theorem tidy (h : Shift s s') (ht : s.Tidy) : s'.Tidy := by
  intro id r' hr'
  cases hr : s.registry.record? id with
  | none =>
    obtain ⟨texts, results⟩ := h.new id r' hr' hr
    rw [texts, results]
    exact ⟨Cache.sound_empty, Cache.sound_empty⟩
  | some r =>
    obtain ⟨r₁, hr₁, -, texts, results⟩ := h.stays id r hr
    obtain rfl := Option.some.inj (hr₁.symm.trans hr')
    rw [texts, results]
    exact ht id r hr

end Shift

theorem modifyRecord_shift (s : Service) (id : Nat) {f : Record → Record}
    (path : ∀ r, (f r).path = r.path) (texts : ∀ r, (f r).texts = r.texts)
    (results : ∀ r, (f r).results = r.results) : Shift s (s.modifyRecord id f) where
  embedded := rfl
  log := rfl
  jobs := rfl
  nextJob := rfl
  stays n r hr := by
    rw [record?_modifyRecord, hr]
    split
    · exact ⟨f r, rfl, path r, texts r, results r⟩
    · exact ⟨r, rfl, rfl, rfl, rfl⟩
  new n r' hr hn := by
    rw [record?_modifyRecord, hn] at hr
    split at hr <;> cases hr
  sound h := h.modify id path

theorem ensure_shift (s : Service) (p : Path) : Shift s (s.ensure p).1 where
  embedded := rfl
  log := rfl
  jobs := rfl
  nextJob := rfl
  stays _ r hr := ⟨r, Registry.record?_ensure_of_record? hr p, rfl, rfl, rfl⟩
  new _ _ hr hn := by
    rcases Registry.record?_ensure hr with hr | ⟨-, -, -, rfl⟩
    · rw [hn] at hr
      cases hr
    · exact ⟨rfl, rfl⟩
  sound h := h.ensure p

theorem editor_shift (s : Service) (editor : Editor) : Shift s { s with editor } :=
  .of_same rfl rfl rfl rfl rfl

theorem outbox_shift (s : Service) (outbox : Outbox) : Shift s { s with outbox } :=
  .of_same rfl rfl rfl rfl rfl

theorem forget_shift (s : Service) (p : Path) : Shift s (s.forget p) where
  embedded := rfl
  log := rfl
  jobs := rfl
  nextJob := rfl
  stays _ r hr := ⟨r, hr, rfl, rfl, rfl⟩
  new _ _ hr hn := nomatch hn.symm.trans hr
  sound h := h.forget p

theorem bump_shift (s : Service) (id : Nat) : Shift s (s.bump id) :=
  modifyRecord_shift s id (fun _ => rfl) (fun _ => rfl) fun _ => rfl

theorem setOpened_shift (s : Service) (id : Nat) (opened : Bool) : Shift s (s.setOpened id opened) :=
  (modifyRecord_shift s id (f := fun r => { r with opened }) (fun _ => rfl) (fun _ => rfl)
    fun _ => rfl).trans (bump_shift _ id)

theorem publish_shift (s : Service) (id : Nat) (found : List Diagnostic) :
    Shift s (s.publish id found) := by
  unfold publish
  split
  · exact .refl s
  · split
    · split
      · exact .refl s
      · exact (modifyRecord_shift s id (f := Record.advance) (fun _ => rfl) (fun _ => rfl)
          fun _ => rfl).trans (outbox_shift _ _)
    · exact .refl s

theorem retract_shift (s : Service) (id : Nat) : Shift s (s.retract id) :=
  (modifyRecord_shift s id (f := fun r => { r with display := none }) (fun _ => rfl) (fun _ => rfl)
    fun _ => rfl).trans (publish_shift _ id [])

theorem withdraw_shift (s : Service) (id : Nat) : Shift s (s.withdraw id) :=
  unlessOpened_ind (.refl s) fun _ _ _ => (bump_shift s id).trans (retract_shift _ id)

theorem dropUnmapped_shift (s : Service) (id : Nat) : Shift s (s.dropUnmapped id) :=
  dropUnmapped_ind (.refl s) fun _ _ _ _ => ((bump_shift s id).trans (retract_shift _ id)).trans (forget_shift _ _)

theorem takeSettings_shift (s : Service) (settings : Settings) : Shift s (s.takeSettings settings) := by
  have replaced : Shift s (s.replaceSettings settings) := .of_same rfl rfl rfl rfl rfl
  rw [takeSettings_eq]
  split
  · exact replaced.trans (.foldl dropUnmapped_shift _ _)
  · exact replaced

theorem withdrawClosed_shift (s : Service) (change : SettingsChange) :
    Shift s (s.withdrawClosed change) := by
  unfold withdrawClosed
  split
  · exact .foldl withdraw_shift _ s
  · exact .refl s

theorem diskDelete_shift (s : Service) (p : Path) : Shift s (s.diskDelete p) := by
  refine diskDelete_ind (.refl s) fun id _ _ _ _ => Shift.trans ?_ (forget_shift _ p)
  split
  · exact (bump_shift s id).trans (retract_shift _ id)
  · exact bump_shift s id

/-! ### New jobs -/

/-- A job asks for the diagnostics of records as they are now, all of them in scope. -/
structure Asks (s : Service) (b : Job) : Prop where
  inquiries : ∀ i ∈ b.inquiries, i.run = none ∧ i.snapshot = s.snapshot ∧
    ∃ r, s.registry.record? i.record = some r ∧ i.token = s.tokenOf r
  targets : ∀ t ∈ b.targets, t.answer = none ∧
    ∃ r, s.registry.record? t.inquiry.record = some r ∧ Uri.ofPath? r.path = some t.uri
  scope : ∀ i ∈ b.inquiries, ∀ r, s.registry.record? i.record = some r → s.inScope r = true
  /-- Unless it answers a request, it is an analysis with the whole delay ahead that is set. -/
  background : b.request? = none → s.ready = true ∧ ∃ i, b = .analysis (.ahead s.settings.diagnostics.delay) i

/-- There are new jobs, numbered one after another, that ask for the diagnostics of records as they are
now, and nothing else has changed that matters to them. -/
structure Spawns (s s' : Service) : Prop where
  registry : s'.registry = s.registry
  settingsVersion : s'.settingsVersion = s.settingsVersion
  snapshot : s'.snapshot = s.snapshot
  embedded : s'.host.embedded = s.host.embedded
  ready : s'.ready = s.ready
  log : s'.log = s.log
  jobs : ∃ added : List (Nat × Job), s'.jobs = s.jobs ++ added ∧
    s'.nextJob = s.nextJob + added.length ∧ added.map (·.1) = List.range' s.nextJob added.length ∧
    ∀ j ∈ added, s.Asks j.2

theorem Asks.congr (registry : s'.registry = s.registry)
    (settingsVersion : s'.settingsVersion = s.settingsVersion) (snapshot : s'.snapshot = s.snapshot)
    (embedded : s'.host.embedded = s.host.embedded) (ready : s'.ready = s.ready) (h : s.Asks b) :
    s'.Asks b := by
  have token : ∀ r, s'.tokenOf r = s.tokenOf r := fun r => by simp only [tokenOf, settingsVersion]
  have settings : s'.settings = s.settings := congrArg Snapshot.settings snapshot
  have scope : ∀ r, s'.inScope r = s.inScope r := fun r => by simp only [inScope, settings, embedded]
  refine ⟨fun i hi => ?_, fun t ht => ?_, fun i hi r hr => ?_, fun plain => ?_⟩
  · obtain ⟨hn, hs, r, hr, hk⟩ := h.inquiries i hi
    exact ⟨hn, hs.trans snapshot.symm, r, registry ▸ hr, hk.trans (token r).symm⟩
  · obtain ⟨ha, r, hr, hu⟩ := h.targets t ht
    exact ⟨ha, r, registry ▸ hr, hu⟩
  · rw [scope]
    exact h.scope i hi r (registry ▸ hr)
  · rw [ready, settings]
    exact h.background plain

namespace Spawns

/-- Only what does not matter to jobs has changed. -/
theorem of_same (registry : s'.registry = s.registry)
    (settingsVersion : s'.settingsVersion = s.settingsVersion) (snapshot : s'.snapshot = s.snapshot)
    (embedded : s'.host.embedded = s.host.embedded) (ready : s'.ready = s.ready) (log : s'.log = s.log)
    (jobs : s'.jobs = s.jobs) (nextJob : s'.nextJob = s.nextJob) : Spawns s s' :=
  ⟨registry, settingsVersion, snapshot, embedded, ready, log, [], by simp [jobs], by simp [nextJob], rfl,
    by simp⟩

theorem refl (s : Service) : Spawns s s := of_same rfl rfl rfl rfl rfl rfl rfl rfl

theorem trans (h : Spawns s s') (h' : Spawns s' t) : Spawns s t where
  registry := h'.registry.trans h.registry
  settingsVersion := h'.settingsVersion.trans h.settingsVersion
  snapshot := h'.snapshot.trans h.snapshot
  embedded := h'.embedded.trans h.embedded
  ready := h'.ready.trans h.ready
  log := h'.log.trans h.log
  jobs := by
    obtain ⟨added, jobs, next, numbers, asks⟩ := h.jobs
    obtain ⟨added', jobs', next', numbers', asks'⟩ := h'.jobs
    refine ⟨added ++ added', ?_, ?_, ?_, fun j hj => ?_⟩
    · rw [jobs', jobs, List.append_assoc]
    · rw [next', next, List.length_append, Nat.add_assoc]
    · rw [List.map_append, numbers, numbers', next, List.length_append, ← List.range'_append_1]
    · refine (List.mem_append.1 hj).elim (asks j) fun hj => ?_
      exact (asks' j hj).congr h.registry.symm h.settingsVersion.symm h.snapshot.symm h.embedded.symm
        h.ready.symm

theorem foldl {f : Service → Nat → Service} (h : ∀ s n, Spawns s (f s n)) (l : List Nat) (s : Service) :
    Spawns s (l.foldl f s) :=
  List.foldlRecOn l f (refl s) fun t spawns n _ => spawns.trans (h t n)

theorem outbox (s : Service) (outbox : Outbox) : Spawns s { s with outbox } :=
  of_same rfl rfl rfl rfl rfl rfl rfl rfl

theorem spawn (h : s.Asks b) : Spawns s (s.spawn b) :=
  ⟨rfl, rfl, rfl, rfl, rfl, rfl, [(s.nextJob, b)], rfl, rfl, rfl, by simpa using h⟩

/-- A job is an old one or a new one with a new number. -/
theorem mem_jobs (h : Spawns s s') {j : Nat × Job} (hj : j ∈ s'.jobs) :
    j ∈ s.jobs ∨ s'.Asks j.2 ∧ s.nextJob ≤ j.1 ∧ j.1 < s'.nextJob := by
  obtain ⟨added, jobs, next, numbers, asks⟩ := h.jobs
  rw [jobs] at hj
  refine (List.mem_append.1 hj).imp_right fun hj => ?_
  have number : j.1 ∈ List.range' s.nextJob added.length := numbers ▸ List.mem_map_of_mem hj
  rw [List.mem_range'_1] at number
  exact ⟨(asks j hj).congr h.registry h.settingsVersion h.snapshot h.embedded h.ready, number.1,
    next ▸ number.2⟩

theorem nextJob_le (h : Spawns s s') : s.nextJob ≤ s'.nextJob := by
  obtain ⟨added, -, next, -⟩ := h.jobs
  omega

theorem lasts (h : Spawns s s') : Lasts s s' where
  log _ hx := h.log.symm ▸ hx
  records _ r hr := ⟨r, h.registry.symm ▸ hr, rfl, .refl _⟩

end Spawns

/-- A job that asks for the diagnostics of one record in scope, and reports on no documents together. -/
theorem asks_alone (hr : s.registry.record? id = some r) (inside : s.inScope r = true)
    (inquiries : b.inquiries = [s.inquire id r]) (targets : b.targets = [])
    (background : b.request? = none → s.ready = true ∧ ∃ i, b = .analysis (.ahead s.settings.diagnostics.delay) i) :
    s.Asks b := by
  refine ⟨fun i hi => ?_, fun t ht => ?_, fun i hi r' hr' => ?_, background⟩
  · obtain rfl := List.mem_singleton.1 (inquiries ▸ hi)
    exact ⟨rfl, rfl, r, hr, rfl⟩
  · exact absurd (targets ▸ ht) List.not_mem_nil
  · obtain rfl := List.mem_singleton.1 (inquiries ▸ hi)
    obtain rfl := Option.some.inj (hr.symm.trans hr')
    exact inside

theorem analyze_spawns (s : Service) (id : Nat) : Spawns s (s.analyze id) := by
  unfold analyze
  split
  · exact .refl s
  next r hr =>
    split
    next wanted =>
      obtain ⟨able, inside⟩ := Bool.and_eq_true_iff.1 wanted
      exact .spawn (asks_alone hr inside rfl rfl fun _ => ⟨(Bool.and_eq_true_iff.1 able).1, _, rfl⟩)
    · exact .refl s

theorem analyzeAll_spawns (s : Service) : Spawns s s.analyzeAll := .foldl analyze_spawns _ s

/-- A target is the request for a record as it is now. The record is in scope, and it is not open. -/
theorem target?_eq {known : List Message.KnownResult} {u : Target} (h : s.target? known id = some u) :
    ∃ r uri, s.registry.record? id = some r ∧ Uri.ofPath? r.path = some uri ∧
      u = ⟨uri, previousResult known uri, s.inquire id r, none⟩ ∧ r.opened = false ∧
        s.inScope r = true := by
  unfold target? at h
  split at h
  · cases h
  next r hr =>
    split at h
    · cases h
    next wanted =>
      obtain ⟨uri, hu, rfl⟩ := Option.map_eq_some_iff.1 h
      simp only [Bool.or_eq_true, Bool.not_eq_true', not_or, Bool.not_eq_true, Bool.not_eq_false] at wanted
      exact ⟨r, uri, hr, hu, rfl, wanted⟩

theorem pullWorkspace_spawns (s : Service) (request : RequestId) (known : List Message.KnownResult) :
    Spawns s (s.pullWorkspace request known) := by
  have wanted : ∀ u ∈ s.registry.all.filterMap (s.target? known), ∃ id r uri,
      s.registry.record? id = some r ∧ Uri.ofPath? r.path = some uri ∧
        u = ⟨uri, previousResult known uri, s.inquire id r, none⟩ ∧ r.opened = false ∧
          s.inScope r = true := by
    intro u hu
    obtain ⟨id, -, h⟩ := List.mem_filterMap.1 hu
    exact ⟨id, target?_eq h⟩
  refine .spawn ⟨fun i hi => ?_, fun u hu => ?_, fun i hi r' hr' => ?_, nofun⟩
  · obtain ⟨u, hu, rfl⟩ := List.mem_map.1 hi
    obtain ⟨id, r, uri, hr, -, rfl, -⟩ := wanted u hu
    exact ⟨rfl, rfl, r, hr, rfl⟩
  · obtain ⟨id, r, uri, hr, hp, rfl, -⟩ := wanted u hu
    exact ⟨rfl, r, hr, hp⟩
  · obtain ⟨u, hu, rfl⟩ := List.mem_map.1 hi
    obtain ⟨id, r, uri, hr, -, rfl, -, inside⟩ := wanted u hu
    obtain rfl := Option.some.inj (hr.symm.trans hr')
    exact inside

/-- What a request for the diagnostics of a document does, once the document has a record: it is answered
at once, or a job will answer if the document is in scope. -/
theorem pullDocument_eq {request : RequestId} {p : Message.DocumentPull}
    (h : s.pullDocument request p = .ok t) : ∃ path, p.uri.path? = some path ∧
      (t = (s.ensure path).1 ∨ (∃ reply, t = (s.ensure path).1.reply request reply) ∨
        ∃ r, (s.ensure path).1.registry.record? (s.ensure path).2 = some r ∧
          (s.ensure path).1.inScope r = true ∧
          t = (s.ensure path).1.spawn (.pull request ((s.ensure path).1.inquire (s.ensure path).2 r))) := by
  obtain ⟨path, hp, h⟩ := ok_of_pathOf h
  refine ⟨path, hp, ?_⟩
  dsimp only at h
  split at h
  · exact Or.inl (Except.ok.inj h).symm
  next r hr =>
    split at h
    · exact Or.inr (Or.inl ⟨_, (Except.ok.inj h).symm⟩)
    next scope =>
      have inside : (s.ensure path).1.inScope r = true := by simpa using scope
      split at h
      · exact Or.inr (Or.inl ⟨_, (Except.ok.inj h).symm⟩)
      · exact Or.inr (Or.inr ⟨r, hr, inside, (Except.ok.inj h).symm⟩)

/-! ### Events -/

/-- First records change, then there are new jobs. -/
def Brings (s s' : Service) : Prop := ∃ t, Shift s t ∧ Spawns t s'

theorem Shift.brings (h : Shift s s') : Brings s s' := ⟨s', h, .refl s'⟩

theorem Spawns.brings (h : Spawns s s') : Brings s s' := ⟨s, .refl s, h⟩

theorem Shift.andBrings (h : Shift s s') (h' : Brings s' t) : Brings s t := by
  obtain ⟨u, shift, spawns⟩ := h'
  exact ⟨u, h.trans shift, spawns⟩

theorem fileEvent_brings (s : Service) (e : Message.FileEvent) : Brings s (s.fileEvent e) :=
  fileEvent_ind (Shift.refl s).brings (fun p _ => (ensure_shift s p).brings)
    (fun p _ => (ensure_shift s p).andBrings (analyze_spawns _ _).brings)
    (fun p _ => ((ensure_shift s p).trans (bump_shift _ _)).andBrings (analyze_spawns _ _).brings)
    fun p _ _ => (diskDelete_shift s p).brings

theorem reconsider_brings (s : Service) (change : SettingsChange) : Brings s (s.reconsider change) := by
  rw [reconsider_eq]
  split
  · exact ((Shift.foldl retract_shift _ s).trans (outbox_shift _ _)).brings
  · split
    · exact ⟨_, withdrawClosed_shift s change, (analyzeAll_spawns _).trans (.outbox _ _)⟩
    · exact (withdrawClosed_shift s change).brings

theorem configure_brings (s : Service) (settings : Settings) : Brings s (s.configure settings) := by
  unfold configure
  dsimp only
  split
  · exact (takeSettings_shift s settings).andBrings (reconsider_brings _ _)
  · exact (takeSettings_shift s settings).andBrings (analyzeAll_spawns _).brings

/-- An event that is no poll changes records first and then brings jobs. -/
theorem step_brings (s : Service) {e : Event} (h : ∀ job, e ≠ .polled job) : Brings s (s.step e) := by
  cases e with
  | opened uri text version =>
    refine orUnchanged_ind (Shift.refl s).brings fun t ht => ?_
    obtain ⟨p, -, rfl⟩ := didOpen_eq ht
    exact ⟨_, ((editor_shift s _).trans (ensure_shift _ p)).trans (setOpened_shift _ _ true),
      analyze_spawns _ _⟩
  | edited uri edits version =>
    refine orUnchanged_ind (Shift.refl s).brings fun t ht => ?_
    obtain ⟨p, editor, -, -, rfl⟩ := didChange_eq ht
    exact ⟨_, ((editor_shift s editor).trans (ensure_shift _ p)).trans (bump_shift _ _),
      analyze_spawns _ _⟩
  | closed uri =>
    refine orUnchanged_ind (Shift.refl s).brings fun t ht => ?_
    obtain ⟨p, -, rfl⟩ := didClose_eq ht
    have moved := ((editor_shift s (s.editor.closed p)).trans (ensure_shift _ p)).trans
      (setOpened_shift _ (s.ensure p).2 false)
    dsimp only
    split
    · exact ⟨_, moved, analyze_spawns _ _⟩
    · exact (moved.trans (retract_shift _ _)).brings
  | file e => exact fileEvent_brings s e
  | configured settings => exact configure_brings s settings
  | pulled request p =>
    refine orUnchanged_ind (Shift.refl s).brings fun t ht => ?_
    obtain ⟨path, -, rfl | ⟨reply, rfl⟩ | ⟨r, hr, inside, rfl⟩⟩ := pullDocument_eq ht
    · exact (ensure_shift s path).brings
    · exact ⟨_, ensure_shift s path, .outbox _ _⟩
    · exact ⟨_, ensure_shift s path, .spawn (asks_alone hr inside rfl rfl nofun)⟩
  | pulledAll request known => exact (pullWorkspace_spawns s request known).brings
  | polled job => exact absurd rfl (h job)
  | elapsed milliseconds =>
    have same : Shift s (s.elapse milliseconds) := .of_same rfl rfl rfl rfl rfl
    exact same.brings
  | released gate =>
    have same : Shift s (s.release gate) := .of_same rfl rfl rfl rfl rfl
    exact same.brings
  | host host =>
    have same : Shift s (s.withHost { host with embedded := s.host.embedded }) :=
      .of_same rfl rfl rfl rfl rfl
    exact same.brings

/-! ### Jobs after a poll -/

variable {job : Nat}

/-- How a poll leaves a job concerns nothing but the jobs and the messages. -/
theorem Leaves.beside (h : Leaves s job b s') : ∃ jobs outbox, s' = { s with jobs, outbox } := by
  cases h with
  | rests => exact ⟨s.jobs, s.outbox, rfl⟩
  | goesOn => exact ⟨_, s.outbox, rfl⟩
  | ends => exact ⟨_, s.outbox, rfl⟩
  | answers => exact ⟨_, _, rfl⟩
  | refuses => exact ⟨_, _, rfl⟩

/-- A job after a poll was there before or is what has become of the one polled. -/
theorem Leaves.mem_jobs (h : Leaves s job b s') {j : Nat × Job} (hj : j ∈ s'.jobs) :
    j ∈ s.jobs ∨ j.1 = job ∧ JobHeir s b j.2 ∧ ∃ b', (job, b') ∈ s.jobs := by
  cases h with
  | rests => exact Or.inl hj
  | goesOn heir =>
    rcases mem_setJob hj with ⟨b', hb, rfl⟩ | ⟨-, hj⟩
    · exact Or.inr ⟨rfl, heir, b', hb⟩
    · exact Or.inl hj
  | ends => exact Or.inl (List.mem_filter.1 hj).1
  | answers => exact Or.inl (List.mem_filter.1 hj).1
  | refuses => exact Or.inl (List.mem_filter.1 hj).1

/-- A poll makes no number for a job. -/
theorem Leaves.numbers (h : Leaves s job b s') : (s'.jobs.map (·.1)).Sublist (s.jobs.map (·.1)) := by
  have ended : ((s.endJob job).jobs.map (·.1)).Sublist (s.jobs.map (·.1)) :=
    (List.filter_sublist).map _
  cases h with
  | rests => exact List.Sublist.refl _
  | @goesOn b' =>
    have same : (s.setJob job b').jobs.map (·.1) = s.jobs.map (·.1) := by
      refine (List.map_map ..).trans (List.map_congr_left fun j _ => ?_)
      dsimp only [Function.comp_apply]
      split
      next own => exact (eq_of_beq own).symm
      · rfl
    exact same ▸ List.Sublist.refl _
  | ends => exact ended
  | answers => exact ended
  | refuses => exact ended

/-! ### Every session -/

/-- What holds in every session. -/
structure Intact (s : Service) : Prop where
  registry : s.registry.Sound
  tidy : s.Tidy
  jobs : ∀ j ∈ s.jobs, s.Waiting j.2
  /-- The number of the next job is new. -/
  fresh : ∀ j ∈ s.jobs, j.1 < s.nextJob
  /-- Every job has a number of its own. -/
  distinct : (s.jobs.map (·.1)).Nodup
  /-- The host has been asked for nothing about a record that is not there. -/
  unheard : ∀ id, s.registry.record? id = none → ∀ x ∈ s.log, x.isFor id = false

/-- A job is found under its number. -/
theorem Intact.job?_of_mem (h : s.Intact) (hb : (job, b) ∈ s.jobs) : s.job? job = some b := by
  have there : (s.job? job).isSome = true := by
    simp only [job?, Option.isSome_map, List.find?_isSome]
    exact ⟨(job, b), hb, beq_self_eq_true job⟩
  obtain ⟨b', hb'⟩ := Option.isSome_iff_exists.1 there
  have same : b' = b := congrArg Prod.snd (List.inj_on_of_nodup_map h.distinct (mem_of_job? hb') hb rfl)
  exact same ▸ hb'

theorem Intact.poll_cases (h : s.Intact) (job : Nat) :
    s.poll job = s ∨ ∃ b t, s.job? job = some b ∧ Course (· ∈ b.inquiries) s t ∧
      Leaves t job b (s.poll job) := by
  cases hj : s.job? job with
  | none =>
    refine Or.inl ?_
    unfold poll
    rw [hj]
  | some b =>
    obtain ⟨t, course, leaves⟩ := poll_leaves h.tidy hj (h.jobs _ (mem_of_job? hj))
    exact Or.inr ⟨b, t, rfl, course, leaves⟩

/-- What an event does: it is a poll, in which the job polled takes its course and is left in some way; or
records change and then there are new jobs. A poll of a job that is not there changes nothing. -/
theorem Intact.step_cases (h : s.Intact) (e : Event) :
    (∃ job b t jobs outbox, e = .polled job ∧ s.job? job = some b ∧ Course (· ∈ b.inquiries) s t ∧
      Leaves t job b (s.step e) ∧ s.step e = { t with jobs, outbox }) ∨ Brings s (s.step e) := by
  by_cases poll : ∃ job, e = .polled job
  · obtain ⟨job, rfl⟩ := poll
    rcases h.poll_cases job with same | ⟨b, t, hj, course, leaves⟩
    · refine Or.inr ?_
      show Brings s (s.poll job)
      rw [same]
      exact (Shift.refl s).brings
    · obtain ⟨jobs, outbox, he⟩ := leaves.beside
      exact Or.inl ⟨job, b, t, jobs, outbox, rfl, hj, course, leaves, he⟩
  · exact Or.inr (step_brings s fun job he => poll ⟨job, he⟩)

theorem Intact.lasts (h : s.Intact) (e : Event) : Lasts s (s.step e) := by
  rcases h.step_cases e with ⟨job, b, t, jobs, outbox, -, -, course, -, he⟩ | ⟨t, shift, spawns⟩
  · rw [he]
    exact ⟨course.lasts.log, course.lasts.records⟩
  · exact shift.lasts.trans spawns.lasts

/-- The number of the next job does not fall. -/
theorem Intact.nextJob_le (h : s.Intact) (e : Event) : s.nextJob ≤ (s.step e).nextJob := by
  rcases h.step_cases e with ⟨job, b, t, jobs, outbox, -, -, course, -, he⟩ | ⟨t, shift, spawns⟩
  · rw [he]
    exact Nat.le_of_eq course.quiet.nextJob.symm
  · exact shift.nextJob ▸ spawns.nextJob_le

/-- What holds in every session holds after a job has taken its course. -/
theorem Intact.leave (h : s.Intact) (course : Course (· ∈ b.inquiries) s t) (leaves : Leaves t job b s')
    (lasts : Lasts s s') (next : s.nextJob ≤ s'.nextJob) : s'.Intact := by
  obtain ⟨jobs, outbox, he⟩ := leaves.beside
  have sameJobs := course.quiet.jobs
  refine ⟨?_, ?_, fun j hj => ?_, fun j hj => ?_, ?_, fun id hn => ?_⟩
  · rw [he]
    exact course.quiet.sound h.registry
  · rw [he]
    exact course.tidy h.tidy
  · rcases leaves.mem_jobs hj with hj | ⟨-, heir, -⟩
    · exact (h.jobs j (sameJobs ▸ hj)).lasts lasts
    · rw [he]
      exact ⟨heir.waiting.waits, heir.waiting.reports⟩
  · rcases leaves.mem_jobs hj with hj | ⟨hn, -, b', hb'⟩
    · exact Nat.lt_of_lt_of_le (h.fresh j (sameJobs ▸ hj)) next
    · rw [hn]
      exact Nat.lt_of_lt_of_le (h.fresh (job, b') (sameJobs ▸ hb')) next
  · exact leaves.numbers.nodup (sameJobs.symm ▸ h.distinct)
  · rw [he] at hn ⊢
    have before : s.registry.record? id = none := by
      refine Option.eq_none_iff_forall_ne_some.2 fun r hr => ?_
      obtain ⟨r', hr', -⟩ := course.quiet.records id r hr
      exact nomatch hr'.symm.trans hn
    exact course.unheard before (h.unheard id before)

/-- It also holds after records have changed and new jobs have come. -/
theorem Intact.bring (h : s.Intact) (shift : Shift s t) (spawns : Spawns t s') (lasts : Lasts s s')
    (next : s.nextJob ≤ s'.nextJob) : s'.Intact := by
  refine ⟨spawns.registry ▸ shift.sound h.registry, fun id r hr => ?_, fun j hj => ?_, fun j hj => ?_, ?_,
    fun id hn => ?_⟩
  · exact shift.tidy h.tidy id r (spawns.registry ▸ hr)
  · rcases spawns.mem_jobs hj with hj | ⟨asks, -, -⟩
    · exact (h.jobs j (shift.jobs ▸ hj)).lasts lasts
    · refine ⟨fun i hi n hn => ?_, fun u hu report ha => ?_⟩
      · rw [(asks.inquiries i hi).1] at hn
        cases hn
      · rw [(asks.targets u hu).1] at ha
        cases ha
  · rcases spawns.mem_jobs hj with hj | ⟨-, -, lt⟩
    · exact Nat.lt_of_lt_of_le (h.fresh j (shift.jobs ▸ hj)) next
    · exact lt
  · obtain ⟨added, jobs, -, numbers, -⟩ := spawns.jobs
    rw [jobs, shift.jobs, List.map_append, numbers, shift.nextJob, List.nodup_append]
    refine ⟨h.distinct, List.nodup_range', fun m hm n hn => ?_⟩
    obtain ⟨j, hj, rfl⟩ := List.mem_map.1 hm
    exact Nat.ne_of_lt (Nat.lt_of_lt_of_le (h.fresh j hj) (List.mem_range'_1.1 hn).1)
  · rw [spawns.log, shift.log]
    refine h.unheard id (Option.eq_none_iff_forall_ne_some.2 fun r hr => ?_)
    obtain ⟨r', hr', -⟩ := shift.stays id r hr
    rw [← spawns.registry, hn] at hr'
    cases hr'

theorem Intact.step (h : s.Intact) (e : Event) : (s.step e).Intact := by
  rcases h.step_cases e with ⟨_, _, _, _, _, -, -, course, leaves, -⟩ | ⟨_, shift, spawns⟩
  · exact h.leave course leaves (h.lasts e) (h.nextJob_le e)
  · exact h.bring shift spawns (h.lasts e) (h.nextJob_le e)

theorem intact_start (host : Host) (delivery : Delivery) (settings : Settings) (waits : Bool) :
    (start host delivery settings waits).Intact where
  registry := Registry.sound_empty
  tidy _ _ hr := nomatch hr
  jobs _ hj := nomatch hj
  fresh _ hj := nomatch hj
  distinct := List.nodup_nil
  unheard _ _ _ hx := nomatch hx

theorem Intact.after (h : s.Intact) (es : List Event) : (s.after es).Intact := by
  induction es using List.reverseRecOn with
  | nil => exact h
  | append_singleton es e ih =>
    rw [after_snoc]
    exact ih.step e

theorem Intact.nextJob_le_after (h : s.Intact) (es : List Event) : s.nextJob ≤ (s.after es).nextJob := by
  induction es using List.reverseRecOn with
  | nil => exact Nat.le_refl _
  | append_singleton es e ih =>
    rw [after_snoc]
    exact Nat.le_trans ih ((h.after es).nextJob_le e)

/-- Records stay, and so does what has been noted. -/
theorem Intact.lasts_after (h : s.Intact) (es : List Event) : Lasts s (s.after es) := by
  induction es using List.reverseRecOn with
  | nil => exact .refl s
  | append_singleton es e ih =>
    rw [after_snoc]
    exact ih.trans ((h.after es).lasts e)

/-- Whether the host is embedded does not change. -/
theorem Intact.embedded (h : s.Intact) (e : Event) : (s.step e).host.embedded = s.host.embedded := by
  rcases h.step_cases e with ⟨job, b, t, jobs, outbox, -, -, course, -, he⟩ | ⟨t, shift, spawns⟩
  · rw [he]
    exact congrArg Host.embedded course.quiet.host
  · exact spawns.embedded.trans shift.embedded

theorem Intact.embedded_after (h : s.Intact) (es : List Event) :
    (s.after es).host.embedded = s.host.embedded := by
  induction es using List.reverseRecOn with
  | nil => rfl
  | append_singleton es e ih =>
    rw [after_snoc]
    exact ((h.after es).embedded e).trans ih

/-- Whatever happens in a session, jobs wait for what they may wait for and have found what they report. -/
theorem session_intact (host : Host) (delivery : Delivery) (settings : Settings) (waits : Bool)
    (es : List Event) : (session host delivery settings waits es).Intact :=
  (intact_start host delivery settings waits).after es

variable {host : Host} {delivery : Delivery} {settings : Settings} {waits : Bool} {es es' : List Event}

theorem session_lasts (h : es <+: es') :
    Lasts (session host delivery settings waits es) (session host delivery settings waits es') := by
  obtain ⟨rest, rfl⟩ := h
  rw [session_append]
  exact (session_intact host delivery settings waits es).lasts_after rest

/-- A job after an event was there before, or it is a new one with a new number. -/
theorem Intact.mem_jobs (h : s.Intact) (e : Event) {j : Nat × Job} (hj : j ∈ (s.step e).jobs) :
    (∃ b, (j.1, b) ∈ s.jobs ∧ SameJob b j.2) ∨ (s.step e).Asks j.2 ∧ s.nextJob ≤ j.1 := by
  rcases h.step_cases e with ⟨job, b, t, jobs, outbox, -, hb, course, leaves, -⟩ | ⟨t, shift, spawns⟩
  · refine Or.inl ?_
    rcases leaves.mem_jobs hj with hj | ⟨rfl, heir, -⟩
    · exact ⟨j.2, course.quiet.jobs ▸ hj, .refl _⟩
    · exact ⟨b, mem_of_job? hb, heir.same⟩
  · rcases spawns.mem_jobs hj with hj | ⟨asks, le, -⟩
    · exact Or.inl ⟨j.2, shift.jobs ▸ hj, .refl _⟩
    · exact Or.inr ⟨asks, shift.nextJob ▸ le⟩

/-! ### What lasts for a record -/

/-- A job asks for this. -/
def Asked (s : Service) (i : Inquiry) : Prop := ∃ j ∈ s.jobs, i ∈ j.2.inquiries

/-- What holds of a record and what the host has been asked for lasts over an event if only the path and
the caches of the record matter to it and it lasts over every act of a poll. -/
theorem Intact.record {I : List Exchange → Record → Prop} (h : s.Intact) (e : Event)
    (same : ∀ {log r r'}, r'.path = r.path → r'.texts = r.texts → r'.results = r.results → I log r →
      I log r')
    (own : ∀ {t r r' xs}, Quiet s t → t.registry.record? id = some r → Act s.Asked t id r r' xs →
      I t.log r → I (xs ++ t.log) r')
    (others : ∀ {log r xs}, (∀ x ∈ xs, x.isFor id = false) → I log r → I (xs ++ log) r)
    (hr : s.registry.record? id = some r) (hi : I s.log r) :
    ∃ r', (s.step e).registry.record? id = some r' ∧ I (s.step e).log r' := by
  rcases h.step_cases e with ⟨job, b, t, jobs, outbox, -, hj, course, -, he⟩ | ⟨t, shift, spawns⟩
  · rw [he]
    exact (course.mono fun i hb => ⟨_, mem_of_job? hj, hb⟩).record own others hr hi
  · obtain ⟨r', hr', path, texts, results⟩ := shift.stays id r hr
    rw [spawns.registry, spawns.log, shift.log]
    exact ⟨r', hr', same path texts results hi⟩

/-- A record that an event has made is empty, and the host has been asked for nothing about it. -/
theorem Intact.record_new (h : s.Intact) (e : Event) (hr : (s.step e).registry.record? id = some r)
    (hn : s.registry.record? id = none) :
    r.texts = Cache.empty ∧ r.results = Cache.empty ∧ ∀ x ∈ (s.step e).log, x.isFor id = false := by
  rcases h.step_cases e with ⟨job, b, t, jobs, outbox, -, -, course, -, he⟩ | ⟨t, shift, spawns⟩
  · rw [he] at hr
    obtain ⟨r₀, hr₀, -⟩ := course.quiet.of_record? hr
    rw [hn] at hr₀
    cases hr₀
  · obtain ⟨texts, results⟩ := shift.new id r (spawns.registry ▸ hr) hn
    rw [spawns.log, shift.log]
    exact ⟨texts, results, h.unheard id hn⟩

end ShaderDiagnostics.Service
