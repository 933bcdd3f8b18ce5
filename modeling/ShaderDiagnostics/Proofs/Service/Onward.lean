import ShaderDiagnostics.Proofs.Service.Changes
import ShaderDiagnostics.Proofs.Service.Runs

/-!
# What events leave alone

An event other than new settings leaves the settings and what follows from them alone, and only a new host
changes the host. Under any event records stay, and so do the validations that have been started for them
(`Service.Lasts`): whatever has ended has ended for ever.
-/

namespace ShaderDiagnostics.Service

variable {leaving : Nat → Prop} {s s' : Service}

/-- The service has gone on under the same settings: records stay, and so do the validations that have
been started for them. -/
structure Onward (s s' : Service) : Prop where
  host : s'.host = s.host
  delivery : s'.delivery = s.delivery
  settings : s'.settings = s.settings
  settingsVersion : s'.settingsVersion = s.settingsVersion
  validator : s'.validator = s.validator
  ready : s'.ready = s.ready
  log : ∀ x ∈ s.log, x ∈ s'.log
  records : ∀ id r, s.registry.record? id = some r →
    ∃ r', s'.registry.record? id = some r' ∧ r'.path = r.path ∧ r.results.Grows r'.results

/-- The editor, jobs and what is known of paths do not matter to this. -/
theorem beside_onward (s : Service) (editor : Editor) (registry : Registry) (jobs : List (Nat × Job))
    (nextJob : Nat)
    (h : ∀ id r, s.registry.record? id = some r →
      ∃ r', registry.record? id = some r' ∧ r'.path = r.path ∧ r.results.Grows r'.results) :
    Onward s { s with editor, registry, jobs, nextJob } where
  host := rfl
  delivery := rfl
  settings := rfl
  settingsVersion := rfl
  validator := rfl
  ready := rfl
  log _ hx := hx
  records := h

namespace Onward

theorem refl (s : Service) : Onward s s :=
  beside_onward s _ _ _ _ fun _ r hr => ⟨r, hr, rfl, .refl _⟩

theorem trans {s₁ s₂ s₃ : Service} (h₁ : Onward s₁ s₂) (h₂ : Onward s₂ s₃) : Onward s₁ s₃ where
  host := h₂.host.trans h₁.host
  delivery := h₂.delivery.trans h₁.delivery
  settings := h₂.settings.trans h₁.settings
  settingsVersion := h₂.settingsVersion.trans h₁.settingsVersion
  validator := h₂.validator.trans h₁.validator
  ready := h₂.ready.trans h₁.ready
  log x hx := h₂.log x (h₁.log x hx)
  records id r hr := by
    obtain ⟨r₂, hr₂, hp₂, g₂⟩ := h₁.records id r hr
    obtain ⟨r₃, hr₃, hp₃, g₃⟩ := h₂.records id r₂ hr₂
    exact ⟨r₃, hr₃, hp₃.trans hp₂, g₂.trans g₃⟩

theorem foldl {f : Service → Nat → Service} (h : ∀ s n, Onward s (f s n)) (l : List Nat) (s : Service) :
    Onward s (l.foldl f s) :=
  List.foldlRecOn l f (refl s) fun t o n _ => o.trans (h t n)

end Onward

theorem Quiet.onward (q : Quiet s s') : Onward s s' where
  host := q.host
  delivery := q.delivery
  settings := q.settings
  settingsVersion := q.settingsVersion
  validator := q.validator
  ready := q.ready
  log := q.log
  records id r hr := by
    obtain ⟨r', hr', g⟩ := q.records id r hr
    exact ⟨r', hr', g.path, g.results⟩

theorem Kept.poll_onward (k : s.Kept leaving) (job : Nat) : Onward s (s.poll job) := by
  have o := (k.poll_quiet job).onward
  exact ⟨o.host, o.delivery, o.settings, o.settingsVersion, o.validator, o.ready, o.log, o.records⟩

theorem ensure_onward (s : Service) (p : Path) : Onward s (s.ensure p).1 :=
  beside_onward s _ _ _ _ fun _ r hr => ⟨r, Registry.record?_ensure_of_record? hr p, rfl, .refl _⟩

theorem editor_onward (s : Service) (editor : Editor) : Onward s { s with editor } :=
  beside_onward s editor _ _ _ fun _ r hr => ⟨r, hr, rfl, .refl _⟩

theorem analyze_onward (s : Service) (id : Nat) : Onward s (s.analyze id) := by
  unfold analyze
  split
  · exact .refl s
  · split
    · exact beside_onward s _ _ _ _ fun _ r hr => ⟨r, hr, rfl, .refl _⟩
    · exact .refl s

theorem forget_onward (s : Service) (p : Path) : Onward s (s.forget p) :=
  beside_onward s _ _ _ _ fun _ r hr => ⟨r, hr, rfl, .refl _⟩

theorem modifyRecord_onward (s : Service) (id : Nat) {f : Record → Record}
    (path : ∀ r, (f r).path = r.path) (results : ∀ r, (f r).results = r.results) :
    Onward s (s.modifyRecord id f) := by
  refine beside_onward s _ _ _ _ fun n r hr => ?_
  rw [Registry.record?_modify, hr]
  split
  · exact ⟨f r, rfl, path r, (results r).symm ▸ .refl _⟩
  · exact ⟨r, rfl, rfl, .refl _⟩

theorem bump_onward (s : Service) (id : Nat) : Onward s (s.bump id) :=
  modifyRecord_onward s id (fun _ => rfl) fun _ => rfl

theorem setOpened_onward (s : Service) (id : Nat) (opened : Bool) : Onward s (s.setOpened id opened) :=
  (modifyRecord_onward s id (f := fun r => { r with opened }) (fun _ => rfl) fun _ => rfl).trans
    (bump_onward _ id)

theorem withdraw_onward (s : Service) (id : Nat) : Onward s (s.withdraw id) :=
  unlessOpened_ind (.refl s) fun _ _ _ => (bump_onward s id).trans (retract_quiet _ id).onward

theorem dropUnmapped_onward (s : Service) (id : Nat) : Onward s (s.dropUnmapped id) :=
  dropUnmapped_ind (.refl s) fun _ _ _ _ =>
    ((bump_onward s id).trans (retract_quiet _ id).onward).trans (forget_onward _ _)

theorem refresh_quiet (s : Service) : Quiet s s.refresh := outbox_quiet s _

/-- An event that concerns a document of the editor names its path. -/
theorem ok_of_pathOf {uri : Uri} {f : Path → Except ServiceError Service} {t : Service}
    (h : (pathOf uri >>= f) = .ok t) : ∃ p, uri.path? = some p ∧ f p = .ok t := by
  unfold pathOf at h
  split at h
  next p hp => exact ⟨p, hp, h⟩
  · cases h

theorem didOpen_eq {uri : Uri} {text : List Char} {version : Int} {t : Service}
    (h : s.didOpen uri text version = .ok t) : ∃ p, uri.path? = some p ∧
      t = (({ s with editor := s.editor.opened p text version }.ensure p).1.setOpened
        (s.ensure p).2 true).analyze (s.ensure p).2 := by
  obtain ⟨p, hp, h⟩ := ok_of_pathOf h
  exact ⟨p, hp, (Except.ok.inj h).symm⟩

theorem didChange_eq {uri : Uri} {edits : List Document.Edit} {version : Int} {t : Service}
    (h : s.didChange uri edits version = .ok t) : ∃ p editor, uri.path? = some p ∧
      s.editor.changed? p edits version = some editor ∧
      t = (({ s with editor }.ensure p).1.bump (s.ensure p).2).analyze (s.ensure p).2 := by
  obtain ⟨p, hp, h⟩ := ok_of_pathOf h
  split at h
  · cases h
  next editor he => exact ⟨p, editor, hp, he, (Except.ok.inj h).symm⟩

theorem didClose_eq {uri : Uri} {t : Service} (h : s.didClose uri = .ok t) : ∃ p, uri.path? = some p ∧
    t = (let t := ({ s with editor := s.editor.closed p }.ensure p).1.setOpened (s.ensure p).2 false
      if s.settings.diagnostics.workspace then t.analyze (s.ensure p).2
      else t.retract (s.ensure p).2) := by
  obtain ⟨p, hp, h⟩ := ok_of_pathOf h
  exact ⟨p, hp, (Except.ok.inj h).symm⟩

theorem diskDelete_onward (s : Service) (p : Path) : Onward s (s.diskDelete p) := by
  refine diskDelete_ind (.refl s) fun id _ _ _ _ => Onward.trans ?_ (forget_onward _ p)
  split
  · exact (bump_onward s id).trans (retract_quiet _ id).onward
  · exact bump_onward s id

theorem fileEvent_onward (s : Service) (e : Message.FileEvent) : Onward s (s.fileEvent e) :=
  fileEvent_ind (.refl s) (fun p _ => ensure_onward s p)
    (fun p _ => (ensure_onward s p).trans (analyze_onward _ _))
    (fun p _ => ((ensure_onward s p).trans (bump_onward _ _)).trans (analyze_onward _ _))
    fun p _ _ => diskDelete_onward s p

theorem reconsider_onward (s : Service) (change : SettingsChange) : Onward s (s.reconsider change) := by
  unfold reconsider
  split
  · exact (Onward.foldl (fun s n => (retract_quiet s n).onward) _ s).trans (refresh_quiet _).onward
  · have withdrawn : Onward s (if change.workspace && !s.settings.diagnostics.workspace then
        s.registry.all.foldl withdraw s else s) := by
      split
      · exact Onward.foldl withdraw_onward _ s
      · exact .refl s
    dsimp only
    split
    · exact (withdrawn.trans (Onward.foldl analyze_onward _ _)).trans (refresh_quiet _).onward
    · exact withdrawn

theorem takeSettings_onward (s : Service) (settings : Settings) :
    Onward (s.replaceSettings settings) (s.takeSettings settings) := by
  rw [takeSettings_eq]
  split
  · exact Onward.foldl dropUnmapped_onward _ _
  · exact .refl _

/-- New settings are taken over, and then the service goes on under them. -/
theorem configure_onward (s : Service) (settings : Settings) :
    Onward (s.replaceSettings settings) (s.configure settings) := by
  unfold configure
  dsimp only
  split
  · exact (takeSettings_onward s settings).trans (reconsider_onward _ _)
  · exact (takeSettings_onward s settings).trans (Onward.foldl analyze_onward _ _)

/-- Records and validations last, and so does what has been noted. -/
structure Lasts (s s' : Service) : Prop where
  log : ∀ x ∈ s.log, x ∈ s'.log
  records : ∀ id r, s.registry.record? id = some r →
    ∃ r', s'.registry.record? id = some r' ∧ r'.path = r.path ∧ r.results.Grows r'.results

theorem Onward.lasts (o : Onward s s') : Lasts s s' := ⟨o.log, o.records⟩

theorem Lasts.refl (s : Service) : Lasts s s := (Onward.refl s).lasts

theorem Lasts.trans {s₁ s₂ s₃ : Service} (h₁ : Lasts s₁ s₂) (h₂ : Lasts s₂ s₃) : Lasts s₁ s₃ where
  log x hx := h₂.log x (h₁.log x hx)
  records id r hr := by
    obtain ⟨r₂, hr₂, hp₂, g₂⟩ := h₁.records id r hr
    obtain ⟨r₃, hr₃, hp₃, g₃⟩ := h₂.records id r₂ hr₂
    exact ⟨r₃, hr₃, hp₃.trans hp₂, g₂.trans g₃⟩

/-- How an event other than new settings, a new host or a request changes the service, if polls of jobs do so
in the same way. -/
theorem step_onward {e : Event} (poll : ∀ job, Onward s (s.poll job)) (pull : e.isPull = false)
    (settings : ∀ settings, e ≠ .configured settings) (host : ∀ h, e ≠ .host h) :
    Onward s (s.step e) := by
  cases e with
  | opened uri text version =>
    refine orUnchanged_ind (.refl s) fun t ht => ?_
    obtain ⟨p, -, rfl⟩ := didOpen_eq ht
    exact ((((editor_onward s _).trans (ensure_onward _ p)).trans (setOpened_onward _ _ true))).trans
      (analyze_onward _ _)
  | edited uri edits version =>
    refine orUnchanged_ind (.refl s) fun t ht => ?_
    obtain ⟨p, editor, -, -, rfl⟩ := didChange_eq ht
    exact ((((editor_onward s _).trans (ensure_onward _ p)).trans (bump_onward _ _))).trans
      (analyze_onward _ _)
  | closed uri =>
    refine orUnchanged_ind (.refl s) fun t ht => ?_
    obtain ⟨p, -, rfl⟩ := didClose_eq ht
    have o := ((editor_onward s (s.editor.closed p)).trans (ensure_onward _ p)).trans
      (setOpened_onward _ (s.ensure p).2 false)
    dsimp only
    split
    · exact o.trans (analyze_onward _ _)
    · exact o.trans (retract_quiet _ _).onward
  | file e => exact fileEvent_onward s e
  | configured new => exact absurd rfl (settings new)
  | pulled id p => cases pull
  | pulledAll id known => cases pull
  | polled job => exact poll job
  | elapsed milliseconds => exact (elapse_quiet s milliseconds).onward
  | released gate => exact (release_quiet s gate).onward
  | host h => exact absurd rfl (host h)

theorem Kept.step_onward (k : s.Kept leaving) {e : Event} (pull : e.isPull = false)
    (settings : ∀ settings, e ≠ .configured settings) (host : ∀ h, e ≠ .host h) : Onward s (s.step e) :=
  Service.step_onward k.poll_onward pull settings host

theorem Kept.step_lasts (k : s.Kept leaving) {e : Event} (pull : e.isPull = false) :
    Lasts s (s.step e) := by
  by_cases settings : ∃ settings, e = .configured settings
  · obtain ⟨settings, rfl⟩ := settings
    have o := configure_onward s settings
    exact ⟨o.log, o.records⟩
  · by_cases host : ∃ h, e = .host h
    · obtain ⟨h, rfl⟩ := host
      exact ⟨fun _ hx => hx, fun _ r hr => ⟨r, hr, rfl, .refl _⟩⟩
    · exact (k.step_onward pull (fun new he => settings ⟨new, he⟩) fun h he => host ⟨h, he⟩).lasts

end ShaderDiagnostics.Service
